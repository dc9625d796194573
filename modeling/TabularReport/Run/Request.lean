import TabularReport.History.Document
import TabularReport.Statement.Assembly
import TabularReport.Template.Metadata

/-!
# Requests to run a report, and responses
-/

namespace TabularReport

/-- Read a wish for a page. -/
def PageRequest.reader : Reader PageRequest :=
  Reader.record "Pagination" <|
    PageRequest.mk <$> .fieldWith ["page", "pageNumber"] Reader.count "page" none
      <*> .optional "pageSize" Reader.count

/-- Write a wish for a page. -/
def PageRequest.toJson (p : PageRequest) : Json :=
  .object (("page", .ofNat p.page) :: Json.entryIfSome "pageSize" .ofNat p.pageSize)

/-- Write the page that a statement returns. -/
def AppliedPage.toJson (p : AppliedPage) : Json :=
  .object [("page", .ofNat p.page), ("pageSize", .ofNat p.pageSize), ("offset", .ofNat p.offset)]

/-- A request to run a report. -/
structure RunRequest where
  reportId : String
  parameters : Fields := []
  filters : Option FilterGroup := none
  sorting : List SortSpec := []
  pagination : Option PageRequest := none
  savedQueryId : Option String := none
  requesterId : String := ""
deriving Inhabited

/-- Read a request. -/
def RunRequest.reader : Reader RunRequest :=
  Reader.record "ExecuteRequest" <|
    RunRequest.mk <$> .required "reportId" Reader.string
      <*> .defaulted "parameters" Reader.fields []
      <*> .optional "filters" FilterGroup.reader
      <*> .defaulted "sorting" (Reader.list SortSpec.reader) []
      <*> .optional "pagination" PageRequest.reader
      <*> .optional "savedQueryId" Reader.string
      <*> .defaulted "requesterId" Reader.string ""

/-- Write a request. -/
def RunRequest.toJson (r : RunRequest) : Json :=
  .object <|
    [("reportId", .string r.reportId), ("parameters", .object r.parameters)] ++
      Json.entryIfSome "filters" FilterGroup.toJson r.filters ++
      [("sorting", .array (r.sorting.map SortSpec.toJson))] ++
      Json.entryIfSome "pagination" PageRequest.toJson r.pagination ++
      Json.entryIfSome "savedQueryId" .string r.savedQueryId ++
      [("requesterId", .string r.requesterId)]

/-- The rows of a run, their columns, the record of the run, and for a page the number of all rows. -/
structure RunResponse where
  execution : RunRecord
  data : List Fields
  columns : List ColumnMetadata
  totalCount : Option Nat := none
deriving Inhabited

/-- Write a response. -/
def RunResponse.toJson (r : RunResponse) : Json :=
  .object <|
    [("execution", r.execution.toJson), ("data", .array (r.data.map .object)),
      ("columns", .array (r.columns.map ColumnMetadata.toJson))] ++
      Json.entryIfSome "totalCount" .ofNat r.totalCount

end TabularReport

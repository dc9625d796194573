import TabularReport.History.Basic
import TabularReport.Template.Document

/-!
# Saved queries and records of runs as documents
-/

namespace TabularReport

/-- Read a saved query. One without a creation time was created at the time of reading, `now`. -/
def SavedQuery.reader (now : Instant) : Reader SavedQuery :=
  Reader.record "SavedQuery" <|
    SavedQuery.mk <$> .required "id" Reader.string
      <*> .required "templateId" Reader.string
      <*> .defaulted "name" Reader.string ""
      <*> .defaulted "parameters" Reader.fields []
      <*> .optional "filters" FilterGroup.reader
      <*> .defaulted "ownerId" Reader.string ""
      <*> .defaulted "createdAt" Reader.instant now

/-- Write a saved query. -/
def SavedQuery.toJson (q : SavedQuery) : Json :=
  .object <|
    [("id", .string q.id), ("templateId", .string q.templateId), ("name", .string q.name),
      ("parameters", .object q.parameters)] ++
      Json.entryIfSome "filters" FilterGroup.toJson q.filters ++
      [("ownerId", .string q.ownerId), ("createdAt", .string q.createdAt.text)]

/-- The statuses of runs. -/
def RunStatus.all : List RunStatus := [.success, .failed, .running, .scheduled, .cancelled]

/-- Read a status. -/
def RunStatus.reader : Reader RunStatus := Reader.oneOf (RunStatus.all.map fun s => (s.spelling, s))

/-- Read the record of a run. -/
def RunRecord.reader : Reader RunRecord :=
  Reader.record "ExecutionRecord" <|
    RunRecord.mk <$> .required "id" Reader.string
      <*> .required "templateId" Reader.string
      <*> .optional "savedQueryId" Reader.string
      <*> .defaulted "parameters" Reader.fields []
      <*> .optional "filters" FilterGroup.reader
      <*> .defaulted "sorting" (Reader.list SortSpec.reader) []
      <*> .required "executedAt" Reader.instant
      <*> .required "executionTimeMs" Reader.count
      <*> .required "rowCount" Reader.count
      <*> .required "status" RunStatus.reader
      <*> .optional "errorMessage" Reader.string
      <*> .required "executedBy" Reader.string

/-- Write the record of a run. -/
def RunRecord.toJson (r : RunRecord) : Json :=
  .object <|
    [("id", .string r.id), ("templateId", .string r.templateId)] ++
      Json.entryIfSome "savedQueryId" .string r.savedQueryId ++
      [("parameters", .object r.parameters)] ++
      Json.entryIfSome "filters" FilterGroup.toJson r.filters ++
      [("sorting", .array (r.sorting.map SortSpec.toJson)), ("executedAt", .string r.executedAt.text),
        ("executionTimeMs", .ofNat r.executionTimeMs), ("rowCount", .ofNat r.rowCount),
        ("status", .string r.status.spelling)] ++
      Json.entryIfSome "errorMessage" .string r.errorMessage ++
      [("executedBy", .string r.executedBy)]

end TabularReport

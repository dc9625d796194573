import TabularReport.Parameter.Document
import TabularReport.Template.Basic

/-!
# Report templates as documents
-/

namespace TabularReport

/-- The spellings of the types of columns. -/
def DataType.variants : List (String × DataType) :=
  [("string", .string), ("integer", .integer), ("decimal", .decimal), ("boolean", .boolean),
    ("date", .date), ("datetime", .datetime), ("json", .json), ("array", .array)]

/-- Read the type of a column. -/
def DataType.reader : Reader DataType := Reader.oneOf DataType.variants

/-- How the type of a column is written. -/
def DataType.spelling : DataType → String
  | .string => "string"
  | .integer => "integer"
  | .decimal => "decimal"
  | .boolean => "boolean"
  | .date => "date"
  | .datetime => "datetime"
  | .json => "json"
  | .array => "array"

/-- The spellings of the kinds of sources. -/
def SourceKind.variants : List (String × SourceKind) := [("table", .table), ("view", .view)]

/-- How the kind of a source is written. -/
def SourceKind.spelling : SourceKind → String
  | .table => "table"
  | .view => "view"

/-- Read a source. -/
def DataSource.reader : Reader DataSource :=
  Reader.record "DataSource" <|
    DataSource.mk <$> .defaulted "type" (Reader.oneOf SourceKind.variants) .table
      <*> .required "name" Reader.string
      <*> .optional "alias" Reader.string

/-- Write a source. -/
def DataSource.toJson (s : DataSource) : Json :=
  .object <|
    [("type", .string s.kind.spelling), ("name", .string s.name)] ++
      Json.entryIfSome "alias" .string s.aliasName

/-- Read a style rule. -/
def StyleRule.reader : Reader StyleRule :=
  Reader.record "StyleRule" <|
    StyleRule.mk <$> .required "operator" Operator.reader
      <*> .defaulted "value" Reader.json .null
      <*> .defaulted "style" Reader.json .null

/-- Write a style rule. -/
def StyleRule.toJson (r : StyleRule) : Json :=
  .object [("operator", .string r.operator.spelling), ("value", r.value), ("style", r.style)]

/-- The entry of a list that is written only when it has members. -/
def Json.entryIfAny (name : String) (items : List Json) : List (String × Json) :=
  if items.isEmpty then [] else [(name, .array items)]

/-- Read a column. -/
def ColumnDefinition.reader : Reader ColumnDefinition :=
  Reader.record "ColumnDefinition" <|
    ColumnDefinition.mk <$> .required "name" Reader.string
      <*> .defaulted "displayName" Reader.string ""
      <*> .defaulted "dataType" DataType.reader .string
      <*> .optional "source" Reader.string
      <*> .optional "column" Reader.string
      <*> .optional "expression" Reader.string
      <*> .defaulted "visible" Reader.bool true
      <*> .defaulted "sortable" Reader.bool false
      <*> .defaulted "filterable" Reader.bool false
      <*> .defaulted "groupable" Reader.bool false
      <*> .defaulted "aggregatable" Reader.bool false
      <*> .optional "format" Reader.string
      <*> .defaulted "styles" (Reader.list StyleRule.reader) []

/-- Write a column. -/
def ColumnDefinition.toJson (c : ColumnDefinition) : Json :=
  .object <|
    [("name", .string c.name), ("displayName", .string c.displayName),
      ("dataType", .string c.dataType.spelling)] ++
      Json.entryIfSome "source" .string c.source ++ Json.entryIfSome "column" .string c.column ++
      Json.entryIfSome "expression" .string c.expression ++
      [("visible", .bool c.visible), ("sortable", .bool c.sortable),
        ("filterable", .bool c.filterable), ("groupable", .bool c.groupable),
        ("aggregatable", .bool c.aggregatable)] ++
      Json.entryIfSome "format" .string c.format ++
      Json.entryIfAny "styles" (c.styles.map StyleRule.toJson)

/-- The spellings of the kinds of joins. -/
def JoinKind.variants : List (String × JoinKind) :=
  [("inner", .inner), ("left", .left), ("right", .right), ("full", .full)]

/-- How the kind of a join is written. -/
def JoinKind.spelling : JoinKind → String
  | .inner => "inner"
  | .left => "left"
  | .right => "right"
  | .full => "full"

/-- Read a join. -/
def JoinDefinition.reader : Reader JoinDefinition :=
  Reader.record "JoinDefinition" <|
    JoinDefinition.mk <$> .required "leftSource" Reader.string
      <*> .required "leftColumn" Reader.string
      <*> .required "rightSource" Reader.string
      <*> .required "rightColumn" Reader.string
      <*> .defaulted "type" (Reader.oneOf JoinKind.variants) .inner
      <*> .optional "condition" Reader.string

/-- Write a join. -/
def JoinDefinition.toJson (j : JoinDefinition) : Json :=
  .object <|
    [("leftSource", .string j.leftSource), ("leftColumn", .string j.leftColumn),
      ("rightSource", .string j.rightSource), ("rightColumn", .string j.rightColumn),
      ("type", .string j.kind.spelling)] ++
      Json.entryIfSome "condition" .string j.condition

/-- How the direction of a sort is written. -/
def SortDirection.spelling : SortDirection → String
  | .asc => "asc"
  | .desc => "desc"

/-- The direction that a text means: descending for its name in any letter case, else ascending. -/
def SortDirection.ofText : Option String → SortDirection
  | some s => if Text.lower s = "desc" then .desc else .asc
  | none => .asc

/-- Read a sort. -/
def SortSpec.reader : Reader SortSpec :=
  Reader.record "Raw" <|
    (fun column direction => ⟨column, .ofText direction⟩) <$> .required "column" Reader.string
      <*> .optional "direction" Reader.string

/-- Write a sort. -/
def SortSpec.toJson (s : SortSpec) : Json :=
  .object [("column", .string s.column), ("direction", .string s.direction.spelling)]

/-- The spellings of the aggregate functions. -/
def AggregateFunction.variants : List (String × AggregateFunction) :=
  [("count", .count), ("count_distinct", .countDistinct), ("sum", .sum), ("avg", .avg), ("min", .min),
    ("max", .max)]

/-- How an aggregate function is written. -/
def AggregateFunction.spelling : AggregateFunction → String
  | .count => "count"
  | .countDistinct => "count_distinct"
  | .sum => "sum"
  | .avg => "avg"
  | .min => "min"
  | .max => "max"

/-- Read an aggregate. -/
def Aggregation.reader : Reader Aggregation :=
  Reader.record "AggregationDefinition" <|
    Aggregation.mk <$> .required "function" (Reader.oneOf AggregateFunction.variants)
      <*> .required "column" Reader.string
      <*> .required "alias" Reader.string

/-- Write an aggregate. -/
def Aggregation.toJson (a : Aggregation) : Json :=
  .object [("function", .string a.function.spelling), ("column", .string a.column),
    ("alias", .string a.outputName)]

/-- Read the paging of a report. -/
def ReportConfig.pageSizeReader : Reader (Option Nat) :=
  Reader.record "PaginationDefaults" (.optional "pageSize" Reader.count)

/-- Read the shape of a report. -/
def ReportConfig.reader : Reader ReportConfig :=
  Reader.record "ReportConfig" <|
    ReportConfig.mk <$> .defaulted "columns" (Reader.list ColumnDefinition.reader) []
      <*> .defaulted "joins" (Reader.list JoinDefinition.reader) []
      <*> .defaulted "groupBy" (Reader.list Reader.string) []
      <*> .optional "having" FilterGroup.reader
      <*> .defaulted "orderBy" (Reader.list SortSpec.reader) []
      <*> .optional "filters" FilterGroup.reader
      <*> .defaulted "aggregations" (Reader.list Aggregation.reader) []
      <*> .defaulted "pagination" ReportConfig.pageSizeReader none

/-- Write the shape of a report. -/
def ReportConfig.toJson (c : ReportConfig) : Json :=
  .object <|
    [("columns", .array (c.columns.map ColumnDefinition.toJson)),
      ("joins", .array (c.joins.map JoinDefinition.toJson)), ("groupBy", .ofStrings c.groupBy)] ++
      Json.entryIfSome "having" FilterGroup.toJson c.having ++
      [("orderBy", .array (c.orderBy.map SortSpec.toJson))] ++
      Json.entryIfSome "filters" FilterGroup.toJson c.filters ++
      [("aggregations", .array (c.aggregations.map Aggregation.toJson)),
        ("pagination", .object (Json.entryIfSome "pageSize" .ofNat c.pageSize))]

/-- Read a report. -/
def ReportTemplate.reader : Reader ReportTemplate :=
  Reader.record "ReportTemplate" <|
    ReportTemplate.mk <$> .required "id" Reader.string
      <*> .required "name" Reader.string
      <*> .optional "description" Reader.string
      <*> .required "dataSources" (Reader.list DataSource.reader)
      <*> .required "config" ReportConfig.reader
      <*> .defaulted "ownerId" Reader.string ""
      <*> .defaulted "isPublic" Reader.bool false
      <*> .defaulted "parameters" (Reader.list ParameterDefinition.reader) []

/-- Write a report. -/
def ReportTemplate.toJson (t : ReportTemplate) : Json :=
  .object <|
    [("id", .string t.id), ("name", .string t.name)] ++
      Json.entryIfSome "description" .string t.description ++
      [("dataSources", .array (t.dataSources.map DataSource.toJson)), ("config", t.config.toJson),
        ("ownerId", .string t.ownerId), ("isPublic", .bool t.isPublic),
        ("parameters", .array (t.parameters.map ParameterDefinition.toJson))]

end TabularReport

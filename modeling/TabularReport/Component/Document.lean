import TabularReport.Component.Basic
import TabularReport.Document.Tagged
import TabularReport.Template.Document

/-!
# Dashboard components as documents
-/

namespace TabularReport

/-- The types of charts. -/
def ChartType.all : List ChartType :=
  [.bar, .line, .pie, .donut, .area, .scatter, .bubble, .radar, .polar, .table, .card, .gauge, .heatmap,
    .treemap, .funnel, .sankey, .wordcloud]

/-- Read a type of chart. -/
def ChartType.reader : Reader ChartType := Reader.oneOf (ChartType.all.map fun c => (c.spelling, c))

/-- Read one field or a list of fields. -/
def FieldList.reader : Reader FieldList := Reader.settingAside fun s =>
  match Reader.string .setAside s with
  | .ok f => .ok (.one f)
  | .error _ =>
    match Reader.list Reader.string .setAside s with
    | .ok fs => .ok (.many fs)
    | .error _ => .error (.noVariant "FieldList")

/-- Write one field or a list of fields. -/
def FieldList.toJson : FieldList → Json
  | .one f => .string f
  | .many fs => .ofStrings fs

/-- Read a column of a table. -/
def TableColumn.reader : Reader TableColumn :=
  Reader.record "TableColumn" <|
    TableColumn.mk <$> .required "field" Reader.string
      <*> .defaulted "title" Reader.string ""
      <*> .optional "format" Reader.string

/-- Write a column of a table. -/
def TableColumn.toJson (c : TableColumn) : Json :=
  .object <|
    [("field", .string c.field), ("title", .string c.title)] ++
      Json.entryIfSome "format" .string c.format

/-- Read the roles of a chart. -/
def DataMapping.reader : Reader DataMapping :=
  Reader.record "DataMapping" <|
    DataMapping.mk <$> .optional "labels" Reader.string
      <*> .optional "values" Reader.string
      <*> .optional "x" Reader.string
      <*> .optional "y" FieldList.reader
      <*> .defaulted "series" (Reader.list Reader.string) []
      <*> .defaulted "columns" (Reader.list TableColumn.reader) []
      <*> .optional "value" Reader.string
      <*> .optional "trend" Reader.string

/-- Write the roles of a chart. -/
def DataMapping.toJson (m : DataMapping) : Json :=
  .object <|
    Json.entryIfSome "labels" .string m.labels ++ Json.entryIfSome "values" .string m.values ++
      Json.entryIfSome "x" .string m.x ++ Json.entryIfSome "y" FieldList.toJson m.y ++
      Json.entryIfAny "series" (m.series.map .string) ++
      Json.entryIfAny "columns" (m.columns.map TableColumn.toJson) ++
      Json.entryIfSome "value" .string m.value ++ Json.entryIfSome "trend" .string m.trend

/-- Read how a chart is displayed. -/
def ChartConfig.reader : Reader ChartConfig :=
  Reader.record "VisualizationConfig" <|
    ChartConfig.mk <$> .optional "title" Reader.string
      <*> .defaulted "colors" (Reader.list Reader.string) []
      <*> .optional "showLegend" Reader.bool
      <*> .optional "stacked" Reader.bool
      <*> .optional "min" Reader.float
      <*> .optional "max" Reader.float
      <*> .optional "format" Reader.string
      <*> .defaulted "options" Reader.fields []

/-- Write how a chart is displayed. -/
def ChartConfig.toJson (c : ChartConfig) : Json :=
  .object <|
    Json.entryIfSome "title" .string c.title ++ Json.entryIfAny "colors" (c.colors.map .string) ++
      Json.entryIfSome "showLegend" .bool c.showLegend ++ Json.entryIfSome "stacked" .bool c.stacked ++
      Json.entryIfSome "min" .ofFloat c.min ++ Json.entryIfSome "max" .ofFloat c.max ++
      Json.entryIfSome "format" .string c.format ++
      (if c.options.isEmpty then [] else [("options", .object c.options)])

namespace RowSource

/-- Read the rest of a source of one kind. -/
def kindReader (kind : String) (r : RecordReader RowSource) : Reader RowSource :=
  r.reader ("struct variant SourceSpec::" ++ kind) false

/-- Read the values that a source supplies for parameters. -/
def parametersReader : RecordReader Fields := .defaulted "parameters" Reader.fields []

/-- Read a fixed set of rows. -/
def staticReader : Reader RowSource :=
  kindReader "StaticData" (RowSource.staticData <$> .defaulted "data" (Reader.list Reader.json) [])

/-- The readers of the kinds of sources by their names. -/
def readers : List (String × Reader RowSource) :=
  [("report",
      kindReader "Report" (report <$> .required "reportId" Reader.string <*> parametersReader)),
    ("custom-report",
      kindReader "CustomReport" (customReport <$> .required "reportId" Reader.string <*> parametersReader)),
    ("raw-query",
      kindReader "RawQuery" (rawQuery <$> .required "query" Reader.string <*> parametersReader)),
    ("static", staticReader),
    ("static-data", staticReader),
    ("api", kindReader "Api" (api <$> .required "endpoint" Reader.string))]

/-- Read a source of rows. -/
def reader : Reader RowSource := Reader.tagged "SourceSpec" "type" readers

/-- Write a source of rows. -/
def toJson (s : RowSource) : Json :=
  .object <| ("type", .string s.kind) ::
    match s with
    | .report id parameters | .customReport id parameters =>
      [("reportId", .string id), ("parameters", .object parameters)]
    | .rawQuery query parameters => [("query", .string query), ("parameters", .object parameters)]
    | .staticData data => [("data", .array data)]
    | .api endpoint => [("endpoint", .string endpoint)]

end RowSource

/-- Read a source of rows and its roles. -/
def DataBinding.reader : Reader DataBinding :=
  Reader.record "VisualizationDataSource" <|
    DataBinding.mk <$> .required "source" RowSource.reader
      <*> .defaulted "mapping" DataMapping.reader {}

/-- Write a source of rows and its roles. -/
def DataBinding.toJson (b : DataBinding) : Json :=
  .object [("source", b.source.toJson), ("mapping", b.mapping.toJson)]

/-- Read a component. -/
def Component.reader : Reader Component :=
  Reader.record "VisualizationComponent" <|
    Component.mk <$> .required "id" Reader.string
      <*> .defaulted "name" Reader.string ""
      <*> .required "type" ChartType.reader
      <*> .defaulted "config" ChartConfig.reader {}
      <*> .required "dataSource" DataBinding.reader
      <*> .defaulted "ownerId" Reader.string ""
      <*> .defaulted "isPublic" Reader.bool false

/-- Write a component. -/
def Component.toJson (c : Component) : Json :=
  .object
    [("id", .string c.id), ("name", .string c.name), ("type", .string c.chartType.spelling),
      ("config", c.config.toJson), ("dataSource", c.dataSource.toJson), ("ownerId", .string c.ownerId),
      ("isPublic", .bool c.isPublic)]

end TabularReport

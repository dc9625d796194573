import TabularReport.Json.Basic

/-!
# Dashboard components

A component shows rows as a chart: its type, the roles that columns of the rows play in it, how it is
displayed, and where the rows come from.
-/

namespace TabularReport

/-- The type of a chart. -/
inductive ChartType where
  | bar
  | line
  | pie
  | donut
  | area
  | scatter
  | bubble
  | radar
  | polar
  | table
  | card
  | gauge
  | heatmap
  | treemap
  | funnel
  | sankey
  | wordcloud
deriving DecidableEq, Inhabited

/-- The name of a chart type. -/
def ChartType.spelling : ChartType → String
  | .bar => "bar"
  | .line => "line"
  | .pie => "pie"
  | .donut => "donut"
  | .area => "area"
  | .scatter => "scatter"
  | .bubble => "bubble"
  | .radar => "radar"
  | .polar => "polar"
  | .table => "table"
  | .card => "card"
  | .gauge => "gauge"
  | .heatmap => "heatmap"
  | .treemap => "treemap"
  | .funnel => "funnel"
  | .sankey => "sankey"
  | .wordcloud => "wordcloud"

/-- One field or a list of fields. -/
inductive FieldList where
  | one (field : String)
  | many (fields : List String)
deriving DecidableEq, Inhabited

/-- The fields in order. -/
def FieldList.fields : FieldList → List String
  | .one f => [f]
  | .many fs => fs

/-- A column of a table component. -/
structure TableColumn where
  field : String
  title : String := ""
  format : Option String := none
deriving DecidableEq, Inhabited

/-- The roles of a chart and the fields that play them. -/
structure DataMapping where
  labels : Option String := none
  values : Option String := none
  x : Option String := none
  y : Option FieldList := none
  series : List String := []
  columns : List TableColumn := []
  value : Option String := none
  trend : Option String := none
deriving DecidableEq, Inhabited

/-- How a chart is displayed. -/
structure ChartConfig where
  title : Option String := none
  colors : List String := []
  showLegend : Option Bool := none
  stacked : Option Bool := none
  min : Option Float := none
  max : Option Float := none
  format : Option String := none
  /-- Options that are handed on as they are. -/
  options : Fields := []
deriving Inhabited

/-- Where the rows of a component come from. -/
inductive RowSource where
  | report (reportId : String) (parameters : Fields)
  | customReport (reportId : String) (parameters : Fields)
  | rawQuery (query : String) (parameters : Fields)
  | staticData (data : List Json)
  | api (endpoint : String)
deriving Inhabited

/-- The name of a kind of row source. -/
def RowSource.kind : RowSource → String
  | .report .. => "report"
  | .customReport .. => "custom-report"
  | .rawQuery .. => "raw-query"
  | .staticData .. => "static-data"
  | .api .. => "api"

/-- A source of rows and the roles of its columns. -/
structure DataBinding where
  source : RowSource
  mapping : DataMapping := {}
deriving Inhabited

/-- A chart bound to a source of rows. -/
structure Component where
  id : String
  name : String := ""
  chartType : ChartType
  config : ChartConfig := {}
  dataSource : DataBinding
  ownerId : String := ""
  isPublic : Bool := false
deriving Inhabited

end TabularReport

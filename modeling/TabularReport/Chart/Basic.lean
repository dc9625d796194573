import TabularReport.Component.Basic
import TabularReport.Decimal.NumberStyle

/-!
# Charts

What a presentation layer draws: labels with data sets, points, a table, a card or a gauge, and the
options of the chart.
-/

namespace TabularReport

/-- The part that a column of the rows plays in a chart. -/
inductive ChartRole where
  | labels
  | values
  | x
  | y
  | columns
  | value
deriving DecidableEq, Inhabited

/-- The name of a role. -/
def ChartRole.spelling : ChartRole → String
  | .labels => "labels"
  | .values => "values"
  | .x => "x"
  | .y => "y"
  | .columns => "columns"
  | .value => "value"

/-- Why rows cannot be drawn. No error depends on the rows. -/
inductive MappingError where
  | unsupported (chartType : ChartType)
  | missingRole (chartType : ChartType) (role : ChartRole)
  | missingGaugeBounds
  | invertedGaugeBounds (min max : Float)
deriving DecidableEq, Inhabited

/-- The text of a mapping error. -/
def MappingError.message : MappingError → String
  | .unsupported chartType => "Chart type '" ++ chartType.spelling ++ "' is not supported"
  | .missingRole chartType role =>
    "Chart type '" ++ chartType.spelling ++ "' requires mapping field '" ++ role.spelling ++ "'"
  | .missingGaugeBounds => "Gauge requires configured 'min' and 'max'"
  | .invertedGaugeBounds min max =>
    "Gauge bounds are inverted: min " ++ Decimal.NumberStyle.plain.write min ++ " > max " ++
      Decimal.NumberStyle.plain.write max

/-- A named list of values with the colors to draw them in. -/
structure Dataset where
  label : String
  data : List Float
  colors : List String := []
deriving DecidableEq, Inhabited

/-- A point of a scatter chart. -/
structure Point where
  x : Float
  y : Float
deriving DecidableEq, Inhabited

/-- A named list of points. -/
structure PointDataset where
  label : String
  data : List Point
deriving DecidableEq, Inhabited

/-- What a chart shows. In a series every data set has one value for each label. -/
inductive ChartPayload where
  | series (labels : List String) (datasets : List Dataset)
  | points (datasets : List PointDataset)
  | table (columns : List TableColumn) (rows : List Fields)
  | card (value : Json) (trend : Option Json) (trendPercentage : Option Float) (format : Option String)
  | gauge (value min max : Float)
deriving Inhabited

/-- A chart with its options. -/
structure ChartData where
  chartType : ChartType
  payload : ChartPayload
  options : Fields
deriving Inhabited

end TabularReport

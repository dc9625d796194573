import TabularReport.Chart.Basic
import TabularReport.Component.Document

/-!
# Charts as documents
-/

namespace TabularReport

/-- Write a data set. -/
def Dataset.toJson (d : Dataset) : Json :=
  .object <|
    [("label", .string d.label), ("data", .array (d.data.map Json.ofFloat))] ++
      Json.entryIfAny "backgroundColor" (d.colors.map .string)

/-- Write a point. -/
def Point.toJson (p : Point) : Json := .object [("x", .ofFloat p.x), ("y", .ofFloat p.y)]

/-- Write a list of points. -/
def PointDataset.toJson (d : PointDataset) : Json :=
  .object [("label", .string d.label), ("data", .array (d.data.map Point.toJson))]

/-- Write what a chart shows. -/
def ChartPayload.toJson : ChartPayload → Json
  | .series labels datasets =>
    .object [("labels", .ofStrings labels), ("datasets", .array (datasets.map Dataset.toJson))]
  | .points datasets => .object [("datasets", .array (datasets.map PointDataset.toJson))]
  | .table columns rows =>
    .object [("columns", .array (columns.map TableColumn.toJson)), ("rows", .array (rows.map .object))]
  | .card value trend trendPercentage format =>
    .object <|
      [("value", value)] ++ Json.entryIfSome "trend" id trend ++
        Json.entryIfSome "trendPercentage" .ofFloat trendPercentage ++
        Json.entryIfSome "format" .string format
  | .gauge value min max =>
    .object [("value", .ofFloat value), ("min", .ofFloat min), ("max", .ofFloat max)]

/-- Write a chart. -/
def ChartData.toJson (c : ChartData) : Json :=
  .object
    [("type", .string c.chartType.spelling), ("data", c.payload.toJson), ("options", .object c.options)]

end TabularReport

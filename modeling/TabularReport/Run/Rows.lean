import TabularReport.Statement.Assembly

/-!
# Shaping the rows of a run

Rows come back under the names that storage gives them. They are put under the names that the template
declares, and the columns that only serve paging are taken out; the row that only counts goes with them.
-/

namespace TabularReport

/-- The names that a template declares for columns and aggregates. -/
def ReportTemplate.declaredNames (t : ReportTemplate) : List String :=
  t.config.columns.map (·.name) ++ t.config.aggregations.map (·.outputName)

/-- The declared name for a name of storage: itself, or the column stored under it, or the name that differs
from it only in letter case; a name that means nothing stays. -/
def ReportTemplate.externalName (t : ReportTemplate) (key : String) : String :=
  if t.declaredNames.contains key then key
  else
    match t.config.columns.find? (·.storageName == key) with
    | some c => c.name
    | none => (t.declaredNames.find? (Text.sameIgnoringCase · key)).getD key

/-- A floating-point number as a count: cut to a whole number, and to 64 bits without a sign. -/
def countOfFloat (x : Float) : Nat := x.toUInt64.toNat

/-- The reading of a value as a count. -/
def Json.count? : Json → Option Nat
  | .number (.int i) => some i.toNat
  | .number (.float x) => some (countOfFloat x)
  | .string s => Text.count? s
  | _ => none

/-- Rows under declared names, and the number of all rows when a row told it. -/
structure ShapedRows where
  rows : List Fields
  totalCount : Option Nat
deriving Inhabited

/-- Whether a row is not of the page but only tells the number of rows. -/
def isCountOnly (row : Fields) : Bool :=
  match Fields.get? row pageRowColumn with
  | some v => v.isNull
  | none => false

/-- A row under declared names, without the columns that serve paging. -/
def ReportTemplate.shapeRow (t : ReportTemplate) (row : Fields) : Fields :=
  Fields.ofList ((row.filter fun (key, _) => key ≠ totalCountColumn && key ≠ pageRowColumn).map
    fun (key, v) => (t.externalName key, v))

/-- Shape the rows of a run. -/
def ReportTemplate.shapeRows (t : ReportTemplate) (rows : List Fields) : ShapedRows where
  rows := (rows.filter fun row => !isCountOnly row).map t.shapeRow
  totalCount := rows.findSome? fun row => (Fields.get? row totalCountColumn).bind Json.count?

end TabularReport

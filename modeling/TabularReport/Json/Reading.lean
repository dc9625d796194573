import TabularReport.Calendar.Reading
import TabularReport.Decimal.Reading
import TabularReport.Json.Basic

/-!
# Cells read as numbers and instants

The values of rows and parameters come in several forms. A number may be written as text, an instant as
text or as milliseconds.
-/

namespace TabularReport.Json

/-- The numeric reading of a value: numbers, texts of finite numbers, and truth values as one and zero. -/
def float? : Json → Option Float
  | .number n => some n.toFloat
  | .string s => Decimal.parse? (Text.trim s.toList)
  | .bool b => some (if b then 1 else 0)
  | _ => none

/-- The reading of a value as an instant: texts of dates, and whole milliseconds since the start of 1970. -/
def instant? : Json → Option Instant
  | .string s => Instant.ofText? s
  | .number n => n.toInt64?.bind Instant.ofMillis?
  | _ => none

end TabularReport.Json

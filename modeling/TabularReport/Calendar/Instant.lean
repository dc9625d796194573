import TabularReport.Calendar.Day
import TabularReport.Text.Basic

/-!
# Instants

An instant is a whole second of universal time and nanoseconds within it. The nanoseconds reach past one
thousand million during a leap second, which belongs to the second before it. Instants are written with as
many groups of three decimals as they need, up to nine places.
-/

namespace TabularReport

/-- A point in time. -/
structure Instant where
  /-- Whole seconds since the start of 1970, rounded down. -/
  seconds : Int
  /-- Nanoseconds after that second. -/
  nanos : Nat
deriving DecidableEq, Inhabited

namespace Instant

open Calendar

/-- The instant of a date and a time of day in universal time. -/
def ofCivil (year : Int) (month day hour minute second nanos : Nat) : Instant :=
  ⟨dayNumber year month day * 86400 + (hour * 3600 + minute * 60 + second : Nat), nanos⟩

/-- Whether the instant lies on a representable day. -/
def isRepresentable (t : Instant) : Bool :=
  let year := (dateOf (t.seconds.fdiv 86400)).1
  minYear ≤ year && year ≤ maxYear

/-- The instant so many milliseconds after the start of 1970, when it is representable. -/
def ofMillis? (millis : Int) : Option Instant :=
  let seconds := millis.fdiv 1000
  let t : Instant := ⟨seconds, (millis - seconds * 1000).toNat * 1000000⟩
  if t.isRepresentable then some t else none

/-- Whole milliseconds since the start of 1970, rounded down. -/
def millis (t : Instant) : Int := t.seconds * 1000 + (t.nanos / 1000000 : Nat)

/-- Whether the first instant is the second one or earlier. -/
def le (a b : Instant) : Bool :=
  a.seconds < b.seconds || (a.seconds == b.seconds && a.nanos ≤ b.nanos)

/-- The year as written: four digits, and a sign where four do not do. -/
def yearText (year : Int) : String :=
  if 0 ≤ year && year ≤ 9999 then Text.padZeros 4 year.natAbs
  else (if year < 0 then "-" else "+") ++ Text.padZeros 4 year.natAbs

/-- The decimals of a second. -/
def fractionText (nanos : Nat) : String :=
  if nanos = 0 then ""
  else if nanos % 1000000 = 0 then "." ++ Text.padZeros 3 (nanos / 1000000)
  else if nanos % 1000 = 0 then "." ++ Text.padZeros 6 (nanos / 1000)
  else "." ++ Text.padZeros 9 nanos

/-- The date and the time of day in universal time, without a mark for the zone. -/
def civilText (t : Instant) : String :=
  let day := t.seconds.fdiv 86400
  let secondOfDay := (t.seconds - day * 86400).toNat
  let (year, month, dayOfMonth) := dateOf day
  let leap := 1000000000 ≤ t.nanos
  let second := secondOfDay % 60 + (if leap then 1 else 0)
  let nanos := if leap then t.nanos - 1000000000 else t.nanos
  yearText year ++ "-" ++ Text.padZeros 2 month ++ "-" ++ Text.padZeros 2 dayOfMonth ++ "T" ++
    Text.padZeros 2 (secondOfDay / 3600) ++ ":" ++ Text.padZeros 2 (secondOfDay / 60 % 60) ++ ":" ++
    Text.padZeros 2 second ++ fractionText nanos

/-- The text of an instant in documents. -/
def text (t : Instant) : String := t.civilText ++ "Z"

/-- The text of an instant in listings, with the offset of universal time. -/
def offsetText (t : Instant) : String := t.civilText ++ "+00:00"

end Instant

end TabularReport

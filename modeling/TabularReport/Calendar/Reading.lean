import TabularReport.Calendar.Instant
import TabularReport.Document.Error

/-!
# Reading dates and times

Three readings of a text as an instant. `Instant.ofRfc3339` takes the strict form of a time with its
offset. `Instant.ofRelaxed` is the one of documents: digits need no padding, blanks may stand between the
parts, years beyond four digits carry a sign. `Instant.ofText?` is the one of cells and parameters: the
strict form, then date and time without an offset, then a date alone, which means its midnight.
-/

namespace TabularReport

/-- A reading of the front of a text. -/
abbrev DateScan (α : Type) := List Char → Except DateError (α × List Char)

namespace DateScan

open Text

/-- Read a number of at least `least` and at most `most` digits. -/
def number (least most : Nat) : DateScan Nat := fun cs =>
  let ds := (cs.take most).takeWhile isDigit
  if byteLength cs < least then .error .tooShort
  else if ds.length < least then .error .invalid
  else .ok (digitsValue ds, cs.drop ds.length)

/-- Read one given character. -/
def char (expected : Char) : DateScan Unit
  | c :: rest => if c = expected then .ok ((), rest) else .error .invalid
  | [] => .error .tooShort

/-- Drop blanks. -/
def blanks : DateScan Unit := fun cs => .ok ((), trimLeft cs)

/-- Read the mark between date and time: a letter T or one blank. -/
def separator : DateScan Unit
  | c :: rest => if c = 'T' || c = 't' || c = ' ' then .ok ((), rest) else .error .invalid
  | [] => .error .tooShort

/-- Read a number in a range. -/
def bounded (scan : DateScan Nat) (low high : Nat) : DateScan Nat := fun cs =>
  match scan cs with
  | .error e => .error e
  | .ok (n, rest) => if low ≤ n && n ≤ high then .ok (n, rest) else .error .outOfRange

/-- Read the decimals of a second after their point, as nanoseconds. Digits beyond the ninth do not
count. -/
def decimals : DateScan Nat := fun cs =>
  let ds := cs.takeWhile isDigit
  if ds.isEmpty then .error (if cs.isEmpty then .tooShort else .invalid)
  else .ok (digitsValue ((ds ++ List.replicate 9 '0').take 9), cs.dropWhile isDigit)

/-- Read decimals of a second when there are any. -/
def fraction : DateScan Nat
  | '.' :: rest => decimals rest
  | cs => .ok (0, cs)

/-- Read two digits at the front. -/
def twoDigits (cs : List Char) : Except DateError (Char × Char × List Char) :=
  if byteLength cs < 2 then .error .tooShort
  else
    match cs with
    | a :: b :: rest => .ok (a, b, rest)
    | _ => .error .invalid

/-- Read the minutes of an offset. -/
def offsetMinutes : DateScan Nat := fun cs =>
  match twoDigits cs with
  | .error e => .error e
  | .ok (a, b, rest) =>
    if !isDigit a || !isDigit b then .error .invalid
    else if 5 < digitValue a then .error .outOfRange
    else .ok (digitsValue [a, b], rest)

/-- Read an offset from universal time in seconds: the letter Z, or a sign with hours and minutes, between
which `between` reads what may stand there. -/
def offset (between : DateScan Unit) : DateScan Int
  | [] => .error .tooShort
  | c :: rest =>
    if c = 'Z' || c = 'z' then .ok (0, rest)
    else if c = '+' || c = '-' || c.toNat = 0x2212 then
      match twoDigits rest with
      | .error e => .error e
      | .ok (a, b, more) =>
        if !isDigit a || !isDigit b then .error .invalid
        else
          match between more with
          | .error e => .error e
          | .ok (_, more) =>
            match offsetMinutes more with
            | .error e => .error e
            | .ok (minutes, last) =>
              let seconds : Int := (digitsValue [a, b] * 3600 + minutes * 60 : Nat)
              .ok (if c = '+' then seconds else -seconds, last)
    else .error .invalid

/-- Drop any number of colons and blanks. -/
def colonsOrBlanks : DateScan Unit := fun cs =>
  .ok ((), cs.dropWhile fun c => c = ':' || isBlank c)

/-- Read a year: up to four digits, or a sign and any number of them. -/
def signedYear : DateScan Int := fun cs =>
  match cs with
  | '-' :: rest => (number 1 rest.length rest).map fun (n, more) => (-(n : Int), more)
  | '+' :: rest => (number 1 rest.length rest).map fun (n, more) => ((n : Int), more)
  | _ => (number 1 4 cs).map fun (n, more) => ((n : Int), more)

/-- Read a number after blanks. -/
def padded (scan : DateScan Nat) : DateScan Nat := fun cs => scan (trimLeft cs)

end DateScan

/-- A date and a time of day as written. -/
structure WrittenTime where
  year : Int
  month : Nat
  day : Nat
  hour : Nat
  minute : Nat
  second : Nat
  nanos : Nat

namespace WrittenTime

/-- The instant that is written, for a clock that is ahead of universal time by the given seconds. A
sixtieth second is a leap second. -/
def instant (w : WrittenTime) (offset : Int) : Except DateError Instant :=
  if !Calendar.isDate w.year w.month w.day then .error .outOfRange
  else if offset ≤ -86400 || 86400 ≤ offset then .error .outOfRange
  else
    let second := if w.second = 60 then 59 else w.second
    let nanos := if w.second = 60 then w.nanos + 1000000000 else w.nanos
    let t := Instant.ofCivil w.year w.month w.day w.hour w.minute second nanos
    let t : Instant := { t with seconds := t.seconds - offset }
    if t.isRepresentable then .ok t else .error .impossible

end WrittenTime

namespace Instant

open DateScan

/-- Read the strict form of a date and time with an offset of less than a day. -/
def ofRfc3339 (cs : List Char) : Except DateError Instant := do
  let (year, cs) ← number 4 4 cs
  let (_, cs) ← char '-' cs
  let (month, cs) ← bounded (number 2 2) 1 12 cs
  let (_, cs) ← char '-' cs
  let (day, cs) ← bounded (number 2 2) 1 31 cs
  let (_, cs) ← separator cs
  let (hour, cs) ← bounded (number 2 2) 0 23 cs
  let (_, cs) ← char ':' cs
  let (minute, cs) ← bounded (number 2 2) 0 59 cs
  let (_, cs) ← char ':' cs
  let (second, cs) ← bounded (number 2 2) 0 60 cs
  let (nanos, cs) ← fraction cs
  let (offset, cs) ← DateScan.offset (char ':') cs
  if offset < -86340 || 86340 < offset then .error .outOfRange
  else if !cs.isEmpty then .error .tooLong
  else WrittenTime.instant ⟨year, month, day, hour, minute, second, nanos⟩ offset

/-- Read a date whose parts may be unpadded; `loose` allows blanks before the marks too. -/
def dateParts (loose : Bool) (cs : List Char) : Except DateError (Int × Nat × Nat × List Char) := do
  let gap (cs : List Char) := if loose then Text.trimLeft cs else cs
  let (year, cs) ← signedYear (Text.trimLeft cs)
  if year < -(Nat.pow 2 31) || Nat.pow 2 31 ≤ year then .error .outOfRange
  let (_, cs) ← char '-' (gap cs)
  let (month, cs) ← bounded (padded (number 1 2)) 1 12 cs
  let (_, cs) ← char '-' (gap cs)
  let (day, cs) ← bounded (padded (number 1 2)) 1 31 cs
  .ok (year, month, day, cs)

/-- Read a time of day whose parts may be unpadded; `loose` allows blanks before the marks too. -/
def timeParts (loose : Bool) (cs : List Char) : Except DateError (Nat × Nat × Nat × List Char) := do
  let gap (cs : List Char) := if loose then Text.trimLeft cs else cs
  let (hour, cs) ← bounded (padded (number 1 2)) 0 23 cs
  let (_, cs) ← char ':' (gap cs)
  let (minute, cs) ← bounded (padded (number 1 2)) 0 59 cs
  let (_, cs) ← char ':' (gap cs)
  let (second, cs) ← bounded (padded (number 1 2)) 0 60 cs
  .ok (hour, minute, second, cs)

/-- Read a relaxed form of a date and time with an offset. The zone may also be called UTC. -/
def ofRelaxed (cs : List Char) : Except DateError Instant := do
  let (year, month, day, cs) ← dateParts true cs
  let (_, cs) ← separator cs
  let (hour, minute, second, cs) ← timeParts true cs
  let (nanos, cs) ← fraction cs
  let cs := Text.trimLeft cs
  let (offset, cs) ←
    if (cs.take 3).map Char.toLower = ['u', 't', 'c'] then .ok (0, cs.drop 3)
    else DateScan.offset colonsOrBlanks cs
  if !(Text.trimLeft cs).isEmpty then .error .tooLong
  else WrittenTime.instant ⟨year, month, day, hour, minute, second, nanos⟩ offset

/-- Read a date and a time of day without an offset. `mark` reads what stands between them, `decimals`
says whether the seconds may have decimals. -/
def ofCivilText (mark : DateScan Unit) (decimals : Bool) (cs : List Char) : Except DateError Instant := do
  let (year, month, day, cs) ← dateParts false cs
  let (_, cs) ← mark cs
  let (hour, minute, second, cs) ← timeParts false cs
  let (nanos, cs) ← if decimals then fraction cs else .ok (0, cs)
  if !cs.isEmpty then .error .tooLong
  else WrittenTime.instant ⟨year, month, day, hour, minute, second, nanos⟩ 0

/-- Read a date, which means its midnight. -/
def ofDateText (cs : List Char) : Except DateError Instant := do
  let (year, month, day, cs) ← dateParts false cs
  if !cs.isEmpty then .error .tooLong
  else WrittenTime.instant ⟨year, month, day, 0, 0, 0, 0⟩ 0

/-- The readings of a cell or parameter as an instant, in the order in which they are tried. -/
def readings : List (List Char → Except DateError Instant) :=
  [ofRfc3339, ofCivilText (char 'T') false, ofCivilText (char 'T') true, ofCivilText blanks false,
    ofCivilText blanks true, ofDateText]

/-- Read a date or a date and time from a text, blanks around it aside. -/
def ofText? (s : String) : Option Instant :=
  let cs := Text.trim s.toList
  readings.findSome? fun read => (read cs).toOption

end Instant

end TabularReport

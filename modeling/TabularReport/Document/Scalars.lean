import TabularReport.Calendar.Reading
import TabularReport.Document.Reader

/-!
# Reading dates and sized numbers

Readers of the scalar fields that documents share.
-/

namespace TabularReport.Reader

/-- Read an instant from its text. -/
def instant : Reader Instant
  | _, .string s =>
    match Instant.ofRelaxed s.toList with
    | .ok t => .ok t
    | .error e => .error (.date e)
  | _, s => mismatch "an RFC 3339 formatted date and time string" s

/-- Read a number below `2^64`. -/
def count : Reader Nat := natural 64 "u64"

/-- Read a number below `2^64` that measures a length. -/
def size : Reader Nat := natural 64 "usize"

/-- Read a number below `2^32`. -/
def rank : Reader Nat := natural 32 "u32"

end TabularReport.Reader

import TabularReport.Text.Basic

/-!
# Tables of characters

A table lists ranges of code points as the standard's data files do: hexadecimal, one range or single
code point after another, with blanks and line ends between.
-/

namespace TabularReport.Text

/-- Ranges of code points, ends included. -/
abbrev Ranges := List (Nat × Nat)

namespace Ranges

/-- What has been read of a table: the code point being read, the start of the range it ends, and the
ranges before it in reverse. -/
structure Reading where
  current : Option Nat
  start : Option Nat
  done : Ranges

/-- Close the range being read, if there is one. -/
def Reading.close (r : Reading) : Ranges :=
  match r.current with
  | some last => (r.start.getD last, last) :: r.done
  | none => r.done

/-- Read one character of a table. -/
def Reading.step (r : Reading) (c : Char) : Reading :=
  if c = ' ' || c = '\n' then ⟨none, none, r.close⟩
  else if c = '-' then ⟨none, r.current, r.done⟩
  else ⟨some (r.current.getD 0 * 16 + (hexValue? c).getD 0), r.start, r.done⟩

/-- The ranges that a table lists. -/
def ofText (table : String) : Ranges :=
  (table.toList.foldl Reading.step ⟨none, none, []⟩).close.reverse

/-- Whether a character lies in one of the ranges. -/
def contains (ranges : Ranges) (c : Char) : Bool :=
  ranges.any fun (first, last) => first ≤ c.toNat && c.toNat ≤ last

end Ranges

end TabularReport.Text

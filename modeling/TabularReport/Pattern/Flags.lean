import TabularReport.Pattern.Fault
import TabularReport.Text.CaseFolding

/-!
# Flags of patterns

Flags hold from where they are set to the end of the group. They say how letters, lines and blanks are
read.
-/

namespace TabularReport.Pattern

open Text

/-- Flags in force at a place of a pattern. -/
structure Flags where
  ignoreCase : Bool := false
  multiLine : Bool := false
  dotAll : Bool := false
  unicode : Bool := true
  spaced : Bool := false
  carriage : Bool := false
deriving DecidableEq

/-- Drop blanks and comments, which count for nothing in a spaced pattern. -/
def skipGaps (spaced : Bool) : Nat → List Char → List Char
  | 0, cs => cs
  | fuel + 1, cs =>
    if !spaced then cs
    else
      match cs with
      | '#' :: rest => skipGaps spaced fuel (rest.dropWhile (· != '\n'))
      | c :: rest => if isBlank c then skipGaps spaced fuel rest else cs
      | [] => []

/-- Drop blanks and comments where the flags say so. -/
def Flags.gap (f : Flags) (cs : List Char) : List Char := skipGaps f.spaced (cs.length + 1) cs

/-- The characters that differ from a character in case only, itself included. -/
def Flags.variants (f : Flags) (c : Char) : List Char :=
  if f.unicode then caseVariants c else [c.toLower, c.toUpper]

/-- Whether a set holds a character, or a case variant of it where case is ignored. -/
def Flags.admits (f : Flags) (set : Char → Bool) (c : Char) : Bool :=
  if f.ignoreCase then (f.variants c).any set else set c

/-- The new flags of a group of flags, which ends in a colon or a parenthesis. `seen` are the flags met so
far, and `dangling` says that a minus sign still waits for one. -/
def readFlags (f : Flags) (negated dangling : Bool) (seen : List Char) : List Char → Step (Flags × Bool)
  | [] => .error .flag
  | c :: rest =>
    if c = ':' || c = ')' then
      if dangling || (c = ')' && seen.isEmpty) then .error .flag else .ok ((f, c = ':'), rest)
    else if c = '-' then
      if negated then .error .flag else readFlags f true true seen rest
    else if seen.contains c then .error .flag
    else
      let on := !negated
      let next (g : Flags) := readFlags g negated false (c :: seen) rest
      if c = 'i' then next { f with ignoreCase := on }
      else if c = 'm' then next { f with multiLine := on }
      else if c = 's' then next { f with dotAll := on }
      else if c = 'u' then next { f with unicode := on }
      else if c = 'x' then next { f with spaced := on }
      else if c = 'R' then next { f with carriage := on }
      else if c = 'U' then next f
      else .error .flag

end TabularReport.Pattern

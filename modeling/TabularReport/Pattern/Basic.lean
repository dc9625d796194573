import TabularReport.Text.Word

/-!
# Patterns and where they match

A pattern is matched by moving a set of positions through a text. Positions are marks, one before each
character and one at the end. Every operation on marks takes one pass over the text, and repetition stops
when a further round marks nothing new.
-/

namespace TabularReport

/-- A place at or between words. The half places look at one side only. -/
inductive WordEdge where
  | boundary
  | inside
  | start
  | finish
  | startHalf
  | finishHalf
deriving DecidableEq, Inhabited

/-- A condition on a position. -/
inductive Anchor where
  | textStart
  | textEnd
  /-- The start of a line; `returns` says whether a carriage return breaks a line as well. -/
  | lineStart (returns : Bool)
  | lineEnd (returns : Bool)
  /-- A word edge; `ascii` says whether words have letters of ASCII alone. -/
  | word (edge : WordEdge) (ascii : Bool)
deriving DecidableEq, Inhabited

/-- Whether there is a character and it is part of a word. -/
def Anchor.inWord (ascii : Bool) : Option Char → Bool
  | some c => Text.isWordChar c && (!ascii || c.toNat < 128)
  | none => false

/-- Whether a word edge lies between two sides, of which it is said whether they are part of a word. -/
def WordEdge.holds : WordEdge → Bool → Bool → Bool
  | .boundary, before, after => before != after
  | .inside, before, after => before == after
  | .start, before, after => !before && after
  | .finish, before, after => before && !after
  | .startHalf, before, _ => !before
  | .finishHalf, _, after => !after

/-- Whether an anchor holds between two characters. A carriage return and the line feed after it break a
line once. -/
def Anchor.holds (a : Anchor) (before after : Option Char) : Bool :=
  match a with
  | .textStart => before.isNone
  | .textEnd => after.isNone
  | .lineStart returns =>
    before.isNone || before == some '\n' || (returns && before == some '\r' && after != some '\n')
  | .lineEnd returns =>
    after.isNone || (after == some '\n' && !(returns && before == some '\r')) ||
      (returns && after == some '\r')
  | .word edge ascii => edge.holds (inWord ascii before) (inWord ascii after)

/-- A pattern of texts. -/
inductive Pattern where
  | empty
  | char (admits : Char → Bool)
  | anchor (kind : Anchor)
  | seq (first second : Pattern)
  | alt (left right : Pattern)
  /-- From `least` repetitions on, without an upper bound when there is no `most`. -/
  | repeated (body : Pattern) (least : Nat) (most : Option Nat)
deriving Inhabited

namespace Pattern

/-- Marked positions of a text of one character less than there are marks. -/
abbrev Marks := List Bool

namespace Marks

/-- Marks of either set. -/
def union (a b : Marks) : Marks := a.zipWith (· || ·) b

/-- Move each mark over the character after it, where that is admitted. -/
def step (admits : Char → Bool) (text : List Char) (marks : Marks) : Marks :=
  false :: (marks.zip text).map fun (m, c) => m && admits c

/-- The marks reached from the given ones in any number of rounds. -/
def closure (round : Marks → Marks) : Nat → Marks → Marks
  | 0, marks => marks
  | fuel + 1, marks =>
    let more := union marks (round marks)
    if more == marks then marks else closure round fuel more

/-- Apply a round so many times. -/
def iterate (round : Marks → Marks) : Nat → Marks → Marks
  | 0, marks => marks
  | n + 1, marks => iterate round n (round marks)

/-- The marks reached from the given ones in at most so many rounds. -/
def upTo (round : Marks → Marks) : Nat → Marks → Marks
  | 0, marks => marks
  | n + 1, marks => union marks (upTo round n (round marks))

end Marks

/-- The characters before and after each position. -/
def neighbours : Option Char → List Char → List (Option Char × Option Char)
  | before, [] => [(before, none)]
  | before, c :: rest => (before, some c) :: neighbours (some c) rest

/-- The positions at which a match can end that begins at a marked position. Marks only move on, so after
one round for each of them a further round of a repetition changes nothing. -/
def ends (text : List Char) : Pattern → Marks → Marks
  | .empty, marks => marks
  | .char admits, marks => marks.step admits text
  | .anchor a, marks =>
    marks.zipWith (fun m (before, after) => m && a.holds before after) (neighbours none text)
  | .seq p q, marks => q.ends text (p.ends text marks)
  | .alt p q, marks => (p.ends text marks).union (q.ends text marks)
  | .repeated p least most, marks =>
    let rounds := text.length + 1
    let start := Marks.iterate (p.ends text) (min least rounds) marks
    match most with
    | none => Marks.closure (p.ends text) rounds start
    | some n => Marks.upTo (p.ends text) (min (n - least) rounds) start

/-- Whether some part of a text matches. -/
def occursIn (p : Pattern) (s : String) : Bool :=
  let text := s.toList
  (p.ends text (List.replicate (text.length + 1) true)).any id

/-- How many characters and branches a pattern has when its repetitions are written out. -/
def weight : Pattern → Nat
  | .empty => 0
  | .char _ | .anchor _ => 1
  | .seq p q => p.weight + q.weight
  | .alt p q => p.weight + q.weight + 1
  | .repeated p least none => (max least 1) * p.weight + 1
  | .repeated p least (some most) => least * p.weight + (most - least) * (p.weight + 1)

end Pattern

end TabularReport

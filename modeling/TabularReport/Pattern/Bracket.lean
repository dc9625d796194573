import TabularReport.Pattern.Escape

/-!
# Classes in brackets

A class in brackets lists characters, ranges, escapes, classes named between colons and further classes in
brackets. Set operations stand between lists and are applied from left to right.
-/

namespace TabularReport.Pattern

open Text

/-- The classes that are named between colons. -/
def asciiClass? (name : String) : Option (Char → Bool) :=
  let inRange (a b : Nat) (c : Char) := a ≤ c.toNat && c.toNat ≤ b
  let punct (c : Char) := inRange 33 126 c && !c.isAlphanum
  match name with
  | "alnum" => some Char.isAlphanum
  | "alpha" => some Char.isAlpha
  | "ascii" => some (inRange 0 127)
  | "blank" => some fun c => c = ' ' || c = '\t'
  | "cntrl" => some fun c => inRange 0 31 c || c.toNat = 127
  | "digit" => some isDigit
  | "graph" => some (inRange 33 126)
  | "lower" => some Char.isLower
  | "print" => some (inRange 32 126)
  | "punct" => some punct
  | "space" => some fun c => inRange 9 13 c || c = ' '
  | "upper" => some Char.isUpper
  | "word" => some fun c => c.isAlphanum || c = '_'
  | "xdigit" => some fun c => (hexValue? c).isSome
  | _ => none

/-- A class being read: the items since the last operator, and what the operators before it amount to. -/
structure ClassState where
  items : Char → Bool
  pending : Option ((Char → Bool) × Char)

/-- Apply a set operation. -/
def setOperation (op : Char) (a b : Char → Bool) (c : Char) : Bool :=
  if op = '&' then a c && b c
  else if op = '-' then a c && !b c
  else a c != b c

/-- The set that a class amounts to so far. -/
def ClassState.set (s : ClassState) (f : Flags) : Char → Bool :=
  let items := f.admits s.items
  match s.pending with
  | none => items
  | some (left, op) => setOperation op left items

/-- Add an item to a class. -/
def ClassState.add (s : ClassState) (admits : Char → Bool) : ClassState :=
  { s with items := fun c => s.items c || admits c }

/-- Read a class between colons whose opening bracket has been read. -/
def colonClass? (f : Flags) (cs : List Char) : Option (Step (Char → Bool)) :=
  match cs with
  | ':' :: more =>
    let (negated, named) := match more with
      | '^' :: rest => (true, rest)
      | _ => (false, more)
    let name := named.takeWhile fun c => c != ':' && c != ']'
    match named.dropWhile (fun c => c != ':' && c != ']'), asciiClass? (String.ofList name) with
    | ':' :: ']' :: after, some set =>
      some ((f.complement negated (f.admits set)).map fun admits => (admits, after))
    | _, _ => none
  | _ => none

/-- Read one character or escape of a class. -/
def classItem (f : Flags) (cs : List Char) : Step Escaped :=
  let item : Step Escaped := match cs with
    | '\\' :: rest => escaped f rest
    | c :: rest => .ok (.literal c, rest)
    | [] => .error .classUnclosed
  match item with
  | .ok (.literal c, _) => if !f.unicode && c.toNat ≥ 128 then .error .beyondAscii else item
  | _ => item

/-- Read an item or a range of a class. -/
def classRange (f : Flags) (cs : List Char) : Step (Char → Bool) :=
  match classItem f cs with
  | .error e => .error e
  | .ok (.anchor _, _) => .error .escape
  | .ok (first, rest) =>
    let single : Step (Char → Bool) := match first with
      | .literal c => .ok ((· == c), rest)
      | .klass admits => .ok (admits, rest)
      | .anchor _ => .error .escape
    match f.gap rest with
    | [] => .error .classUnclosed
    | '-' :: more =>
      match f.gap more with
      | ']' :: _ | '-' :: _ => single
      | [] => .error .classUnclosed
      | next =>
        match first, classItem f next with
        | _, .error e => .error e
        | .literal a, .ok (.literal b, after) =>
          if a.toNat ≤ b.toNat then .ok (fun c => a.toNat ≤ c.toNat && c.toNat ≤ b.toNat, after)
          else .error .classRange
        | _, _ => .error .classRange
    | _ => single

mutual

/-- Read a class whose opening bracket has been read. -/
def bracketed (f : Flags) (fuel : Nat) (cs : List Char) : Step (Char → Bool) :=
  match fuel with
  | 0 => .error .classUnclosed
  | fuel + 1 =>
    let cs := f.gap cs
    let (negated, cs) := match cs with
      | '^' :: rest => (true, f.gap rest)
      | _ => (false, cs)
    let hyphens := cs.takeWhile (· == '-')
    let cs := f.gap (cs.dropWhile (· == '-'))
    let start : ClassState := ⟨fun c => !hyphens.isEmpty && c == '-', none⟩
    let (start, cs) : ClassState × List Char := match hyphens, cs with
      | [], ']' :: rest => (start.add (· == ']'), rest)
      | _, _ => (start, cs)
    match classBody f fuel start cs with
    | .error e => .error e
    | .ok (set, rest) => (f.complement negated set).map fun admits => (admits, rest)

/-- Read the items of a class up to its closing bracket. -/
def classBody (f : Flags) (fuel : Nat) (s : ClassState) (cs : List Char) : Step (Char → Bool) :=
  match fuel with
  | 0 => .error .classUnclosed
  | fuel + 1 =>
    let operator (op : Char) (rest : List Char) : Step (Char → Bool) :=
      classBody f fuel ⟨fun _ => false, some (s.set f, op)⟩ rest
    match f.gap cs with
    | [] => .error .classUnclosed
    | ']' :: rest => .ok (s.set f, rest)
    | '[' :: rest =>
      match colonClass? f rest with
      | some (.error e) => .error e
      | some (.ok (admits, after)) => classBody f fuel (s.add admits) after
      | none =>
        match bracketed f fuel rest with
        | .error e => .error e
        | .ok (admits, after) => classBody f fuel (s.add admits) after
    | '&' :: '&' :: rest => operator '&' rest
    | '-' :: '-' :: rest => operator '-' rest
    | '~' :: '~' :: rest => operator '~' rest
    | c :: rest =>
      match classRange f (c :: rest) with
      | .error e => .error e
      | .ok (admits, after) => classBody f fuel (s.add admits) after

end

end TabularReport.Pattern

import TabularReport.Pattern.Bracket

/-!
# Reading patterns

Patterns are written as regular expressions: literals, `.`, classes in brackets with nesting and set
operations, classes by letter and by property, anchors, groups with flags, alternatives and repetitions.
There is no looking around and no reference back to a group, which keeps matching linear in the text.
-/

namespace TabularReport.Pattern

open Text

/-- Read a decimal number with blanks around it. -/
def decimal? (cs : List Char) : Option (Nat × List Char) :=
  let cs := trimLeft cs
  let ds := cs.takeWhile isDigit
  if ds.isEmpty || digitsValue ds ≥ Nat.pow 2 32 then none
  else some (digitsValue ds, trimLeft (cs.dropWhile isDigit))

/-- Read the bounds of a repetition whose opening brace has been read. A comma right before the closing
brace leaves the repetition without an upper bound. -/
def bounds (f : Flags) (cs : List Char) : Step (Nat × Option Nat) :=
  let close (b : Nat × Option Nat) : List Char → Step (Nat × Option Nat)
    | c :: rest => if c.toNat = 0x7D then .ok (b, rest) else .error .repetitionCount
    | [] => .error .repetitionCount
  match decimal? (f.gap cs) with
  | none => .error .repetitionCount
  | some (least, ',' :: rest) =>
    match decimal? rest with
    | some (most, after) =>
      if least ≤ most then close (least, some most) (f.gap after) else .error .repetitionCount
    | none => close (least, none) (f.gap rest)
  | some (n, rest) => close (n, some n) (f.gap rest)

/-- Read the name of a group up to its closing angle bracket. -/
def groupName (cs : List Char) : Step String :=
  let name := cs.takeWhile (· != '>')
  match cs.dropWhile (· != '>'), name with
  | _ :: rest, c :: more =>
    let isMore (c : Char) := c = '_' || c = '.' || c = '[' || c = ']' || isAlphanumeric c
    if (c = '_' || isAlphabetic c) && more.all isMore then .ok (String.ofList name, rest)
    else .error .groupName
  | _, _ => .error .groupName

/-- What an opening parenthesis begins. -/
inductive Opening where
  /-- A group, which has flags of its own and maybe a name. -/
  | group (flags : Flags) (name : Option String)
  /-- New flags for the rest of the group that the parenthesis stands in. -/
  | flags (flags : Flags)

/-- Read what follows an opening parenthesis up to the body of the group. -/
def opening (f : Flags) (cs : List Char) : Step Opening :=
  let named (cs : List Char) : Step Opening :=
    (groupName cs).map fun (name, rest) => (.group f (some name), rest)
  match f.gap cs with
  | '?' :: '=' :: _ | '?' :: '!' :: _ | '?' :: '<' :: '=' :: _ | '?' :: '<' :: '!' :: _ =>
    .error .lookAround
  | '?' :: 'P' :: '<' :: rest => named rest
  | '?' :: '<' :: rest => named rest
  | '?' :: rest =>
    (readFlags f false false [] rest).map fun ((flags, isGroup), after) =>
      (if isGroup then .group flags none else .flags flags, after)
  | rest => .ok (.group f none, rest)

/-- Match a literal character. -/
def literal (f : Flags) (c : Char) : Pattern := .char (f.admits (· == c))

/-- Match any character, line breaks aside unless the flags include them. -/
def dot (f : Flags) : Except Fault Pattern :=
  if f.unicode then
    .ok (.char fun c => f.dotAll || (c != '\n' && !(f.carriage && c == '\r')))
  else .error .beyondAscii

/-- A pattern being read: the alternatives before the last bar, the parts since, in reverse, and whether
each part may be repeated. -/
structure Draft where
  flags : Flags
  alternatives : Option Pattern
  parts : List (Pattern × Bool)

/-- The parts in sequence. -/
def Draft.sequence (d : Draft) : Pattern :=
  d.parts.foldl (fun p part => match p with
    | .empty => part.1
    | _ => .seq part.1 p) .empty

/-- The whole of what has been read. -/
def Draft.whole (d : Draft) : Pattern :=
  match d.alternatives with
  | none => d.sequence
  | some left => .alt left d.sequence

/-- Add a part. -/
def Draft.push (d : Draft) (p : Pattern) : Draft := { d with parts := (p, true) :: d.parts }

/-- Repeat the last part. -/
def Draft.repeatLast (d : Draft) (least : Nat) (most : Option Nat) : Except Fault Draft :=
  match d.parts with
  | (p, true) :: rest => .ok { d with parts := (.repeated p least most, true) :: rest }
  | _ => .error .repetitionMissing

/-- Start another alternative. -/
def Draft.bar (d : Draft) : Draft := ⟨d.flags, some d.whole, []⟩

/-- Set flags for what follows. They cannot be repeated. -/
def Draft.setFlags (d : Draft) (flags : Flags) : Draft :=
  { d with flags := flags, parts := (.empty, false) :: d.parts }

/-- Drop the mark of a repetition that prefers few rounds, which does not change what matches. -/
def dropLazyMark : List Char → List Char
  | '?' :: rest => rest
  | rest => rest

/-- Read a repetition of the last part, whose first character has been read. -/
def repetition (d : Draft) (op : Char) (rest : List Char) : Step Draft :=
  let repeated (least : Nat) (most : Option Nat) (rest : List Char) : Step Draft :=
    (d.repeatLast least most).map fun d => (d, dropLazyMark rest)
  if op = '*' then repeated 0 none rest
  else if op = '+' then repeated 1 none rest
  else if op = '?' then repeated 0 (some 1) rest
  else
    match d.repeatLast 0 none, bounds d.flags rest with
    | .error e, _ => .error e
    | _, .error e => .error e
    | .ok _, .ok ((least, most), after) => repeated least most (d.flags.gap after)

/-- Read one part that is neither a group nor a repetition, and whose first character has been read. -/
def simplePart (f : Flags) (c : Char) (rest : List Char) : Step Pattern :=
  if c = '.' then (dot f).map fun p => (p, rest)
  else if c = '^' then
    .ok (.anchor (if f.multiLine then .lineStart f.carriage else .textStart), rest)
  else if c = '$' then .ok (.anchor (if f.multiLine then .lineEnd f.carriage else .textEnd), rest)
  else if c = '[' then
    (bracketed f (2 * rest.length + 2) rest).map fun (admits, after) => (.char admits, after)
  else if c = '\\' then
    (escaped f rest).map fun
      | (.literal c, after) => (literal f c, after)
      | (.klass admits, after) => (.char admits, after)
      | (.anchor a, after) => (.anchor a, after)
  else .ok (literal f c, rest)

/-- Whether a character repeats the part before it. -/
def isRepetition (c : Char) : Bool := c = '*' || c = '+' || c = '?' || c.toNat = 0x7B

/-- Read a pattern up to a closing parenthesis or the end. The names of the groups met so far are handed
on, since no two groups share one. -/
def alternatives (fuel : Nat) (d : Draft) (names : List String) (cs : List Char) :
    Except Fault (Pattern × List String × List Char) :=
  match fuel with
  | 0 => .error .groupUnclosed
  | fuel + 1 =>
    match d.flags.gap cs with
    | [] => .ok (d.whole, names, [])
    | ')' :: rest => .ok (d.whole, names, ')' :: rest)
    | '|' :: rest => alternatives fuel d.bar names rest
    | '(' :: rest =>
      match opening d.flags rest with
      | .error e => .error e
      | .ok (.flags flags, after) => alternatives fuel (d.setFlags flags) names after
      | .ok (.group flags name, after) =>
        if name.any names.contains then .error .groupName
        else
          match alternatives fuel ⟨flags, none, []⟩ (name.toList ++ names) after with
          | .error e => .error e
          | .ok (p, names, ')' :: after) => alternatives fuel (d.push p) names after
          | .ok _ => .error .groupUnclosed
    | c :: rest =>
      if isRepetition c then
        match repetition d c rest with
        | .error e => .error e
        | .ok (d, after) => alternatives fuel d names after
      else
        match simplePart d.flags c rest with
        | .error e => .error e
        | .ok (p, after) => alternatives fuel (d.push p) names after

/-- The greatest weight of a pattern. -/
def weightLimit : Nat := 10485760 / 32

/-- Read a pattern from a text that holds nothing else. -/
def ofText (s : String) : Except Fault Pattern :=
  let cs := s.toList
  match alternatives (2 * cs.length + 2) ⟨{}, none, []⟩ [] cs with
  | .error e => .error e
  | .ok (p, _, []) => if p.weight ≤ weightLimit then .ok p else .error .tooLarge
  | .ok _ => .error .groupUnopened

end TabularReport.Pattern

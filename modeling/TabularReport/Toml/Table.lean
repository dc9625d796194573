import TabularReport.Toml.Scalar

/-!
# Tables of TOML

A table grows entry by entry as its text is read. Each part of it remembers how it was made, because a table
has one header at most, keys with points extend only tables made by such keys, and a table written in line is
closed.
-/

namespace TabularReport.Toml

/-- How a table came to be. -/
inductive Making where
  /-- By a header of its own. -/
  | header
  /-- As a part of the path of a header. -/
  | path
  /-- By keys with points. -/
  | points
deriving DecidableEq

/-- An entry of a table. -/
inductive Node where
  | value (v : Json)
  | table (making : Making) (entries : List (String × Node))
  /-- The tables of an array; the last one is being written. -/
  | tables (done : List (List (String × Node))) (last : List (String × Node))

/-- The entries of a table. -/
abbrev Entries := List (String × Node)

/-- The entry of a key. -/
def Entries.find (entries : Entries) (key : String) : Option Node :=
  (entries.find? (·.1 == key)).map (·.2)

/-- Put an entry under a key in place of what the key held. -/
def Entries.put (entries : Entries) (key : String) (n : Node) : Entries :=
  entries.filter (·.1 ≠ key) ++ [(key, n)]

/-- Add a value under keys with points. -/
def Entries.addValue (entries : Entries) (v : Node) : List String → Option Entries
  | [] => none
  | [key] => if (entries.find key).isNone then some (entries.put key v) else none
  | key :: more =>
    match entries.find key with
    | none => (Entries.addValue [] v more).map fun inner => entries.put key (.table .points inner)
    | some (.table .points inner) =>
      (Entries.addValue inner v more).map fun inner => entries.put key (.table .points inner)
    | some _ => none

/-- Open a table by its header. -/
def Entries.openTable (entries : Entries) : List String → Option Entries
  | [] => none
  | [key] =>
    match entries.find key with
    | none => some (entries.put key (.table .header []))
    | some (.table .path inner) => some (entries.put key (.table .header inner))
    | some _ => none
  | key :: more =>
    match entries.find key with
    | none => (Entries.openTable [] more).map fun inner => entries.put key (.table .path inner)
    | some (.table making inner) =>
      (Entries.openTable inner more).map fun inner => entries.put key (.table making inner)
    | some (.tables done last) =>
      (Entries.openTable last more).map fun last => entries.put key (.tables done last)
    | some (.value _) => none

/-- Open a further table of an array by its header. -/
def Entries.openNext (entries : Entries) : List String → Option Entries
  | [] => none
  | [key] =>
    match entries.find key with
    | none => some (entries.put key (.tables [] []))
    | some (.tables done last) => some (entries.put key (.tables (done ++ [last]) []))
    | some _ => none
  | key :: more =>
    match entries.find key with
    | none => (Entries.openNext [] more).map fun inner => entries.put key (.table .path inner)
    | some (.table making inner) =>
      (Entries.openNext inner more).map fun inner => entries.put key (.table making inner)
    | some (.tables done last) =>
      (Entries.openNext last more).map fun last => entries.put key (.tables done last)
    | some (.value _) => none

/-- Add a value to the open table that a header names. -/
def Entries.addAt (entries : Entries) (v : Node) (keys : List String) : List String → Option Entries
  | [] => entries.addValue v keys
  | key :: more =>
    match entries.find key with
    | some (.table making inner) =>
      (Entries.addAt inner v keys more).map fun inner => entries.put key (.table making inner)
    | some (.tables done last) =>
      (Entries.addAt last v keys more).map fun last => entries.put key (.tables done last)
    | _ => none

mutual

/-- The value of an entry. -/
def Node.toJson : Node → Json
  | .value v => v
  | .table _ entries => .object (Fields.ofList (Node.fields entries))
  | .tables done last => .array (Node.objects done ++ [.object (Fields.ofList (Node.fields last))])

/-- The entries of a table as named values. -/
def Node.fields : List (String × Node) → List (String × Json)
  | [] => []
  | (key, n) :: rest => (key, n.toJson) :: Node.fields rest

/-- The tables of an array as objects. -/
def Node.objects : List (List (String × Node)) → List Json
  | [] => []
  | entries :: rest => .object (Fields.ofList (Node.fields entries)) :: Node.objects rest

end

mutual

/-- Read a value. The number bounds the depth of calls. -/
def readValue : Nat → Step Json
  | 0, _ => none
  | depth + 1, cs =>
    match cs with
    | '[' :: rest => do
      let (items, after) ← readItems depth rest
      return (.array items, after)
    | '\x7b' :: rest =>
      match skipSpace rest with
      | '\x7d' :: after => some (.object [], after)
      | more => do
        let (entries, after) ← readInline depth [] more
        return (.object (Fields.ofList (Node.fields entries)), after)
    | '\x22' :: _ | '\x27' :: _ => (readText cs).map fun (s, rest) => (.string s, rest)
    | _ => do
      let (plain, rest) := plainPart cs
      return (← plainValue plain, rest)

/-- Read the items of an array, to its end. -/
def readItems : Nat → Step (List Json)
  | 0, _ => none
  | depth + 1, cs => do
    let rest ← skipLines (cs.length + 1) cs
    match rest with
    | ']' :: after => return ([], after)
    | _ =>
      let (v, more) ← readValue depth rest
      match ← skipLines (more.length + 1) more with
      | ']' :: after => return ([v], after)
      | ',' :: tail =>
        let (vs, after) ← readItems depth tail
        return (v :: vs, after)
      | _ => none

/-- Read the entries of a table written in line, to its end. -/
def readInline : Nat → Entries → Step Entries
  | 0, _, _ => none
  | depth + 1, entries, cs => do
    let (keys, rest) ← readKeys (cs.length + 1) cs
    match rest with
    | '=' :: tail =>
      let (v, more) ← readValue depth (skipSpace tail)
      let entries ← entries.addValue (.value v) keys
      match skipSpace more with
      | '\x7d' :: after => return (entries, after)
      | ',' :: next => readInline depth entries next
      | _ => none
    | _ => none

end

/-- What follows the end of a line that holds nothing more than a comment. -/
def endOfLine (cs : List Char) : Option (List Char) := do
  let rest ← afterComment (skipSpace cs)
  if rest.isEmpty then return [] else afterLineEnd rest

/-- What has been read of a text: its entries, and the header of the table that is open. -/
structure Progress where
  entries : Entries
  header : List String

/-- Read one line that is not blank. -/
def readLine (p : Progress) (cs : List Char) : Option (Progress × List Char) :=
  match cs with
  | '[' :: '[' :: rest => do
    let (keys, more) ← readKeys (rest.length + 1) rest
    match more with
    | ']' :: ']' :: tail => return (⟨← p.entries.openNext keys, keys⟩, ← endOfLine tail)
    | _ => none
  | '[' :: rest => do
    let (keys, more) ← readKeys (rest.length + 1) rest
    match more with
    | ']' :: tail => return (⟨← p.entries.openTable keys, keys⟩, ← endOfLine tail)
    | _ => none
  | _ => do
    let (keys, rest) ← readKeys (cs.length + 1) cs
    match rest with
    | '=' :: tail =>
      let (v, more) ← readValue (cs.length + 2) (skipSpace tail)
      return ({ p with entries := ← p.entries.addAt (.value v) keys p.header }, ← endOfLine more)
    | _ => none

/-- Read the lines of a text, with a bound on their number. -/
def readLines : Nat → Progress → List Char → Option Entries
  | 0, _, _ => none
  | steps + 1, p, cs => do
    match ← skipLines (cs.length + 1) cs with
    | [] => return p.entries
    | rest =>
      let (p, more) ← readLine p rest
      readLines steps p more

/-- The value of a text; nothing for a text that is no table. -/
def value? (text : String) : Option Json :=
  let cs := match text.toList with
    | c :: rest => if c.toNat = 0xFEFF then rest else c :: rest
    | [] => []
  (readLines (cs.length + 1) ⟨[], []⟩ cs).map fun entries => .object (Fields.ofList (Node.fields entries))

end TabularReport.Toml

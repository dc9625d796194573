import TabularReport.Document.Error
import TabularReport.Document.Text

/-!
# Reading documents

A reader turns a source into a domain value or the first error. Records are read from objects or, field by
field in order, from arrays. In an object the entries are taken in the order of reading and the first one
at fault is reported; fields that are missing are reported after that, in the order of their declaration.
`RecordReader` gets this order right field by field: each error carries the place at which it arises, and
of two errors the earlier one is kept.
-/

namespace TabularReport

/-- Where a source comes from. A few errors are found at different moments in a value, in a text, and in
a part that was set aside to be read more than once. -/
inductive Origin where
  | value
  | text
  | setAside
deriving DecidableEq

/-- A reader of documents. -/
abbrev Reader (α : Type) := Origin → Source → Except ReadError α

namespace Reader

/-- The error of a source that is none of the expected kind: its own fault, when it has one. -/
def mismatch {α : Type} (expected : String) : Source → Except ReadError α
  | .unreadable cause => .error (.malformed cause)
  | .nestedTooDeep _ => .error (.malformed .tooDeep)
  | .cut cause => .error (.malformed cause)
  | s => .error (.invalidType s.describe expected)

/-- Change what a reader yields. -/
def map {α β : Type} (f : α → β) (r : Reader α) : Reader β := fun o s => (r o s).map f

/-- Read any value. -/
def json : Reader Json := fun _ s =>
  match s.value with
  | .ok v => .ok v
  | .error e => .error (.malformed e)

/-- Read a text. -/
def string : Reader String
  | _, .string s => .ok s
  | _, s => mismatch "a string" s

/-- Read a truth value. -/
def bool : Reader Bool
  | _, .bool b => .ok b
  | _, s => mismatch "a boolean" s

/-- Read a natural number below `2^width`. -/
def natural (width : Nat) (name : String) : Reader Nat
  | _, .number (.int i) =>
    if 0 ≤ i && i < Nat.pow 2 width then .ok i.toNat
    else .error (.invalidValue (Source.describe (.number (.int i))) name)
  | _, s => mismatch name s

/-- Read a floating-point number; an integer is rounded to one. -/
def float : Reader Float
  | _, .number n => .ok n.toFloat
  | _, s => mismatch "f64" s

/-- Read something that may be null. -/
def nullable {α : Type} (r : Reader α) : Reader (Option α)
  | _, .null => .ok none
  | o, s => (r o s).map some

/-- Read each item in order. -/
def items {α : Type} (r : Reader α) (o : Origin) : List Source → Except ReadError (List α)
  | [] => .ok []
  | s :: rest =>
    match r o s with
    | .error e => .error e
    | .ok a =>
      match items r o rest with
      | .error e => .error e
      | .ok more => .ok (a :: more)

/-- Read an array of things of one kind. -/
def list {α : Type} (r : Reader α) : Reader (List α)
  | o, .array sources stop =>
    match items r o sources, stop with
    | .error e, _ => .error e
    | .ok _, some cause => .error (.malformed cause)
    | .ok found, none => .ok found
  | _, s => mismatch "a sequence" s

/-- Read an object as named values. -/
def fields : Reader Fields
  | _, .object entries stop =>
    match (Source.object entries stop).value with
    | .ok (.object fields) => .ok fields
    | .ok _ => .ok []
    | .error e => .error (.malformed e)
  | _, s => mismatch "a map" s

/-- Look a name up among the spellings of an enumeration. -/
def variantOf {α : Type} (variants : List (String × α)) (name : String) : Except ReadError α :=
  match variants.find? (·.1 == name) with
  | some (_, a) => .ok a
  | none => .error (.unknownVariant name (variants.map (·.1)))

/-- The error of an object in a text that ends before its variant. -/
def beforeVariant : Option Malformed → ReadError
  | some .endInObject => .malformed .endInValue
  | _ => .malformed .expectedValue

/-- The error of an object in a text that goes on after its variant. -/
def afterVariant : Option Malformed → ReadError
  | some .endInObject => .malformed .endInObject
  | _ => .malformed .expectedValue

/-- Read one of several names: the name as a text, or an object that holds null under the name. -/
def oneOf {α : Type} (variants : List (String × α)) : Reader α
  | _, .string s => variantOf variants s
  | o, .object [] stop =>
    match o, stop with
    | .text, _ => .error (beforeVariant stop)
    | _, _ => .error (.invalidValue "map" "map with a single key")
  | o, .object ((key, s) :: rest) stop =>
    if o ≠ .text && !rest.isEmpty then .error (.invalidValue "map" "map with a single key")
    else
      match variantOf variants key with
      | .error e => .error e
      | .ok a =>
        match s with
        | .null => if rest.isEmpty && stop.isNone then .ok a else .error (afterVariant stop)
        | _ => mismatch "unit" s
  | .text, s =>
    match s with
    | .unreadable cause | .cut cause => .error (.malformed cause)
    | .nestedTooDeep _ => .error (.malformed .tooDeep)
    | _ => .error (.malformed .expectedValue)
  | _, s => mismatch "string or map" s

/-- Read a part whose kind shows only on trying: all of it is read as a value first. -/
def settingAside {α : Type} (r : Source → Except ReadError α) : Reader α
  | .text, s =>
    match s.value with
    | .error e => .error (.malformed e)
    | .ok _ => r s
  | _, s => r s

end Reader

/-- The two forms of a record. -/
inductive RecordForm where
  | positional (items : List Source) (stop : Option Malformed)
  | keyed (entries : List (String × Source))

/-- An error of a record and the place at which it arises. -/
structure PlacedError where
  place : Nat
  /-- Nothing stands for an array that ends before the field at its place. -/
  cause : Option ReadError

/-- Reads the fields of a record. `keys` are all their spellings, `width` is their number, and the first
argument of `run` after the origin is the position of the first of them. -/
structure RecordReader (α : Type) where
  keys : List String
  width : Nat
  run : Origin → Nat → RecordForm → Except PlacedError α

namespace RecordReader

/-- A record without fields. -/
def pure {α : Type} (a : α) : RecordReader α := ⟨[], 0, fun _ _ _ => .ok a⟩

/-- The earlier of two errors; of two at one place the first. -/
def earlier (a b : PlacedError) : PlacedError := if b.place < a.place then b else a

/-- The fields of both readers, those of the first one before those of the second. -/
def combine {α β : Type} (f : RecordReader (α → β)) (x : RecordReader α) : RecordReader β where
  keys := f.keys ++ x.keys
  width := f.width + x.width
  run o i form :=
    match f.run o i form, x.run o (i + f.width) form with
    | .ok g, .ok a => .ok (g a)
    | .error e, .ok _ => .error e
    | .ok _, .error e => .error e
    | .error e, .error e' => .error (earlier e e')

/-- Fields are combined one after another. -/
instance : Applicative RecordReader where
  pure := RecordReader.pure
  seq f x := combine f (x ())

/-- The entries under one of the given keys, with their places. -/
def occurrences (keys : List String) (entries : List (String × Source)) : List (Nat × Source) :=
  (entries.zipIdx.filter fun (entry, _) => keys.contains entry.1).map fun (entry, i) => (i, entry.2)

/-- Read the field that stands under one of the given keys. Without an entry the given outcome counts. -/
def fieldWith {α : Type} (keys : List String) (r : Reader α) (name : String) (default? : Option α) :
    RecordReader α where
  keys := keys
  width := 1
  run o i
    | .positional items stop =>
      match items[i]? with
      | some s => (r o s).mapError fun e => ⟨i, some e⟩
      | none =>
        match stop, default? with
        | some cause, _ => .error ⟨i, some (.malformed cause)⟩
        | none, some a => .ok a
        | none, none => .error ⟨i, none⟩
    | .keyed entries =>
      match occurrences keys entries, default? with
      | [], some a => .ok a
      | [], none => .error ⟨entries.length + 1 + i, some (.missingField name)⟩
      | [(place, s)], _ => (r o s).mapError fun e => ⟨place, some e⟩
      | (place, s) :: (again, _) :: _, _ =>
        match r o s with
        | .error e => .error ⟨place, some e⟩
        | .ok _ => .error ⟨again, some (.duplicateField name)⟩

/-- A field that must be there. -/
def required {α : Type} (name : String) (r : Reader α) : RecordReader α :=
  fieldWith [name] r name none

/-- A field that has a value when it is left out. -/
def defaulted {α : Type} (name : String) (r : Reader α) (default : α) : RecordReader α :=
  fieldWith [name] r name (some default)

/-- A field that may be left out or null. -/
def optional {α : Type} (name : String) (r : Reader α) : RecordReader (Option α) :=
  fieldWith [name] r.nullable name (some none)

/-- The first entry that is no field: an error when the record admits no others, and else only when its
text goes wrong. -/
def strayEntry (keys : List String) (strict : Bool) (entries : List (String × Source)) :
    Option PlacedError :=
  entries.zipIdx.findSome? fun (entry, i) =>
    if keys.contains entry.1 then none
    else if strict then some ⟨i, some (.unknownField entry.1 keys)⟩
    else entry.2.damage?.map fun cause => ⟨i, some (.malformed cause)⟩

/-- The number of fields in the words of a message. -/
def countText (n : Nat) (noun : String) : String :=
  toString n ++ " " ++ noun ++ (if n = 1 then "" else "s")

/-- The error of an array that goes on after the last field. -/
def surplus (o : Origin) (width length : Nat) (stop : Option Malformed) : Option ReadError :=
  match o with
  | .value =>
    if width < length then some (.invalidLength length "fewer elements in array") else none
  | .setAside =>
    if width < length then some (.invalidLength length (countText width "element" ++ " in sequence"))
    else none
  | .text =>
    if width < length then some (.malformed .trailingCharacters)
    else
      match stop with
      | none => none
      | some .trailingComma => some (.malformed .trailingComma)
      | some .endInList => some (.malformed .endInList)
      | some _ => some (.malformed .trailingCharacters)

/-- Read the record from an array of its fields. -/
def readItems {α : Type} (r : RecordReader α) (what : String) (o : Origin) (items : List Source)
    (stop : Option Malformed) : Except ReadError α :=
  match r.run o 0 (.positional items stop) with
  | .error ⟨i, none⟩ =>
    .error (.invalidLength i (what ++ " with " ++ countText r.width "element"))
  | .error ⟨_, some e⟩ => .error e
  | .ok a =>
    match surplus o r.width items.length stop with
    | some e => .error e
    | none => .ok a

/-- Read the record from the entries of an object. -/
def readEntries {α : Type} (r : RecordReader α) (strict : Bool) (o : Origin)
    (entries : List (String × Source)) (stop : Option Malformed) : Except ReadError α :=
  let stray := strayEntry r.keys strict entries
  let ending := stop.map fun cause => PlacedError.mk entries.length (some (.malformed cause))
  let outcome := r.run o 0 (.keyed entries)
  let errors := (match outcome with | .error e => [e] | .ok _ => []) ++ stray.toList ++ ending.toList
  match errors, outcome with
  | e :: more, _ => .error ((more.foldl earlier e).cause.getD (.missingField ""))
  | [], .ok a => .ok a
  | [], .error _ => .error (.missingField "")

/-- Read a record; `what` names it in messages. -/
def reader {α : Type} (r : RecordReader α) (what : String) (strict : Bool) : Reader α
  | o, .array items stop => r.readItems what o items stop
  | o, .object entries stop => r.readEntries strict o entries stop
  | _, s => Reader.mismatch what s

end RecordReader

/-- Read a record that admits further entries. -/
def Reader.record {α : Type} (type : String) (r : RecordReader α) : Reader α :=
  r.reader ("struct " ++ type) false

/-- Read a document from a value. -/
def Reader.ofJson {α : Type} (r : Reader α) (v : Json) : Except ReadError α :=
  r .value v.source

/-- Read a document from a text that holds nothing else. -/
def Reader.ofText {α : Type} (r : Reader α) (text : String) : Except ReadError α :=
  let (s, more) := Source.ofText text
  match r .text s with
  | .error e => .error e
  | .ok a => if more then .error (.malformed .trailingCharacters) else .ok a

end TabularReport

import TabularReport.Json.Basic

/-!
# Documents as they are presented to a reader

A document comes from a value in memory or from a text. `Source` is both: a tree whose objects list their
entries in the order of reading, and which also holds the places where a text goes wrong. A reader that
reaches such a place reports it; what comes earlier in the text is reported first.
-/

namespace TabularReport

/-- What can be wrong with a text as JSON. -/
inductive Malformed where
  | endInValue
  | endInNumber
  | endInList
  | endInObject
  | endInString
  | expectedColon
  | expectedListEnd
  | expectedObjectEnd
  | expectedWord
  | expectedValue
  | invalidEscape
  | invalidNumber
  | numberOutOfRange
  | controlCharacter
  | keyNotString
  | loneSurrogate
  | trailingComma
  | trailingCharacters
  | endOfHexEscape
  | tooDeep
deriving DecidableEq, Inhabited

/-- The text of a fault. -/
def Malformed.message : Malformed → String
  | .endInValue | .endInNumber => "EOF while parsing a value"
  | .endInList => "EOF while parsing a list"
  | .endInObject => "EOF while parsing an object"
  | .endInString => "EOF while parsing a string"
  | .expectedColon => "expected `:`"
  | .expectedListEnd => "expected `,` or `]`"
  | .expectedObjectEnd => "expected `,` or `\x7d`"
  | .expectedWord => "expected ident"
  | .expectedValue => "expected value"
  | .invalidEscape => "invalid escape"
  | .invalidNumber => "invalid number"
  | .numberOutOfRange => "number out of range"
  | .controlCharacter => "control character (\\u0000-\\u001F) found while parsing a string"
  | .keyNotString => "key must be a string"
  | .loneSurrogate => "lone leading surrogate in hex escape"
  | .trailingComma => "trailing comma"
  | .trailingCharacters => "trailing characters"
  | .endOfHexEscape => "unexpected end of hex escape"
  | .tooDeep => "recursion limit exceeded"

/-- A document to be read. -/
inductive Source where
  | null
  | bool (value : Bool)
  | number (value : Number)
  | string (value : String)
  /-- Items in order, and the fault in the place of the next item or of the end. -/
  | array (items : List Source) (stop : Option Malformed)
  /-- Entries in order of reading, and the fault in the place of the next key or of the end. -/
  | object (entries : List (String × Source)) (stop : Option Malformed)
  /-- A complete literal that stands for no value; a reader that skips it does not notice. -/
  | unreadable (cause : Malformed)
  /-- A container nested too deeply to be read; a reader may skip it. -/
  | nestedTooDeep (inner : Source)
  /-- The text cannot be followed any further from here. -/
  | cut (cause : Malformed)
deriving Inhabited

mutual

/-- The source of a value in memory. -/
def Json.source : Json → Source
  | .null => .null
  | .bool b => .bool b
  | .number n => .number n
  | .string s => .string s
  | .array items => .array (sourceItems items) none
  | .object fields => .object (sourceFields fields) none

/-- The sources of the items of an array. -/
def Json.sourceItems : List Json → List Source
  | [] => []
  | v :: vs => v.source :: Json.sourceItems vs

/-- The sources of the fields of an object. -/
def Json.sourceFields : List (String × Json) → List (String × Source)
  | [] => []
  | (k, v) :: rest => (k, v.source) :: Json.sourceFields rest

end

/-- A fault in the place of an item, as it looks to a reader that only skips: after a comma it goes on to
the next value, and it does not ask for the end of a number. -/
def Malformed.atSkippedItem : Malformed → Malformed
  | .trailingComma => .expectedValue
  | .endInNumber => .invalidNumber
  | cause => cause

/-- A fault in the place of an entry, as it looks to a reader that only skips: after a comma it goes on to
the next key. -/
def Malformed.atSkippedEntry : Malformed → Malformed
  | .trailingComma => .keyNotString
  | .endInValue => .endInObject
  | cause => cause

namespace Source

mutual

/-- The first fault met by a reader that only skips over the source. -/
def damage? : Source → Option Malformed
  | .array items stop => (damageInItems? items).or (stop.map Malformed.atSkippedItem)
  | .object entries stop => (damageInEntries? entries).or (stop.map Malformed.atSkippedEntry)
  | .nestedTooDeep inner => inner.damage?
  | .cut cause => some cause.atSkippedItem
  | _ => none

/-- The first fault met by skipping over the items. -/
def damageInItems? : List Source → Option Malformed
  | [] => none
  | s :: rest => s.damage?.or (damageInItems? rest)

/-- The first fault met by skipping over the entries. -/
def damageInEntries? : List (String × Source) → Option Malformed
  | [] => none
  | (_, s) :: rest => s.damage?.or (damageInEntries? rest)

end

mutual

/-- The value of the source, or the first fault met by reading all of it. Of equal keys the last one
counts. -/
def value : Source → Except Malformed Json
  | .null => .ok .null
  | .bool b => .ok (.bool b)
  | .number n => .ok (.number n)
  | .string s => .ok (.string s)
  | .array items stop =>
    match itemValues items, stop with
    | .error e, _ => .error e
    | .ok _, some e => .error e
    | .ok vs, none => .ok (.array vs)
  | .object entries stop =>
    match entryValues entries, stop with
    | .error e, _ => .error e
    | .ok _, some e => .error e
    | .ok fields, none => .ok (.object (Fields.ofList fields))
  | .unreadable cause => .error cause
  | .nestedTooDeep _ => .error .tooDeep
  | .cut cause => .error cause

/-- The values of the items. -/
def itemValues : List Source → Except Malformed (List Json)
  | [] => .ok []
  | s :: rest =>
    match s.value with
    | .error e => .error e
    | .ok v =>
      match itemValues rest with
      | .error e => .error e
      | .ok vs => .ok (v :: vs)

/-- The values of the entries. -/
def entryValues : List (String × Source) → Except Malformed (List (String × Json))
  | [] => .ok []
  | (k, s) :: rest =>
    match s.value with
    | .error e => .error e
    | .ok v =>
      match entryValues rest with
      | .error e => .error e
      | .ok fields => .ok ((k, v) :: fields)

end

mutual

/-- How deeply the source nests. -/
def depth : Source → Nat
  | .array items _ => itemsDepth items + 1
  | .object entries _ => entriesDepth entries + 1
  | .nestedTooDeep inner => inner.depth + 1
  | _ => 0

/-- How deeply the items nest. -/
def itemsDepth : List Source → Nat
  | [] => 0
  | s :: rest => Nat.max s.depth (itemsDepth rest)

/-- How deeply the entries nest. -/
def entriesDepth : List (String × Source) → Nat
  | [] => 0
  | (_, s) :: rest => Nat.max s.depth (entriesDepth rest)

end

end Source

end TabularReport

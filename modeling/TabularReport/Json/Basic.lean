import TabularReport.Text.Basic

/-!
# JSON values

Numbers keep whether they were written as an integer. A map of fields is a list of key and value pairs;
`Fields.insert` and `Fields.ofList` keep its keys in the order of code points, each key once.
-/

namespace TabularReport

/-- A JSON number. Integers lie between `-2^63` and `2^64 - 1`; floats are finite. -/
inductive Number where
  | int (value : Int)
  | float (value : Float)
deriving DecidableEq, Inhabited

/-- A JSON value. -/
inductive Json where
  | null
  | bool (value : Bool)
  | number (value : Number)
  | string (value : String)
  | array (items : List Json)
  | object (fields : List (String × Json))
deriving Inhabited

/-- Named values: parameter values, result rows, free-form options. -/
abbrev Fields := List (String × Json)

namespace Fields

/-- The value held under a key. -/
def get? (fields : Fields) (key : String) : Option Json :=
  (fields.find? (·.1 == key)).map (·.2)

/-- Put a value under a key, replacing what the key held, at the key's place in the order. -/
def insert : Fields → String → Json → Fields
  | [], key, value => [(key, value)]
  | (k, v) :: rest, key, value =>
    if k = key then (key, value) :: rest
    else if Text.before key k then (key, value) :: (k, v) :: rest
    else (k, v) :: insert rest key value

/-- The map of a list of pairs; of equal keys the last one counts. -/
def ofList (pairs : List (String × Json)) : Fields :=
  pairs.foldl (fun fields pair => fields.insert pair.1 pair.2) []

/-- Overlay the pairs of a second map on a first one. -/
def overlay (below above : Fields) : Fields :=
  above.foldl (fun fields pair => fields.insert pair.1 pair.2) below

end Fields

namespace Number

/-- The number as a floating-point number; integers are rounded to the nearest. -/
def toFloat : Number → Float
  | .int i => if i < 0 then -(Float.ofNat i.natAbs) else Float.ofNat i.natAbs
  | .float x => x

/-- Numeric equality within a kind: an integer never equals a float. -/
def same : Number → Number → Bool
  | .int i, .int j => i == j
  | .float x, .float y => x == y
  | _, _ => false

/-- The integer between `-2^63` and `2^63 - 1` that the number is, if it is one. -/
def toInt64? : Number → Option Int
  | .int i => if i < Nat.pow 2 63 then some i else none
  | .float _ => none

end Number

namespace Json

/-- A natural number as a value. -/
def ofNat (n : Nat) : Json := .number (.int n)

/-- A floating-point number as a value; what is not finite has no number and becomes null. -/
def ofFloat (x : Float) : Json := if x.isFinite then .number (.float x) else .null

/-- A list of texts as a value. -/
def ofStrings (items : List String) : Json := .array (items.map .string)

/-- Whether the value is null. -/
def isNull : Json → Bool
  | .null => true
  | _ => false

/-- Whether a looked-up value is missing or null. -/
def absent : Option Json → Bool
  | none => true
  | some v => v.isNull

/-- The value, when it is not null. -/
def present? (v : Json) : Option Json := if v.isNull then none else some v

/-- The value under a key of an object; nothing for every other kind of value. -/
def field? : Json → String → Option Json
  | .object fields, key => Fields.get? fields key
  | _, _ => none

mutual

/-- Equality of values: numbers compare as numbers of one kind, all else part by part. -/
def same : Json → Json → Bool
  | .null, .null => true
  | .bool a, .bool b => a == b
  | .number a, .number b => a.same b
  | .string a, .string b => a == b
  | .array a, .array b => sameItems a b
  | .object a, .object b => sameFields a b
  | _, _ => false

/-- Equality of arrays, item by item. -/
def sameItems : List Json → List Json → Bool
  | [], [] => true
  | a :: as, b :: bs => same a b && sameItems as bs
  | _, _ => false

/-- Equality of objects, field by field. -/
def sameFields : List (String × Json) → List (String × Json) → Bool
  | [], [] => true
  | (k, a) :: as, (l, b) :: bs => k == l && same a b && sameFields as bs
  | _, _ => false

end

end Json

end TabularReport

import TabularReport.Decimal.Reading
import TabularReport.Json.Printer
import TabularReport.Sql.Basic

/-!
# Values of relations

How values of documents become values of relations and back, and how values of relations compare. Null
comes before numbers, numbers before texts and texts before bytes.
-/

namespace TabularReport.Sql

namespace Cell

/-- The value that is bound for a value of a document. Truth values are numbers, integers beyond 63 bits are
rounded, and lists and objects go by their text. -/
def ofJson : Json → Cell
  | .null => .null
  | .bool b => .integer (if b then 1 else 0)
  | .number n =>
    match n.toInt64? with
    | some i => .integer i
    | none => .real n.toFloat
  | .string s => .text s
  | .array items => .text (Json.array items).compact
  | .object fields => .text (Json.object fields).compact

/-- The value of a document for a value of a relation. Bytes are written in hexadecimal. -/
def toJson : Cell → Json
  | .null => .null
  | .integer i => .number (.int i)
  | .real x => .ofFloat x
  | .text s => .string s
  | .blob bytes =>
    .string (String.ofList (bytes.flatMap fun b => [Text.hexDigit (b / 16), Text.hexDigit (b % 16)]))

/-- Whether the value is null. -/
def isNull : Cell → Bool
  | .null => true
  | _ => false

/-- The number at the start of a text, zero without one. -/
def leadingNumber (s : String) : Float :=
  let (negative, rest) := Decimal.sign (Text.trimLeft s.toList)
  let number := rest.takeWhile fun c => Text.isDigit c || c == '.'
  match Decimal.literal? number with
  | some l => if negative then -l.value else l.value
  | none => 0

/-- The value as a number; null has none. -/
def float? : Cell → Option Float
  | .null => none
  | .integer i => some (Number.int i).toFloat
  | .real x => some x
  | .text s => some (leadingNumber s)
  | .blob _ => some 0

/-- The value as a condition; null is neither true nor false. -/
def truth? (c : Cell) : Option Bool := c.float?.map fun x => !(x == 0)

/-- A condition as a value. -/
def ofTruth : Option Bool → Cell
  | none => .null
  | some b => .integer (if b then 1 else 0)

/-- The value as a text; null has none. -/
def text? : Cell → Option String
  | .null => none
  | .integer i => some (toString i)
  | .real x => some (Number.text (.float x))
  | .text s => some s
  | .blob bytes => some (String.ofList (bytes.map Char.ofNat))

/-- The place of the kind of a value in the order of values. -/
def rank : Cell → Nat
  | .null => 0
  | .integer _ | .real _ => 1
  | .text _ => 2
  | .blob _ => 3

/-- Whether the first list of numbers comes before the second. -/
def bytesBefore : List Nat → List Nat → Bool
  | _, [] => false
  | [], _ :: _ => true
  | a :: as, b :: bs => if a = b then bytesBefore as bs else a < b

/-- Whether the first value comes before the second. -/
def before (a b : Cell) : Bool :=
  match a, b with
  | .integer i, .integer j => i < j
  | .text s, .text t => Text.before s t
  | .blob s, .blob t => bytesBefore s t
  | a, b =>
    if a.rank = 1 && b.rank = 1 then
      match a.float?, b.float? with
      | some x, some y => x < y
      | _, _ => false
    else a.rank < b.rank

/-- Whether two values stand at one place of the order. -/
def same (a b : Cell) : Bool := !a.before b && !b.before a

/-- Whether a text matches a pattern: `%` stands for any characters and `_` for any one; the case of the
letters of ASCII does not count. -/
def matchesLike : List Char → List Char → Bool
  | [], [] => true
  | [], _ :: _ => false
  | '%' :: pattern, [] => matchesLike pattern []
  | '%' :: pattern, c :: cs => matchesLike pattern (c :: cs) || matchesLike ('%' :: pattern) cs
  | _ :: _, [] => false
  | p :: pattern, c :: cs => (p = '_' || p.toLower = c.toLower) && matchesLike pattern cs
termination_by pattern cs => pattern.length + cs.length

end Cell

end TabularReport.Sql

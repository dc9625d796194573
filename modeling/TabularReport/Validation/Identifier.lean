import TabularReport.Text.Basic
import TabularReport.Validation.Error

/-!
# Safe identifiers

Names become part of a statement's text, so they are checked first. A safe identifier is a name, a name
qualified by another, or an aggregate of one of these or of everything. Names are ASCII; only an aggregate
is read without regard to letter case, which lets in the two characters outside ASCII whose case variants
lie in it.
-/

namespace TabularReport.Identifier

open Text

/-- A letter of ASCII or an underscore. -/
def isStart (c : Char) : Bool := c.isAlpha || c == '_'

/-- A letter or digit of ASCII or an underscore. -/
def isPart (c : Char) : Bool := isStart c || isDigit c

/-- The long s and the kelvin sign, whose case variants are letters of ASCII. -/
def isFoldedLetter (c : Char) : Bool := c.toNat == 0x17F || c.toNat == 0x212A

/-- A name: a starting character and any number of further ones. -/
def isName (start part : Char → Bool) : List Char → Bool
  | [] => false
  | c :: cs => start c && cs.all part

/-- A name, or two with a point between them. -/
def isReference (start part : Char → Bool) (cs : List Char) : Bool :=
  match cs.dropWhile (· != '.') with
  | [] => isName start part cs
  | _ :: rest => isName start part (cs.takeWhile (· != '.')) && isName start part rest

/-- A letter without its case, for the names of aggregates. -/
def foldLetter (c : Char) : Char :=
  if c.toNat == 0x17F then 's' else c.toLower

/-- The names of the aggregates. -/
def aggregates : List String := ["count", "sum", "avg", "min", "max"]

/-- What an aggregate may be taken of. -/
def isArgument (cs : List Char) : Bool :=
  cs == ['*'] ||
    isReference (fun c => isStart c || isFoldedLetter c) (fun c => isPart c || isFoldedLetter c) cs

/-- The name of an aggregate with its argument in parentheses; blanks may stand around the argument. -/
def isAggregate (cs : List Char) : Bool :=
  let name := cs.takeWhile (· != '(')
  match cs.dropWhile (· != '('), cs.getLast? with
  | _ :: rest, some ')' =>
    aggregates.contains (String.ofList (name.map foldLetter)) && isArgument (trim rest.dropLast)
  | _, _ => false

/-- Whether a text may become part of a statement as a reference to a column or source. -/
def isSafe (s : String) : Bool :=
  isReference isStart isPart s.toList || isAggregate s.toList

/-- Accept a safe identifier; `context` says in messages where it stands. -/
def check (s context : String) : Except ValidationError Unit :=
  if isSafe s then .ok () else .error (.invalidIdentifier context s)

end TabularReport.Identifier

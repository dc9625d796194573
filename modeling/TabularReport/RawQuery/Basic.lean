import TabularReport.Filter.Fragment
import TabularReport.Sql.Statement
import TabularReport.Validation.Error

/-!
# Raw queries

A component may hold a query text of its own, in which `$name` stands for a value. Each distinct name becomes
a placeholder, numbered by its first occurrence, and the text must then be a single query. Names stand for
values everywhere, in quotes and comments too.
-/

namespace TabularReport

/-- A raw query with placeholders and the names they stand for, in the order of the placeholders. -/
structure NumberedQuery where
  sql : String
  names : List String
deriving DecidableEq, Inhabited

namespace RawQuery

/-- A character that a name starts with. -/
def isNameStart (c : Char) : Bool := c.isAlpha || c == '_'

/-- A character that a name goes on with. -/
def isNamePart (c : Char) : Bool := c.isAlphanum || c == '_'

/-- A piece of a query text: a character, or a name after a dollar sign. -/
inductive Piece where
  | char (c : Char)
  | name (name : String)
deriving DecidableEq

/-- The pieces of a text. `name` holds the characters of a name that is being read, last one first. -/
def piecesFrom : Option (List Char) → List Char → List Piece
  | none, [] => []
  | some name, [] => [.name (String.ofList name.reverse)]
  | none, '$' :: c :: rest =>
    if isNameStart c then piecesFrom (some [c]) rest else .char '$' :: piecesFrom none (c :: rest)
  | none, c :: rest => .char c :: piecesFrom none rest
  | some name, c :: rest =>
    if isNamePart c then piecesFrom (some (c :: name)) rest
    else if c = '$' then
      match rest with
      | d :: more =>
        if isNameStart d then .name (String.ofList name.reverse) :: piecesFrom (some [d]) more
        else .name (String.ofList name.reverse) :: .char '$' :: piecesFrom none (d :: more)
      | [] => [.name (String.ofList name.reverse), .char '$']
    else .name (String.ofList name.reverse) :: .char c :: piecesFrom none rest
termination_by _ cs => cs.length

/-- The pieces of a text. -/
def pieces (cs : List Char) : List Piece := piecesFrom none cs

/-- Number the names of a text, given those met before it in the order of their numbers. -/
def number (names : List String) : List Piece → List Char × List String
  | [] => ([], names)
  | .char c :: rest =>
    let (cs, all) := number names rest
    (c :: cs, all)
  | .name n :: rest =>
    let known := if names.contains n then names else names ++ [n]
    let (cs, all) := number known rest
    ((placeholder (known.idxOf n + 1)).toList ++ cs, all)

/-- Put placeholders for the names in a text. -/
def substitute (query : String) : NumberedQuery :=
  let (cs, names) := number [] (pieces query.toList)
  ⟨String.ofList cs, names⟩

/-- Whether a text holds a numbered placeholder already. -/
def hasPositional : List Char → Bool
  | '$' :: d :: rest => Text.isDigit d || hasPositional (d :: rest)
  | _ :: rest => hasPositional rest
  | [] => false

/-- What keeps a text from being run. -/
inductive Problem where
  | positional
  | unreadable (message : String)
  | statementCount (found : Nat)
  | notAQuery (statement : String)
deriving DecidableEq, Inhabited

/-- The text of a problem. -/
def Problem.message : Problem → String
  | .positional => "positional placeholders are not allowed; use $name tokens"
  | .unreadable message => message
  | .statementCount found => "expected a single statement, found " ++ toString found
  | .notAQuery statement => "only SELECT queries are allowed, found: " ++ statement

section

variable (sql : String) (parse : Sql.Parser := Sql.parser)

/-- Whether a text can be read as statements. -/
def isReadable : Bool := (parse sql).toBool

/-- Accept a text that is a single query. -/
def checkSingle : Except Problem Unit :=
  match parse sql with
  | .error message => .error (.unreadable message)
  | .ok [.query] => .ok ()
  | .ok [.other text] => .error (.notAQuery text)
  | .ok statements => .error (.statementCount statements.length)

end

/-- The value of a name. -/
def valueOf (values : Fields) (name : String) : Except ValidationError Json :=
  match (Fields.get? values name).bind Json.present? with
  | some v => .ok v
  | none => .error (.missingQueryParameter name)

/-- A query ready to be run: its text, the values of its placeholders, and the names they come from. -/
structure Prepared where
  sql : String
  params : List Json
  names : List String
deriving Inhabited

/-- Make a text ready to be run with the given values. -/
def prepare (query : String) (values : Fields) (parse : Sql.Parser := Sql.parser) :
    Except ValidationError Prepared := do
  if hasPositional query.toList then throw (.invalidRawQuery Problem.positional.message)
  let numbered := substitute query
  (checkSingle numbered.sql parse).mapError fun p => .invalidRawQuery p.message
  let params ← numbered.names.mapM (valueOf values)
  return ⟨numbered.sql, params, numbered.names⟩

end RawQuery

end TabularReport

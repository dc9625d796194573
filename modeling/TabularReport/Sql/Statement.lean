import TabularReport.Sql.Reading

/-!
# Reading statements

A parser says which statements a text holds. `statements?` reads a text as statements separated by semicolons
and so gives one: queries are read in full; of other statements only the shape is read, to tell a statement
from a text that is none. The text itself gives a bound on the depth of calls that suffices.
-/

namespace TabularReport.Sql

/-- A statement as a parser tells of it: a query, or another statement with its text. -/
inductive ParsedStatement where
  | query
  | other (text : String)
deriving DecidableEq, Inhabited

/-- A parser: the statements of a text, or the message of its error. -/
abbrev Parser := String → Except String (List ParsedStatement)

/-- The words that statements other than queries start with, whose shape is not read further. -/
def looseStatements : List String :=
  ["grant", "revoke", "set", "show", "copy", "comment", "analyze", "call", "prepare", "execute",
    "deallocate", "declare", "fetch", "savepoint", "release", "merge", "use", "pragma", "attach", "kill",
    "close", "discard", "listen", "notify", "assert"]

/-- The kinds of things that can be made, with the words that may stand before them. -/
def makingWords : List String :=
  ["table", "view", "index", "unique", "schema", "database", "function", "procedure", "role", "sequence",
    "type", "trigger", "extension", "policy", "temp", "temporary", "global", "local", "or", "materialized",
    "virtual", "external", "user"]

/-- The kinds of things that can be altered. -/
def alteringWords : List String := ["table", "view", "index", "role", "policy", "type"]

/-- The words that are statements by themselves. -/
def shortStatements : List String := ["begin", "commit", "end"]

/-- Whether the parentheses of a list close one another; `depth` of them are open before it. -/
def isBalanced (depth : Nat) : List Lexeme → Bool
  | [] => depth == 0
  | .symbol "(" :: rest => isBalanced (depth + 1) rest
  | .symbol ")" :: rest => depth != 0 && isBalanced (depth - 1) rest
  | _ :: rest => isBalanced depth rest

/-- What follows a statement of at least so many lexemes whose shape is not read further. -/
def afterLoose (least : Nat) (ls : List Lexeme) : Option (List Lexeme) :=
  let statement := ls.takeWhile (· ≠ .symbol ";")
  if least ≤ statement.length && isBalanced 0 statement then some (ls.dropWhile (· ≠ .symbol ";"))
  else none

/-- What follows a description of a statement or of a relation. -/
def afterDescription (depth : Nat) (ls : List Lexeme) : Option (List Lexeme) :=
  let ls := skipWord "verbose" (skipWord "analyze" ls)
  ((readSelect depth ls).map (·.2)).or <|
    ((readChange depth ls).map (·.2)).or ((readRelationName ls).map (·.2))

/-- What follows the removal of named things. -/
def afterRemoval (depth : Nat) (ls : List Lexeme) : Option (List Lexeme) := do
  let (_, rest) ← readName ls
  let (_, rest) ← readNames depth ((afterWords ["if", "exists"] rest).getD rest)
  return skipWord "restrict" (skipWord "cascade" rest)

/-- What follows a statement that is no query. -/
def afterOther (depth : Nat) (ls : List Lexeme) : Option (List Lexeme) :=
  match ls with
  | .word w :: rest =>
    let word := Text.lower w
    match word with
    | "delete" | "update" | "insert" => (readChange depth ls).map (·.2)
    | "truncate" => (readNames depth (skipWord "table" rest)).map (·.2)
    | "drop" => afterRemoval depth rest
    | "start" => (afterWord "transaction" rest).bind (afterLoose 0)
    | "explain" | "describe" | "desc" => afterDescription depth rest
    | "create" => if makingWords.any fun v => startsWith v rest then afterLoose 2 rest else none
    | "alter" => if alteringWords.any fun v => startsWith v rest then afterLoose 3 rest else none
    | "rollback" =>
      let rest := skipWord "work" (skipWord "transaction" rest)
      match afterWord "to" rest with
      | some tail => (readName (skipWord "savepoint" tail)).map (·.2)
      | none => some rest
    | _ =>
      if shortStatements.contains word then some (skipWord "work" (skipWord "transaction" rest))
      else if looseStatements.contains word then afterLoose 1 rest
      else none
  | _ => none

/-- Read one statement. A text that starts with the word of a change is a change and no query. -/
def readStatement (depth : Nat) (ls : List Lexeme) : Option (SqlStatement × List Lexeme) :=
  match afterOther depth ls, readSelect depth ls with
  | some rest, _ => some (.other, rest)
  | none, some (q, rest) => some (.query q, rest)
  | none, none => none

/-- Read statements separated by semicolons, at most a given number of them. -/
def readStatements (depth : Nat) : Nat → List Lexeme → Option (List SqlStatement)
  | 0, _ => none
  | steps + 1, ls =>
    match ls.dropWhile (· = .symbol ";") with
    | [] => some []
    | rest => do
      let (first, after) ← readStatement depth rest
      match after with
      | [] => some [first]
      | l :: tail =>
        if l = .symbol ";" then (readStatements depth steps tail).map (first :: ·) else none

/-- The statements that lexemes spell; nothing when they spell no list of statements. -/
def statementsOf? (ls : List Lexeme) : Option (List SqlStatement) :=
  readStatements (24 * (ls.length + 2)) (ls.length + 1) ls

/-- The statements of a text; nothing for a text that is no list of statements. -/
def statements? (text : String) : Option (List SqlStatement) := (lexemes? text).bind statementsOf?

/-- The lexemes of the first statement. -/
def firstStatement (ls : List Lexeme) : List Lexeme :=
  (ls.dropWhile (· = .symbol ";")).takeWhile (· ≠ .symbol ";")

/-- The parser that reads statements here. Its errors and the texts of other statements say no more. -/
def parser : Parser := fun text =>
  match statements? text with
  | none => .error "sql parser error: "
  | some statements => .ok (statements.map fun
    | .query _ => .query
    | .other => .other "")

end TabularReport.Sql

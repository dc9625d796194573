import TabularReport.Decimal.Reading
import TabularReport.Sql.Basic
import TabularReport.Sql.Lexeme

/-!
# Phrases of query texts

Words, names, types and other short runs of lexemes that expressions and queries are made of. Keywords are
matched in any letter case.
-/

namespace TabularReport.Sql

/-- Reads something from the front of a list of lexemes. -/
abbrev Step (α : Type) := List Lexeme → Option (α × List Lexeme)

/-- Whether a lexeme is the given word, written in lower case here and in any case in the text. -/
def Lexeme.isWord (keyword : String) : Lexeme → Bool
  | .word w => Text.lower w == keyword
  | _ => false

/-- What follows a word. -/
def afterWord (keyword : String) : List Lexeme → Option (List Lexeme)
  | l :: rest => if l.isWord keyword then some rest else none
  | [] => none

/-- What follows several words. -/
def afterWords : List String → List Lexeme → Option (List Lexeme)
  | [], ls => some ls
  | w :: more, ls => (afterWord w ls).bind (afterWords more)

/-- What follows a symbol. -/
def afterSymbol (symbol : String) : List Lexeme → Option (List Lexeme)
  | .symbol s :: rest => if s = symbol then some rest else none
  | _ => none

/-- What follows a word that may be left out. -/
def skipWord (keyword : String) (ls : List Lexeme) : List Lexeme := (afterWord keyword ls).getD ls

/-- Whether a list starts with the given word. -/
def startsWith (keyword : String) (ls : List Lexeme) : Bool := (afterWord keyword ls).isSome

/-- The words that go on with a query and so name neither a column nor a relation. -/
def clauseWords : List String :=
  ["select", "from", "where", "group", "having", "order", "limit", "offset", "union", "except", "intersect",
    "on", "using", "join", "as", "and", "or", "when", "then", "else", "end", "by", "into", "set", "fetch",
    "qualify"]

/-- The words that stand after an expression or a relation and so are no name for it. -/
def followingWords : List String :=
  clauseWords ++
    ["inner", "left", "right", "full", "cross", "natural", "is", "not", "in", "like", "ilike", "between",
      "collate", "over", "filter", "asc", "desc", "nulls", "returning", "for", "window", "with", "values"]

/-- Read a name that may be any word. -/
def readName : Step String
  | .word w :: rest => some (w, rest)
  | .quotedName n :: rest => some (n, rest)
  | _ => none

/-- Read the further parts of a name; the last part names the thing. -/
def readNameParts (last : String) : Step String
  | .symbol "." :: .word w :: rest => readNameParts w rest
  | .symbol "." :: .quotedName n :: rest => readNameParts n rest
  | .symbol "." :: _ => none
  | ls => some (last, ls)

/-- Read the name of a relation. -/
def readRelationName : Step String
  | .word w :: rest =>
    if clauseWords.contains (Text.lower w) then none else readNameParts w rest
  | .quotedName n :: rest => readNameParts n rest
  | _ => none

/-- Read the name that is given to what stands before it, if one is. A text serves as a name. -/
def readAlias : Step (Option String)
  | ls =>
    match afterWord "as" ls with
    | some (.text t :: rest) => some (some t, rest)
    | some rest => (readName rest).map fun (n, more) => (some n, more)
    | none =>
      match ls with
      | .text t :: rest => some (some t, rest)
      | .word w :: rest => if followingWords.contains (Text.lower w) then some (none, ls) else some (some w, rest)
      | .quotedName n :: rest => some (some n, rest)
      | _ => some (none, ls)

/-- Read names separated by commas. -/
def readNames : Nat → Step (List String)
  | 0, _ => none
  | depth + 1, ls => do
    let (n, rest) ← readName ls
    match afterSymbol "," rest with
    | some more =>
      let (names, after) ← readNames depth more
      return (n :: names, after)
    | none => return ([n], rest)

/-- What follows the parenthesis that closes an open one. -/
def afterClosing (depth : Nat) : List Lexeme → Option (List Lexeme)
  | .symbol "(" :: rest => afterClosing (depth + 1) rest
  | .symbol ")" :: rest =>
    match depth with
    | 0 => some rest
    | n + 1 => afterClosing n rest
  | _ :: rest => afterClosing depth rest
  | [] => none

/-- The second words of types of two words. -/
def typeWords : List String := ["precision", "varying"]

/-- Read the name of a type. -/
def readType : Step String
  | ls => do
    let (n, rest) ← readName ls
    let rest := match rest with
      | .word w :: more => if typeWords.contains (Text.lower w) then more else rest
      | _ => rest
    let rest ← match afterSymbol "(" rest with
      | some more => afterClosing 0 more
      | none => some rest
    let rest := ((afterWords ["with", "time", "zone"] rest).or
      (afterWords ["without", "time", "zone"] rest)).getD rest
    let rest := match rest with
      | .symbol "[" :: .symbol "]" :: more => more
      | _ => rest
    return (n, rest)

/-- The value of a number. Whole numbers that do not fit 64 bits are floating-point numbers. -/
def numberCell (digits : List Char) : Cell :=
  if digits.all Text.isDigit && Text.digitsValue digits < Nat.pow 2 63 then
    .integer (Text.digitsValue digits)
  else
    match Decimal.literal? digits with
    | some l => .real l.value
    | none => .null

/-- The bytes that pairs of hexadecimal digits stand for. -/
def blobBytes : List Char → Option (List Nat)
  | [] => some []
  | a :: b :: rest => do
    let high ← Text.hexValue? a
    let low ← Text.hexValue? b
    let more ← blobBytes rest
    return (high * 16 + low) :: more
  | [_] => none

/-- How tightly a symbol binds its operands, if it stands between two. -/
def symbolRank? : String → Option Nat
  | "=" | "==" | "<" | "<=" | ">" | ">=" | "<>" | "!=" | "<=>" => some 4
  | "->" | "->>" | "#>" | "#>>" | "@>" | "<@" | "~" | "~*" | "!~" | "!~*" | "&&" | "|" | "&" | "#"
  | "<<" | ">>" | "?" => some 6
  | "+" | "-" => some 7
  | "*" | "/" | "%" => some 8
  | "||" | "^" => some 9
  | _ => none

/-- The tests that follow an operand, with the words that express them. -/
def testWords : List (List String × String) :=
  [(["is", "not", "null"], "IS NOT NULL"), (["is", "null"], "IS NULL"), (["isnull"], "IS NULL"),
    (["notnull"], "IS NOT NULL"), (["is", "not", "true"], "IS NOT TRUE"), (["is", "true"], "IS TRUE"),
    (["is", "not", "false"], "IS NOT FALSE"), (["is", "false"], "IS FALSE"),
    (["is", "not", "unknown"], "IS NOT NULL"), (["is", "unknown"], "IS NULL")]

/-- Read a test that follows an operand. -/
def readTest (ls : List Lexeme) : Option (String × List Lexeme) :=
  testWords.findSome? fun (words, name) => (afterWords words ls).map fun rest => (name, rest)

/-- Pass over what narrows a call to some of the rows. -/
def readWindow (e : Expr) : Step Expr
  | ls => do
    let ls ← match afterWord "filter" ls with
      | some rest => (afterSymbol "(" rest).bind (afterClosing 0)
      | none => some ls
    match afterWord "over" ls with
    | some rest =>
      match afterSymbol "(" rest with
      | some more => (afterClosing 0 more).map fun after => (.operation "OVER" [e], after)
      | none => (readName rest).map fun (_, after) => (.operation "OVER" [e], after)
    | none => some (e, ls)

/-- The words that a join starts with, and the name of its kind. -/
def joinWords : List (List String × String) :=
  [(["join"], "INNER"), (["inner", "join"], "INNER"), (["left", "outer", "join"], "LEFT"),
    (["left", "join"], "LEFT"), (["right", "outer", "join"], "RIGHT"), (["right", "join"], "RIGHT"),
    (["full", "outer", "join"], "FULL"), (["full", "join"], "FULL"), (["cross", "join"], "CROSS"),
    (["natural", "join"], "CROSS")]

/-- The kind of the join at the start of a list and what follows its words. -/
def joinHead? (ls : List Lexeme) : Option (String × List Lexeme) :=
  joinWords.findSome? fun (words, kind) => (afterWords words ls).map fun rest => (kind, rest)

/-- How the query at the start of a list is combined with the one before it. -/
def combination? (ls : List Lexeme) : Option (Combination × List Lexeme) :=
  [("union", Combination.union), ("intersect", .intersect), ("except", .except)].findSome?
    fun (word, how) => (afterWord word ls).map fun rest => (how, rest)

/-- What follows the words that lock the rows of a query. -/
def afterLock (ls : List Lexeme) : List Lexeme :=
  (([["for", "update"], ["for", "share"]].findSome? fun words => afterWords words ls)).getD ls

/-- The functions whose arguments are introduced by words. -/
def partFunctions : List String := ["substring", "trim", "position", "overlay"]

/-- The arguments of a call whose further arguments are introduced by words: what follows the side that is
trimmed, if one is named. -/
def partCall? (name : String) (ls : List Lexeme) : Option (List Lexeme) :=
  if !partFunctions.contains name then none
  else
    let rest := (["both", "leading", "trailing"].findSome? fun side => afterWord side ls).getD ls
    some (skipWord "from" rest)

/-- What follows a word or comma that introduces an argument. -/
def afterPartWord? (ls : List Lexeme) : Option (List Lexeme) :=
  (afterSymbol "," ls).or (["from", "for", "in", "placing"].findSome? fun word => afterWord word ls)

/-- What follows the definitions of windows, if there are any. -/
def afterWindows (fuel : Nat) (ls : List Lexeme) : Option (List Lexeme) :=
  match fuel with
  | 0 => none
  | fuel + 1 => do
    let (_, rest) ← readName ls
    let rest ← afterWord "as" rest
    let rest ← (afterSymbol "(" rest).bind (afterClosing 0)
    match afterSymbol "," rest with
    | some more => afterWindows fuel more
    | none => some rest

/-- What follows the name of a relation that a query fills, if it fills one. -/
def afterTarget (ls : List Lexeme) : Option (List Lexeme) :=
  match afterWord "into" ls with
  | none => some ls
  | some rest =>
    let rest := skipWord "table" (skipWord "unlogged" (skipWord "temp" (skipWord "temporary" rest)))
    (readRelationName rest).map (·.2)

end TabularReport.Sql

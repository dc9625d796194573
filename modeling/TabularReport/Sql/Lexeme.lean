import TabularReport.Text.Property

/-!
# Lexemes of query texts

The words, literals, placeholders and symbols that a query text consists of. White space and comments
separate lexemes; comments between strokes nest. A quote inside a quoted text or name is written twice.
-/

namespace TabularReport.Sql

open Text

/-- An element of a query text. -/
inductive Lexeme where
  | word (text : String)
  | quotedName (name : String)
  | text (value : String)
  /-- The hexadecimal digits of bytes. -/
  | blob (digits : List Char)
  | number (digits : List Char)
  /-- The characters after the dollar sign. -/
  | placeholder (name : String)
  | symbol (text : String)
deriving DecidableEq, Inhabited

/-- A character that a word starts with. -/
def isWordStart (c : Char) : Bool := c == '_' || isAlphabetic c

/-- A character that a word goes on with. -/
def isWordPart (c : Char) : Bool := c == '_' || c == '$' || isDigit c || isAlphabetic c

/-- The characters up to the closing quote and what follows it; nothing when the quote is never closed. -/
def quotedBy (quote : Char) : List Char → Option (List Char × List Char)
  | [] => none
  | [c] => if c = quote then some ([], []) else none
  | c :: d :: rest =>
    if c ≠ quote then (quotedBy quote (d :: rest)).map fun (cs, more) => (c :: cs, more)
    else if d = quote then (quotedBy quote rest).map fun (cs, more) => (quote :: cs, more)
    else some ([], d :: rest)

/-- What follows a comment that is open `depth + 1` times; nothing when it is never closed. -/
def afterComment (depth : Nat) : List Char → Option (List Char)
  | '*' :: '/' :: rest =>
    match depth with
    | 0 => some rest
    | n + 1 => afterComment n rest
  | '/' :: '*' :: rest => afterComment (depth + 1) rest
  | _ :: rest => afterComment depth rest
  | [] => none

/-- What follows the first occurrence of a text, with what comes before it. -/
def splitAtText (mark : List Char) : List Char → Option (List Char × List Char)
  | [] => if mark.isEmpty then some ([], []) else none
  | c :: rest =>
    match dropPrefix? mark (c :: rest) with
    | some more => some ([], more)
    | none => (splitAtText mark rest).map fun (cs, more) => (c :: cs, more)

/-- The exponent of a number and what follows it. -/
def exponentPart : List Char → List Char × List Char
  | e :: sign :: d :: rest =>
    if e ≠ 'e' && e ≠ 'E' then ([], e :: sign :: d :: rest)
    else if isDigit sign then
      (e :: (sign :: d :: rest).takeWhile isDigit, (sign :: d :: rest).dropWhile isDigit)
    else if (sign = '+' || sign = '-') && isDigit d then
      (e :: sign :: (d :: rest).takeWhile isDigit, (d :: rest).dropWhile isDigit)
    else ([], e :: sign :: d :: rest)
  | [e, d] => if (e = 'e' || e = 'E') && isDigit d then ([e, d], []) else ([], [e, d])
  | cs => ([], cs)

/-- The number at the start of a text and what follows it. -/
def numberPart (cs : List Char) : List Char × List Char :=
  let whole := cs.takeWhile isDigit
  match cs.dropWhile isDigit with
  | '.' :: rest =>
    let (exponent, more) := exponentPart (rest.dropWhile isDigit)
    (whole ++ '.' :: rest.takeWhile isDigit ++ exponent, more)
  | rest =>
    let (exponent, more) := exponentPart rest
    (whole ++ exponent, more)

/-- The symbols of more than one character, longer ones first. -/
def longSymbols : List String :=
  ["->>", "#>>", "!~*", "<=>", "||", "::", "<=", ">=", "<>", "!=", "==", "->", "#>", "@>", "<@", "~*", "!~",
    "<<", ">>", "&&", ":=", "=>"]

/-- The characters that are symbols by themselves. -/
def symbolChars : List Char := ",.;()[]*+-/%=<>&|^~#@?:!".toList

/-- The symbol at the start of a text and what follows it. -/
def symbolPart (cs : List Char) : Option (Lexeme × List Char) :=
  match longSymbols.findSome? fun s => (dropPrefix? s.toList cs).map fun rest => (s, rest) with
  | some (s, rest) => some (.symbol s, rest)
  | none =>
    match cs with
    | c :: rest => if symbolChars.contains c then some (.symbol (String.ofList [c]), rest) else none
    | [] => none

/-- The placeholder or the text between dollar signs that follows a dollar sign. -/
def dollarPart (cs : List Char) : Option (Lexeme × List Char) :=
  let tag := cs.takeWhile fun c => isAlphanumeric c || c == '_'
  match cs.dropWhile fun c => isAlphanumeric c || c == '_' with
  | '$' :: rest =>
    (splitAtText ('$' :: tag ++ ['$']) rest).map fun (value, more) => (.text (String.ofList value), more)
  | rest => some (.placeholder (String.ofList tag), rest)

/-- The first lexeme of a text that starts with none of a blank and a comment, and what follows it. -/
def firstLexeme : List Char → Option (Lexeme × List Char)
  | [] => none
  | c :: rest =>
    match c, rest with
    | '$', _ => dollarPart rest
    | '\x27', _ => (quotedBy '\x27' rest).map fun (cs, more) => (.text (String.ofList cs), more)
    | '\x22', _ => (quotedBy '\x22' rest).map fun (cs, more) => (.quotedName (String.ofList cs), more)
    | '.', d :: _ => if isDigit d then let (n, more) := numberPart (c :: rest); some (.number n, more) else
      symbolPart (c :: rest)
    | _, '\x27' :: more =>
      if c = 'x' || c = 'X' then (quotedBy '\x27' more).map fun (cs, after) => (.blob cs, after)
      else if ['e', 'E', 'n', 'N', 'b', 'B'].contains c then
        (quotedBy '\x27' more).map fun (cs, after) => (.text (String.ofList cs), after)
      else if isDigit c then some (.number [c], rest)
      else if isWordStart c then some (.word (String.ofList [c]), rest)
      else symbolPart (c :: rest)
    | _, _ =>
      if isDigit c then let (n, more) := numberPart (c :: rest); some (.number n, more)
      else if isWordStart c then
        some (.word (String.ofList (c :: rest.takeWhile isWordPart)), rest.dropWhile isWordPart)
      else symbolPart (c :: rest)

/-- The lexemes of a text, with a bound on the number of steps. -/
def lexemesWithin : Nat → List Char → Option (List Lexeme)
  | 0, _ => none
  | steps + 1, cs =>
    match trimLeft cs with
    | [] => some []
    | '-' :: '-' :: rest => lexemesWithin steps (rest.dropWhile (· ≠ '\n'))
    | '/' :: '*' :: rest => (afterComment 0 rest).bind (lexemesWithin steps)
    | rest =>
      match firstLexeme rest with
      | none => none
      | some (lexeme, more) => (lexemesWithin steps more).map (lexeme :: ·)

/-- The lexemes of a text; nothing when a quote or comment is left open, or a character has no place in
query texts. -/
def lexemes? (s : String) : Option (List Lexeme) :=
  let cs := s.toList
  lexemesWithin (cs.length + 1) cs

end TabularReport.Sql

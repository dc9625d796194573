import TabularReport.Decimal.NumberStyle
import TabularReport.Json.Basic

/-!
# Writing JSON

`Json.compact` writes a value without blanks, `Json.indented` with two blanks a level. Fields are
written in the order the object holds them.
-/

namespace TabularReport

namespace Number

/-- Write a number. -/
def text : Number → String
  | .int i => toString i
  | .float x => Decimal.NumberStyle.value.write x

end Number

namespace Json

/-- Write one character inside quotes: quote, backslash and control characters are escaped. -/
def escapeChar (c : Char) : List Char :=
  let n := c.toNat
  if n = 0x22 then ['\\', '\x22']
  else if n = 0x5C then ['\\', '\\']
  else if n = 8 then ['\\', 'b']
  else if n = 9 then ['\\', 't']
  else if n = 10 then ['\\', 'n']
  else if n = 12 then ['\\', 'f']
  else if n = 13 then ['\\', 'r']
  else if n < 32 then ['\\', 'u', '0', '0', Text.hexDigit (n / 16), Text.hexDigit (n % 16)]
  else [c]

/-- Write a text in quotes. -/
def quote (s : String) : String :=
  String.ofList ('\x22' :: (s.toList.flatMap escapeChar ++ ['\x22']))

mutual

/-- Write a value without blanks. -/
def compact : Json → String
  | .null => "null"
  | .bool b => if b then "true" else "false"
  | .number n => n.text
  | .string s => quote s
  | .array items => "[" ++ ",".intercalate (compactItems items) ++ "]"
  | .object fields => "\x7b" ++ ",".intercalate (compactFields fields) ++ "\x7d"

/-- Write each item without blanks. -/
def compactItems : List Json → List String
  | [] => []
  | v :: vs => compact v :: compactItems vs

/-- Write each field without blanks. -/
def compactFields : List (String × Json) → List String
  | [] => []
  | (k, v) :: rest => (quote k ++ ":" ++ compact v) :: compactFields rest

end

/-- A line break followed by two blanks a level. -/
def lineBreak (level : Nat) : String :=
  String.ofList ('\n' :: List.replicate (2 * level) ' ')

/-- Enclose written parts, each on its own line one level further in. -/
def block (left right : String) (level : Nat) (parts : List String) : String :=
  if parts.isEmpty then left ++ right
  else
    let inner := lineBreak (level + 1)
    left ++ inner ++ ("," ++ inner).intercalate parts ++ lineBreak level ++ right

mutual

/-- Write a value at a level of indentation. -/
def indentedAt (level : Nat) : Json → String
  | .array items => block "[" "]" level (indentedItems (level + 1) items)
  | .object fields => block "\x7b" "\x7d" level (indentedFields (level + 1) fields)
  | .null => "null"
  | .bool b => if b then "true" else "false"
  | .number n => n.text
  | .string s => quote s

/-- Write each item at a level of indentation. -/
def indentedItems (level : Nat) : List Json → List String
  | [] => []
  | v :: vs => indentedAt level v :: indentedItems level vs

/-- Write each field at a level of indentation. -/
def indentedFields (level : Nat) : List (String × Json) → List String
  | [] => []
  | (k, v) :: rest => (quote k ++ ": " ++ indentedAt level v) :: indentedFields level rest

end

/-- Write a value over several lines, two blanks a level. -/
def indented (v : Json) : String := v.indentedAt 0

end Json

end TabularReport

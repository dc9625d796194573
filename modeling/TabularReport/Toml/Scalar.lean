import TabularReport.Calendar.Day
import TabularReport.Decimal.Reading
import TabularReport.Json.Basic

/-!
# Keys, texts and numbers of TOML

Every reader takes the characters from where it starts and gives what follows. Line ends inside texts count
as `\n`, whether or not a carriage return comes before them.
-/

namespace TabularReport.Toml

open Text

/-- Reads something from the front of a list of characters. -/
abbrev Step (α : Type) := List Char → Option (α × List Char)

/-- A blank within a line. -/
def isSpace (c : Char) : Bool := c == ' ' || c == '\t'

/-- What follows the blanks of a line. -/
def skipSpace (cs : List Char) : List Char := cs.dropWhile isSpace

/-- A character that may stand in texts and comments: all but control characters other than the tab. -/
def isPrintable (c : Char) : Bool := c == '\t' || (32 ≤ c.toNat && c.toNat ≠ 127)

/-- What follows a line end. -/
def afterLineEnd : List Char → Option (List Char)
  | '\n' :: rest => some rest
  | '\r' :: '\n' :: rest => some rest
  | _ => none

/-- What follows a comment that may stand here; nothing when it has a forbidden character. -/
def afterComment (cs : List Char) : Option (List Char) :=
  match cs with
  | '#' :: rest =>
    let body := rest.dropWhile isPrintable
    if body.isEmpty || (afterLineEnd body).isSome then some body else none
  | _ => some cs

/-- What follows blanks, comments and line ends, with a bound on the number of steps. -/
def skipLines : Nat → List Char → Option (List Char)
  | 0, _ => none
  | steps + 1, cs => do
    let rest ← afterComment (skipSpace cs)
    match afterLineEnd rest with
    | some more => skipLines steps more
    | none => return rest

/-- The number that hexadecimal digits stand for. -/
def hexNumber? (cs : List Char) : Option Nat :=
  cs.foldl (fun n c => do return (← n) * 16 + (← hexValue? c)) (some 0)

/-- The character of a code that is a Unicode scalar value. -/
def scalar? (code : Nat) : Option Char :=
  if code < 0xD800 || (0xDFFF < code && code < 0x110000) then some (Char.ofNat code) else none

/-- The character that the characters after a backslash stand for. -/
def readEscape : Step Char
  | 'b' :: rest => some ('\x08', rest)
  | 't' :: rest => some ('\t', rest)
  | 'n' :: rest => some ('\n', rest)
  | 'f' :: rest => some ('\x0c', rest)
  | 'r' :: rest => some ('\r', rest)
  | 'u' :: rest =>
    if rest.length < 4 then none
    else ((hexNumber? (rest.take 4)).bind scalar?).map fun c => (c, rest.drop 4)
  | 'U' :: rest =>
    if rest.length < 8 then none
    else ((hexNumber? (rest.take 8)).bind scalar?).map fun c => (c, rest.drop 8)
  | c :: rest => if c = '\x22' || c = '\\' then some (c, rest) else none
  | [] => none

/-- Read the rest of a text in quotes on one line. -/
def readBasic : Nat → Step (List Char)
  | 0, _ => none
  | _ + 1, [] => none
  | steps + 1, c :: rest =>
    if c = '\x22' then some ([], rest)
    else if c = '\\' then do
      let (d, more) ← readEscape rest
      let (cs, after) ← readBasic steps more
      return (d :: cs, after)
    else if isPrintable c then (readBasic steps rest).map fun (cs, after) => (c :: cs, after)
    else none

/-- Read the rest of a text in apostrophes on one line. -/
def readLiteral (cs : List Char) : Option (List Char × List Char) :=
  let body := cs.takeWhile (· ≠ '\x27')
  match cs.dropWhile (· ≠ '\x27') with
  | _ :: rest => if body.all isPrintable then some (body, rest) else none
  | [] => none

/-- The end of a text in three quotes: up to two quotes before the last three belong to the text. -/
def closing? (quote : Char) (cs : List Char) : Option (List Char × List Char) :=
  let run := cs.takeWhile (· = quote)
  if run.length < 3 then none
  else
    let inside := Nat.min (run.length - 3) 2
    some (List.replicate inside quote, cs.drop (inside + 3))

/-- What follows a backslash that ends a line: the blanks and line ends after it do not count. -/
def afterContinuation (cs : List Char) : Option (List Char) :=
  let rest := skipSpace cs
  if (afterLineEnd rest).isSome then
    some (rest.dropWhile fun c => isSpace c || c == '\n' || c == '\r')
  else none

/-- Read the rest of a text in three quotes. -/
def readLong (quote : Char) (escapes : Bool) : Nat → Step (List Char)
  | 0, _ => none
  | _ + 1, [] => none
  | steps + 1, c :: rest =>
    match closing? quote (c :: rest) with
    | some found => some found
    | none =>
      if c = '\\' && escapes then
        match afterContinuation rest with
        | some more => readLong quote escapes steps more
        | none => do
          let (d, more) ← readEscape rest
          let (cs, after) ← readLong quote escapes steps more
          return (d :: cs, after)
      else
        match afterLineEnd (c :: rest) with
        | some more => (readLong quote escapes steps more).map fun (cs, after) => ('\n' :: cs, after)
        | none =>
          if isPrintable c then (readLong quote escapes steps rest).map fun (cs, after) => (c :: cs, after)
          else none

/-- Read a text in either kind of quotes, on one line or several. -/
def readText (cs : List Char) : Option (String × List Char) :=
  let steps := cs.length + 1
  let made (r : Option (List Char × List Char)) := r.map fun (text, rest) => (String.ofList text, rest)
  let body (rest : List Char) : List Char := (afterLineEnd rest).getD rest
  match cs with
  | '\x22' :: '\x22' :: '\x22' :: rest => made (readLong '\x22' true steps (body rest))
  | '\x27' :: '\x27' :: '\x27' :: rest => made (readLong '\x27' false steps (body rest))
  | '\x22' :: rest => made (readBasic steps rest)
  | '\x27' :: rest => made (readLiteral rest)
  | _ => none

/-- A character of a key without quotes. -/
def isBareKey (c : Char) : Bool := c.isAlphanum || c == '_' || c == '-'

/-- Read one key. -/
def readSimpleKey (cs : List Char) : Option (String × List Char) :=
  match cs with
  | '\x22' :: rest => (readBasic (rest.length + 1) rest).map fun (k, more) => (String.ofList k, more)
  | '\x27' :: rest => (readLiteral rest).map fun (k, more) => (String.ofList k, more)
  | _ =>
    let key := cs.takeWhile isBareKey
    if key.isEmpty then none else some (String.ofList key, cs.dropWhile isBareKey)

/-- Read keys separated by points, with blanks around them. -/
def readKeys : Nat → Step (List String)
  | 0, _ => none
  | steps + 1, cs => do
    let (key, rest) ← readSimpleKey (skipSpace cs)
    match skipSpace rest with
    | '.' :: more =>
      let (keys, after) ← readKeys steps more
      return (key :: keys, after)
    | after => return ([key], after)

/-- Digits without the underscores between them; nothing when an underscore is not between two digits. -/
def plainDigits (isDigit : Char → Bool) : List Char → Option (List Char)
  | [] => none
  | [c] => if isDigit c then some [c] else none
  | c :: '_' :: rest => if isDigit c then (plainDigits isDigit rest).map (c :: ·) else none
  | c :: rest => if isDigit c then (plainDigits isDigit rest).map (c :: ·) else none

/-- The number that digits of a base up to sixteen stand for. -/
def inBase (base : Nat) (ds : List Char) : Nat :=
  ds.foldl (fun n c => n * base + (hexValue? c).getD 0) 0

/-- Whether a number without a point starts with a zero that must not be there. -/
def hasLeadingZero : List Char → Bool
  | '0' :: _ :: _ => true
  | _ => false

/-- The value of an integer with its sign. -/
def signedInteger? (negative : Bool) (n : Nat) : Option Json :=
  if negative then if n ≤ Nat.pow 2 63 then some (.number (.int (-(n : Int)))) else none
  else if n < Nat.pow 2 64 then some (.number (.int n)) else none

/-- The value of a decimal number without its sign. -/
def readDecimal (negative : Bool) (cs : List Char) : Option Json :=
  let signed (x : Float) : Json := .number (.float (if negative then -x else x))
  let isInteger := cs.all fun c => isDigit c || c == '_'
  if isInteger then do
    let ds ← plainDigits isDigit cs
    if hasLeadingZero ds then none else signedInteger? negative (digitsValue ds)
  else
    let whole := cs.takeWhile fun c => isDigit c || c == '_'
    let rest := cs.dropWhile fun c => isDigit c || c == '_'
    let mantissa (more : List Char) : Option (List Char × List Char) :=
      match more with
      | '.' :: tail =>
        (plainDigits isDigit (tail.takeWhile fun c => isDigit c || c == '_')).map fun ds =>
          (ds, tail.dropWhile fun c => isDigit c || c == '_')
      | _ => some ([], more)
    let exponent (more : List Char) : Option Int :=
      match more with
      | [] => some 0
      | e :: tail =>
        if e = 'e' || e = 'E' then
          let (down, ds) := Decimal.sign tail
          (plainDigits isDigit ds).map fun ds =>
            if down then -(digitsValue ds : Int) else (digitsValue ds : Int)
        else none
    do
      let ds ← plainDigits isDigit whole
      let (fraction, more) ← mantissa rest
      let e ← exponent more
      if hasLeadingZero ds then none
      else some (signed (Decimal.Literal.value ⟨ds, fraction, e⟩))

/-- The value of a number in a base other than ten, after its mark. -/
def readBased (base : Nat) (isDigit : Char → Bool) (ds : List Char) : Option Json :=
  (plainDigits isDigit ds).bind fun ds => signedInteger? false (inBase base ds)

/-- Whether the characters are as many digits as wanted, of a number within bounds. -/
def isField (width low high : Nat) (cs : List Char) : Bool :=
  cs.length = width && cs.all isDigit && low ≤ digitsValue cs && digitsValue cs ≤ high

/-- Whether a text is a date. -/
def isDate (cs : List Char) : Bool :=
  let year := cs.take 4
  let month := (cs.drop 5).take 2
  cs.length = 10 && isField 4 0 9999 year && cs[4]? == some '-' && isField 2 1 12 month &&
    cs[7]? == some '-' &&
    isField 2 1 (Calendar.daysInMonth (digitsValue year) (digitsValue month)) (cs.drop 8)

/-- Whether a text is a time of day, followed by an offset or not. -/
def isTime (offset : Bool) (cs : List Char) : Bool :=
  let clock := cs.take 8
  let rest := match cs.drop 8 with
    | '.' :: more => if (more.takeWhile isDigit).isEmpty then ['?'] else more.dropWhile isDigit
    | more => more
  let zone := match rest with
    | [] => true
    | ['Z'] | ['z'] => offset
    | s :: more =>
      offset && (s == '+' || s == '-') && more.length = 5 && isField 2 0 23 (more.take 2) &&
        more[2]? == some ':' && isField 2 0 59 (more.drop 3)
  isField 2 0 23 (clock.take 2) && clock[2]? == some ':' && isField 2 0 59 ((clock.drop 3).take 2) &&
    clock[5]? == some ':' && isField 2 0 60 (clock.drop 6) && zone

/-- Whether a text is a date, a time of day, or both. -/
def isDateTime (cs : List Char) : Bool :=
  isDate cs || isTime false cs ||
    isDate (cs.take 10) && (cs[10]? == some 'T' || cs[10]? == some 't' || cs[10]? == some ' ') &&
      isTime true (cs.drop 11)

/-- A character of a number, a truth value or a date. -/
def isPlain (c : Char) : Bool := c.isAlphanum || c == '_' || c == '-' || c == '+' || c == '.' || c == ':'

/-- The characters of a number, a truth value or a date, whose time may follow after a blank. -/
def plainPart (cs : List Char) : List Char × List Char :=
  let first := cs.takeWhile isPlain
  match cs.dropWhile isPlain with
  | ' ' :: d :: rest =>
    if isDate first && isDigit d then
      (first ++ ' ' :: (d :: rest).takeWhile isPlain, (d :: rest).dropWhile isPlain)
    else (first, ' ' :: d :: rest)
  | rest => (first, rest)

/-- The value of a number, a truth value or a date. A date is no value that settings use and reads as null. -/
def plainValue (cs : List Char) : Option Json :=
  match cs with
  | ['t', 'r', 'u', 'e'] => some (.bool true)
  | ['f', 'a', 'l', 's', 'e'] => some (.bool false)
  | '0' :: 'x' :: ds => readBased 16 (fun c => (hexValue? c).isSome) ds
  | '0' :: 'o' :: ds => readBased 8 (fun c => isDigit c && digitValue c < 8) ds
  | '0' :: 'b' :: ds => readBased 2 (fun c => c == '0' || c == '1') ds
  | _ =>
    if isDateTime cs then some .null
    else
      let (negative, rest) := Decimal.sign cs
      if rest = ['i', 'n', 'f'] || rest = ['n', 'a', 'n'] then some (.number (.float (0 / 0)))
      else readDecimal negative rest

end TabularReport.Toml

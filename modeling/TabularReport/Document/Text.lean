import TabularReport.Decimal.Reading
import TabularReport.Document.Source

/-!
# Reading JSON text

`Source.ofText` follows a text as far as it is well formed and leaves the fault where it stands. A
number literal that fits 64 bits is an integer, every other one a float; the literal `-0` is a float.
-/

namespace TabularReport.Source

open Text

/-- Blanks between the parts of a JSON text. -/
def isSpace (c : Char) : Bool :=
  let n := c.toNat
  n == 32 || n == 9 || n == 10 || n == 13

/-- Drop the blanks at the front. -/
def skipSpace (cs : List Char) : List Char := cs.dropWhile isSpace

/-- The four hexadecimal digits of an escape, and what follows them. -/
def hexEscape : List Char → Except Malformed (Nat × List Char)
  | a :: b :: c :: d :: rest =>
    match hexValue? a, hexValue? b, hexValue? c, hexValue? d with
    | some w, some x, some y, some z => .ok (((w * 16 + x) * 16 + y) * 16 + z, rest)
    | _, _, _, _ => .error .invalidEscape
  | _ => .error .endInString

/-- What a step inside a string yields: the character read, or a fault that only a reader of the text
notices; and the rest. -/
structure StringStep where
  char : Except Malformed Char
  rest : List Char

/-- The character of a `\u` escape, whose mark has been read. A character outside the basic plane is
written as two escapes. -/
def unicodeEscape (cs : List Char) : Except Malformed StringStep :=
  match hexEscape cs with
  | .error e => .error e
  | .ok (n, rest) =>
    if 0xDC00 ≤ n && n ≤ 0xDFFF then .ok ⟨.error .loneSurrogate, rest⟩
    else if n < 0xD800 || 0xDFFF < n then .ok ⟨.ok (Char.ofNat n), rest⟩
    else
      match rest with
      | [] => .error .endInString
      | ['\\'] => .error .endInString
      | '\\' :: 'u' :: more =>
        match hexEscape more with
        | .error e => .error e
        | .ok (low, after) =>
          if 0xDC00 ≤ low && low ≤ 0xDFFF then
            .ok ⟨.ok (Char.ofNat ((n - 0xD800) * 1024 + (low - 0xDC00) + 0x10000)), after⟩
          else .ok ⟨.error .loneSurrogate, after⟩
      | _ => .ok ⟨.error .endOfHexEscape, rest⟩

/-- The character of an escape, whose backslash has been read. -/
def escape : List Char → Except Malformed StringStep
  | [] => .error .endInString
  | c :: rest =>
    let n := c.toNat
    if n = 0x22 || n = 0x5C || n = 0x2F then .ok ⟨.ok c, rest⟩
    else if c = 'b' then .ok ⟨.ok (Char.ofNat 8), rest⟩
    else if c = 'f' then .ok ⟨.ok (Char.ofNat 12), rest⟩
    else if c = 'n' then .ok ⟨.ok '\n', rest⟩
    else if c = 'r' then .ok ⟨.ok '\r', rest⟩
    else if c = 't' then .ok ⟨.ok '\t', rest⟩
    else if c = 'u' then unicodeEscape rest
    else .error .invalidEscape

/-- Read the characters of a string up to its closing quote, collecting them in reverse. The first fault
that only a reader of the text notices stands in for the text. -/
def stringBody (fuel : Nat) (cs acc : List Char) (fault : Option Malformed) :
    Except Malformed (Except Malformed String × List Char) :=
  match fuel, cs with
  | 0, _ => .error .endInString
  | _, [] => .error .endInString
  | fuel + 1, c :: rest =>
    let n := c.toNat
    if n = 0x22 then
      .ok (match fault with | some e => .error e | none => .ok (String.ofList acc.reverse), rest)
    else if n = 0x5C then
      match escape rest with
      | .error e => .error e
      | .ok ⟨.ok d, after⟩ => stringBody fuel after (d :: acc) fault
      | .ok ⟨.error e, after⟩ => stringBody fuel after acc (fault.or (some e))
    else if n < 32 then .error .controlCharacter
    else stringBody fuel rest (c :: acc) fault

/-- Read a string whose opening quote has been read. -/
def stringLiteral (cs : List Char) : Except Malformed (Except Malformed String × List Char) :=
  stringBody (cs.length + 1) cs [] none

/-- Read the digits that must follow a point or an exponent mark. -/
def someDigits (cs : List Char) : Except Malformed (List Char × List Char) :=
  let ds := cs.takeWhile isDigit
  let rest := cs.dropWhile isDigit
  if !ds.isEmpty then .ok (ds, rest)
  else if rest.isEmpty then .error .endInNumber
  else .error .invalidNumber

/-- The digits of a number before its point: a zero alone, or a run that starts with another digit. -/
def wholeDigits : List Char → Except Malformed (List Char × List Char)
  | [] => .error .endInNumber
  | c :: rest =>
    if c = '0' then
      match rest with
      | d :: _ => if isDigit d then .error .invalidNumber else .ok (['0'], rest)
      | [] => .ok (['0'], [])
    else if isDigit c then .ok ((c :: rest).takeWhile isDigit, (c :: rest).dropWhile isDigit)
    else .error .invalidNumber

/-- The number of a literal's parts. Without a point and an exponent it is an integer as long as it fits
64 bits. -/
def numberOf (negative : Bool) (whole fraction : List Char) (exponent : Int) (isWhole : Bool) : Source :=
  let signed (x : Float) : Number := .float (if negative then -x else x)
  let (m, skipped) := Decimal.leadingDigits whole 0
  let n := digitsValue whole
  if isWhole && skipped = 0 && !negative then .number (.int m)
  else if isWhole && negative && 0 < n && n ≤ Nat.pow 2 63 then .number (.int (-(n : Int)))
  else
    let (m, dropped) := Decimal.leadingDigits fraction m
    match Decimal.scaled? m (skipped + dropped - fraction.length + exponent) with
    | some x => .number (signed x)
    | none => .unreadable .numberOutOfRange

/-- Read the exponent of a number, whose mark has been read. -/
def exponentDigits (cs : List Char) : Except Malformed (Int × List Char) :=
  let (negative, rest) := Decimal.sign cs
  match someDigits rest with
  | .error e => .error e
  | .ok (ds, after) =>
    let n : Int := digitsValue ds
    .ok (if negative then -n else n, after)

/-- Read a number from its first character on. -/
def numberLiteral (cs : List Char) : Except Malformed (Source × List Char) :=
  let (negative, unsigned) := match cs with
    | '-' :: rest => (true, rest)
    | _ => (false, cs)
  match wholeDigits unsigned with
  | .error e => .error e
  | .ok (whole, rest) =>
    let fraction : Except Malformed (Option (List Char) × List Char) := match rest with
      | '.' :: more => (someDigits more).map fun (ds, after) => (some ds, after)
      | _ => .ok (none, rest)
    match fraction with
    | .error e => .error e
    | .ok (fraction?, rest) =>
      let finish (isWhole : Bool) (exponent : Int) := numberOf negative whole (fraction?.getD []) exponent isWhole
      match rest with
      | c :: more =>
        if c = 'e' || c = 'E' then
          match exponentDigits more with
          | .error e => .error e
          | .ok (exponent, after) => .ok (finish false exponent, after)
        else .ok (finish fraction?.isNone 0, rest)
      | [] => .ok (finish fraction?.isNone 0, [])

/-- Read the rest of a word that stands for a value. -/
def word : List Char → List Char → Source → Source × List Char
  | [], rest, s => (s, rest)
  | _ :: _, [], _ => (.cut .endInValue, [])
  | p :: ps, c :: rest, s => if p = c then word ps rest s else (.cut .expectedWord, [])

/-- The most levels of containers that a text may nest. -/
def maxDepth : Nat := 127

/-- A container at a level of nesting, the outermost being level one. -/
def atLevel (level : Nat) (s : Source) : Source :=
  if level ≤ maxDepth then s else .nestedTooDeep s

mutual

/-- Read a value after blanks; `level` counts the containers around it. -/
def parseValue (fuel level : Nat) (cs : List Char) : Source × List Char :=
  match fuel with
  | 0 => (.cut .endInValue, [])
  | fuel + 1 =>
    match skipSpace cs with
    | [] => (.cut .endInValue, [])
    | c :: rest =>
      if c = 'n' then word ['u', 'l', 'l'] rest .null
      else if c = 't' then word ['r', 'u', 'e'] rest (.bool true)
      else if c = 'f' then word ['a', 'l', 's', 'e'] rest (.bool false)
      else if c = '[' then
        let (items, stop, after) := parseItems fuel (level + 1) true rest
        (atLevel (level + 1) (.array items stop), after)
      else if c.toNat = 0x7B then
        let (entries, stop, after) := parseEntries fuel (level + 1) true rest
        (atLevel (level + 1) (.object entries stop), after)
      else if c.toNat = 0x22 then
        match stringLiteral rest with
        | .error e => (.cut e, [])
        | .ok (.ok s, after) => (.string s, after)
        | .ok (.error e, after) => (.unreadable e, after)
      else if c = '-' || isDigit c then
        match numberLiteral (c :: rest) with
        | .error e => (.cut e, [])
        | .ok (s, after) => (s, after)
      else (.cut .expectedValue, [])

/-- Read the items of an array up to its end; `first` when none has been read yet. -/
def parseItems (fuel level : Nat) (first : Bool) (cs : List Char) :
    List Source × Option Malformed × List Char :=
  match fuel with
  | 0 => ([], some .endInList, [])
  | fuel + 1 =>
    match skipSpace cs with
    | [] => ([], some .endInList, [])
    | c :: rest =>
      if c = ']' then ([], none, rest)
      else if first then
        let (item, after) := parseValue fuel level (c :: rest)
        let (items, stop, last) := parseItems fuel level false after
        (item :: items, stop, last)
      else if c = ',' then
        match skipSpace rest with
        | [] => ([], some .endInValue, [])
        | d :: more =>
          if d = ']' then ([], some .trailingComma, [])
          else
            let (item, after) := parseValue fuel level (d :: more)
            let (items, stop, last) := parseItems fuel level false after
            (item :: items, stop, last)
      else ([], some .expectedListEnd, [])

/-- Read the entries of an object up to its end; `first` when none has been read yet. -/
def parseEntries (fuel level : Nat) (first : Bool) (cs : List Char) :
    List (String × Source) × Option Malformed × List Char :=
  match fuel with
  | 0 => ([], some .endInObject, [])
  | fuel + 1 =>
    match skipSpace cs with
    | [] => ([], some .endInObject, [])
    | c :: rest =>
      if c.toNat = 0x7D then ([], none, rest)
      else if first then
        if c.toNat = 0x22 then parseEntry fuel level rest else ([], some .keyNotString, [])
      else if c = ',' then
        match skipSpace rest with
        | [] => ([], some .endInValue, [])
        | d :: more =>
          if d.toNat = 0x22 then parseEntry fuel level more
          else if d.toNat = 0x7D then ([], some .trailingComma, [])
          else ([], some .keyNotString, [])
      else ([], some .expectedObjectEnd, [])

/-- Read an entry whose key's opening quote has been read, and all entries after it. -/
def parseEntry (fuel level : Nat) (cs : List Char) :
    List (String × Source) × Option Malformed × List Char :=
  match fuel with
  | 0 => ([], some .endInObject, [])
  | fuel + 1 =>
    match stringLiteral cs with
    | .error e => ([], some e, [])
    | .ok (.error e, _) => ([], some e, [])
    | .ok (.ok key, rest) =>
      match skipSpace rest with
      | [] => ([], some .endInObject, [])
      | c :: more =>
        if c = ':' then
          let (s, after) := parseValue fuel level more
          let (entries, stop, last) := parseEntries fuel level false after
          ((key, s) :: entries, stop, last)
        else ([], some .expectedColon, [])

end

/-- The source of a text, and whether anything but blanks follows its value. -/
def ofText (text : String) : Source × Bool :=
  let cs := text.toList
  let (s, rest) := parseValue (3 * cs.length + 3) 0 cs
  (s, !(skipSpace rest).isEmpty)

end TabularReport.Source

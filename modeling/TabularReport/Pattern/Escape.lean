import TabularReport.Pattern.Basic
import TabularReport.Pattern.Flags
import TabularReport.Text.Property

/-!
# Escapes of patterns

After a backslash stand characters by themselves, by name or by number, classes by letter or by property,
and anchors.
-/

namespace TabularReport.Pattern

open Text

/-- Characters with a meaning of their own in patterns. -/
def isMeta (c : Char) : Bool :=
  "\\.+*?()|[]\x7b\x7d^$#&-~".toList.contains c

/-- Characters that stand for themselves after a backslash. -/
def isEscapable (c : Char) : Bool :=
  isMeta c || (c.toNat < 128 && !c.isAlphanum && c != '<' && c != '>')

/-- What an escape stands for. -/
inductive Escaped where
  | literal (c : Char)
  | klass (admits : Char → Bool)
  | anchor (a : Anchor)

/-- The complement of a set if asked for. Without the flag for all characters no complement is a set of
characters. -/
def Flags.complement (f : Flags) (negated : Bool) (set : Char → Bool) : Except Fault (Char → Bool) :=
  if !negated then .ok set
  else if f.unicode then .ok fun c => !set c
  else .error .beyondAscii

/-- The class of a letter: digits, blanks or word characters, or their complement for a capital. -/
def letterClass (f : Flags) (c : Char) : Except Fault (Char → Bool) :=
  let pick (p : Char → Bool) (d : Char) := p d && (f.unicode || d.toNat < 128)
  let negated := c.isUpper
  if c = 'd' || c = 'D' then f.complement negated (pick isDecimal)
  else if c = 's' || c = 'S' then f.complement negated (pick isBlank)
  else if c = 'w' || c = 'W' then f.complement negated (pick isWordChar)
  else .error .escape

/-- A character by its number, unless it is no character. -/
def charOf? (n : Nat) : Option Char := if n.isValidChar then some (Char.ofNat n) else none

/-- The number of hexadecimal digits. -/
def hexNumber? (ds : List Char) : Option Nat :=
  if ds.isEmpty then none
  else ds.foldl (fun n? c => n?.bind fun n => (hexValue? c).map (n * 16 + ·)) (some 0)

/-- Read a character by its number: in braces, or by a fixed number of digits. -/
def hexChar (digits : Nat) (cs : List Char) : Step Char :=
  let (ds, rest) := match cs with
    | c :: more =>
      if c.toNat = 0x7B then
        (more.takeWhile (·.toNat != 0x7D), (more.dropWhile (·.toNat != 0x7D)).tail?)
      else if cs.length < digits then (cs, none)
      else (cs.take digits, some (cs.drop digits))
    | [] => ([], none)
  match (hexNumber? ds).bind charOf?, rest with
  | some c, some after => .ok (c, after)
  | _, _ => .error .escape

/-- Read a character of two hexadecimal digits or in braces. Without the flag for all characters, two
digits are a byte. -/
def byteChar (f : Flags) (cs : List Char) : Step Char :=
  let isByte := match cs with
    | c :: _ => c.toNat != 0x7B
    | [] => true
  match hexChar 2 cs with
  | .ok (c, rest) => if isByte && !f.unicode && c.toNat ≥ 128 then .error .beyondAscii else .ok (c, rest)
  | .error e => .error e

/-- Split a text at the first place where a mark stands. -/
def splitAt? (mark : List Char) : List Char → Option (List Char × List Char)
  | [] => none
  | c :: rest =>
    match dropPrefix? mark (c :: rest) with
    | some after => some ([], after)
    | none => (splitAt? mark rest).map fun (before, after) => (c :: before, after)

/-- The characters that a property in braces names, and whether they are those that lack it. -/
def namedProperty? (name : List Char) : Option ((Char → Bool) × Bool) :=
  match splitAt? ['!', '='] name with
  | some (kind, value) => (propertyValue? kind value).map fun set => (set, true)
  | none =>
    match (splitAt? [':'] name).or (splitAt? ['='] name) with
    | some (kind, value) => (propertyValue? kind value).map fun set => (set, false)
    | none => (property? name).map fun set => (set, false)

/-- Read the name of a property: one letter, or a name in braces. -/
def propertyClass (f : Flags) (negated : Bool) (cs : List Char) : Step (Char → Bool) :=
  match cs with
  | [] => .error .escape
  | c :: more =>
    let (name, rest) :=
      if c.toNat = 0x7B then
        (more.takeWhile (·.toNat != 0x7D), (more.dropWhile (·.toNat != 0x7D)).tail?)
      else ([c], some more)
    match rest, namedProperty? name with
    | none, _ => .error .escape
    | _, none => .error .property
    | some after, some (set, lacking) =>
      if !f.unicode then .error .beyondAscii
      else
        (f.complement (negated != lacking) (f.admits set)).map fun admits => (admits, after)

/-- The word edges that are named in braces. -/
def namedEdge? (cs : List Char) : Option (WordEdge × List Char) :=
  let edge? (name : String) (edge : WordEdge) : Option (WordEdge × List Char) :=
    (dropPrefix? name.toList cs).map fun rest => (edge, rest)
  (edge? "\x7bstart\x7d" .start).or <|
    (edge? "\x7bend\x7d" .finish).or <|
      (edge? "\x7bstart-half\x7d" .startHalf).or (edge? "\x7bend-half\x7d" .finishHalf)

/-- Read an escape whose backslash has been read. -/
def escaped (f : Flags) : List Char → Step Escaped
  | [] => .error .escape
  | c :: rest =>
    let literal (n : Nat) : Step Escaped := .ok (.literal (Char.ofNat n), rest)
    let edge (e : WordEdge) (after : List Char) : Step Escaped :=
      .ok (.anchor (.word e (!f.unicode)), after)
    if isDigit c then .error .backreference
    else if c = 'x' then (byteChar f rest).map fun (d, after) => (.literal d, after)
    else if c = 'u' then (hexChar 4 rest).map fun (d, after) => (.literal d, after)
    else if c = 'U' then (hexChar 8 rest).map fun (d, after) => (.literal d, after)
    else if c = 'p' || c = 'P' then
      (propertyClass f (c = 'P') rest).map fun (admits, after) => (.klass admits, after)
    else if isEscapable c then .ok (.literal c, rest)
    else if c = 'a' then literal 7
    else if c = 'f' then literal 12
    else if c = 't' then literal 9
    else if c = 'n' then literal 10
    else if c = 'r' then literal 13
    else if c = 'v' then literal 11
    else if c = 'A' then .ok (.anchor .textStart, rest)
    else if c = 'z' then .ok (.anchor .textEnd, rest)
    else if c = 'B' then edge .inside rest
    else if c = '<' then edge .start rest
    else if c = '>' then edge .finish rest
    else if c = 'b' then
      match namedEdge? rest with
      | some (e, after) => edge e after
      | none => edge .boundary rest
    else (letterClass f c).map fun admits => (.klass admits, rest)

end TabularReport.Pattern

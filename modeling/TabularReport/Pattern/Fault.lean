/-!
# Why a text is no pattern

Reading a pattern stops at the first fault. The message of a fault names its kind.
-/

namespace TabularReport.Pattern

/-- Why a text is no pattern. -/
inductive Fault where
  | groupUnclosed
  | groupUnopened
  | groupName
  | flag
  | lookAround
  | repetitionMissing
  | repetitionCount
  | classUnclosed
  | classRange
  | escape
  | backreference
  | property
  /-- Without the flag for all characters, a class may hold characters of ASCII alone. -/
  | beyondAscii
  /-- The pattern takes too much room when its repetitions are written out. -/
  | tooLarge
deriving DecidableEq, Inhabited

/-- What a fault is. -/
def Fault.description : Fault → String
  | .groupUnclosed => "unclosed group"
  | .groupUnopened => "unopened group"
  | .groupName => "invalid capture group name"
  | .flag => "unrecognized or repeated flag"
  | .lookAround => "look-around, including look-ahead and look-behind, is not supported"
  | .repetitionMissing => "repetition operator missing expression"
  | .repetitionCount => "invalid repetition count"
  | .classUnclosed => "unclosed character class"
  | .classRange => "invalid character class range"
  | .escape => "unrecognized escape sequence"
  | .backreference => "backreferences are not supported"
  | .property => "Unicode property not found"
  | .beyondAscii => "pattern can match invalid UTF-8"
  | .tooLarge => "Compiled regex exceeds size limit of 10485760 bytes."

/-- The text of a fault. All faults but that of size are faults of the written form. -/
def Fault.message : Fault → String
  | .tooLarge => Fault.tooLarge.description
  | e => "regex parse error: " ++ e.description

/-- A step of reading: what was read and what follows, or a fault. -/
abbrev Step (α : Type) := Except Fault (α × List Char)

end TabularReport.Pattern

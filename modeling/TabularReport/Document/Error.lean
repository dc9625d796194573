import TabularReport.Document.Source
import TabularReport.Json.Printer
import TabularReport.Text.Quoted

/-!
# Errors of reading a document

A reading error says what was found and what was expected. The wording is in `ReadError.message`.
-/

namespace TabularReport

/-- Why a text is no date and time. -/
inductive DateError where
  | outOfRange
  | impossible
  | invalid
  | tooShort
  | tooLong
deriving DecidableEq, Inhabited

/-- The text of a date error. -/
def DateError.message : DateError → String
  | .outOfRange => "input is out of range"
  | .impossible => "no possible date and time matching input"
  | .invalid => "input contains invalid characters"
  | .tooShort => "premature end of input"
  | .tooLong => "trailing input"

/-- Why a document cannot be read. -/
inductive ReadError where
  | missingField (field : String)
  | duplicateField (field : String)
  | unknownField (field : String) (expected : List String)
  | unknownVariant (variant : String) (expected : List String)
  | invalidType (found expected : String)
  | invalidValue (found expected : String)
  | invalidLength (length : Nat) (expected : String)
  | noVariant (type : String)
  | date (cause : DateError)
  | malformed (cause : Malformed)
deriving DecidableEq, Inhabited

namespace ReadError

/-- A name in the quotes that messages put around names. -/
def ticked (name : String) : String := "`" ++ name ++ "`"

/-- The alternatives of a message: one, two, or a list. -/
def oneOf : List String → String
  | [a] => ticked a
  | [a, b] => ticked a ++ " or " ++ ticked b
  | names => "one of " ++ ", ".intercalate (names.map ticked)

/-- The text of a reading error. -/
def message : ReadError → String
  | .missingField field => "missing field " ++ ticked field
  | .duplicateField field => "duplicate field " ++ ticked field
  | .unknownField field expected => "unknown field " ++ ticked field ++ ", expected " ++ oneOf expected
  | .unknownVariant variant expected =>
    "unknown variant " ++ ticked variant ++ ", expected " ++ oneOf expected
  | .invalidType found expected => "invalid type: " ++ found ++ ", expected " ++ expected
  | .invalidValue found expected => "invalid value: " ++ found ++ ", expected " ++ expected
  | .invalidLength length expected => "invalid length " ++ toString length ++ ", expected " ++ expected
  | .noVariant type => "data did not match any variant of untagged enum " ++ type
  | .date cause => cause.message
  | .malformed cause => cause.message

end ReadError

/-- How a message describes what a reader has met. A place where the text goes wrong is reported as such
before it is described. -/
def Source.describe : Source → String
  | .null => "null"
  | .bool b => "boolean " ++ ReadError.ticked (if b then "true" else "false")
  | .number (.int i) => "integer " ++ ReadError.ticked (toString i)
  | .number (.float x) => "floating point " ++ ReadError.ticked (Number.text (.float x))
  | .string s => "string " ++ Text.quoted s
  | .array _ _ => "sequence"
  | .object _ _ | .unreadable _ | .nestedTooDeep _ | .cut _ => "map"

end TabularReport

import TabularReport.Settings.Document
import TabularReport.Text.Alphanumeric
import TabularReport.Toml.Table

/-!
# Settings from their text

Settings are a TOML text. In the path of the store `$name` and braces after a dollar sign stand for
environment variables; values are put in as they are and not looked at again.
-/

namespace TabularReport

/-- Read settings from their text. -/
def Settings.ofText (text : String) : Except SettingsError Settings :=
  match Toml.value? text with
  | none => .error .malformed
  | some v =>
    match Settings.reader.ofJson v with
    | .error _ => .error .malformed
    | .ok settings => settings.check

/-- A piece of a text with variables. -/
inductive TextPiece where
  | char (c : Char)
  | variable (name : String)
deriving DecidableEq

/-- A character of a variable's name outside braces. -/
def isVariableChar (c : Char) : Bool := c == '_' || Text.isAlphanumeric c

/-- The pieces of a text. A name in braces goes up to the closing one, or to the end without one; a dollar
sign before anything else stands for itself. -/
def textPieces : List Char → List TextPiece
  | [] => []
  | c :: rest =>
    if c ≠ '$' then .char c :: textPieces rest
    else if rest.head? = some '\x7b' then
      .variable (String.ofList (rest.tail.takeWhile (· ≠ '\x7d'))) ::
        textPieces (rest.tail.dropWhile (· ≠ '\x7d')).tail
    else if (rest.takeWhile isVariableChar).isEmpty then .char '$' :: textPieces rest
    else .variable (String.ofList (rest.takeWhile isVariableChar)) ::
      textPieces (rest.dropWhile isVariableChar)
termination_by cs => cs.length
decreasing_by
  · simp
  · have h₁ := (List.dropWhile_sublist (l := rest.tail) fun x : Char => decide (x ≠ '\x7d')).length_le
    have h₂ := List.length_tail (l := rest.tail.dropWhile fun x : Char => decide (x ≠ '\x7d'))
    have h₃ := List.length_tail (l := rest)
    simp only [List.length_cons]
    omega
  · simp
  · have h := (List.dropWhile_sublist (l := rest) isVariableChar).length_le
    simp only [List.length_cons]
    omega

/-- The text of a piece. -/
def TextPiece.expand (env : String → Option String) : TextPiece → Except SettingsError (List Char)
  | .char c => .ok [c]
  | .variable name =>
    match env name with
    | some value => .ok value.toList
    | none => .error (.missingVariable name)

/-- Put in the values of the variables of a text. The first variable without a value is the error. -/
def expandVariables (env : String → Option String) (s : String) : Except SettingsError String := do
  let parts ← (textPieces s.toList).mapM (·.expand env)
  return String.ofList parts.flatten

end TabularReport

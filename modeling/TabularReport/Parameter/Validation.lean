import TabularReport.Decimal.NumberStyle
import TabularReport.Json.Printer
import TabularReport.Json.Reading
import TabularReport.Parameter.Basic
import TabularReport.Pattern.Reading
import TabularReport.Validation.Error

/-!
# Validation of parameter values

Defaults stand in for values that are missing or null. Values are then checked against the declarations in
the order of their positions, and the first violation is the error.
-/

namespace TabularReport

namespace ParameterDefinition

/-- Put in the default of a parameter that has no value. -/
def fillDefault (p : ParameterDefinition) (values : Fields) : Fields :=
  if Json.absent (Fields.get? values p.name) then
    match p.defaultValue with
    | some v => Fields.insert values p.name v
    | none => values
  else values

/-- Put in the defaults of all parameters that have no value. -/
def fillDefaults (definitions : List ParameterDefinition) (values : Fields) : Fields :=
  definitions.foldl (fun vs p => p.fillDefault vs) values

/-- Whether a value is among the options; without options every value is. -/
def admits (p : ParameterDefinition) (v : Json) : Bool :=
  p.options.isEmpty || p.options.any fun o => o.value.same v

/-- The message about a value that is not among the options. -/
def notAnOption (v : Json) : String := v.compact ++ " is not one of the allowed options"

end ParameterDefinition

namespace ValueRules

/-- What is wrong with a number. -/
def numberProblem? (r : ValueRules) (x : Float) : Option String :=
  let below := match r.min with
    | some least =>
      if x < least then some ("must be at least " ++ Decimal.NumberStyle.plain.write least) else none
    | none => none
  below.or <|
    match r.max with
    | some most =>
      if x > most then some ("must be at most " ++ Decimal.NumberStyle.plain.write most) else none
    | none => none

/-- What is wrong with the length of a text. -/
def lengthProblem? (r : ValueRules) (length : Nat) : Option String :=
  let short := match r.minLength with
    | some least =>
      if length < least then some ("must be at least " ++ toString least ++ " characters") else none
    | none => none
  short.or <|
    match r.maxLength with
    | some most =>
      if most < length then some ("must be at most " ++ toString most ++ " characters") else none
    | none => none

/-- What is wrong with a text under the pattern; a pattern that cannot be read is wrong for all texts. -/
def patternProblem? (r : ValueRules) (s : String) : Option String :=
  match r.pattern with
  | none => none
  | some source =>
    match Pattern.ofText source with
    | .error e => some ("invalid pattern: " ++ e.message)
    | .ok p => if p.occursIn s then none else some ("does not match pattern " ++ source)

/-- What is wrong with a text. -/
def textProblem? (r : ValueRules) (s : String) : Option String :=
  (r.lengthProblem? s.length).or (r.patternProblem? s)

end ValueRules

/-- What is wrong with a bound of a range of dates. -/
def dateBoundProblem? (range : Fields) (bound : String) : Option String :=
  match (Fields.get? range bound).bind Json.present? with
  | some v => if v.instant?.isSome then none else some ("'" ++ bound ++ "' is not a valid date")
  | none => some ("missing '" ++ bound ++ "'")

namespace ParameterDefinition

/-- What is wrong with a value that is present. -/
def problem? (p : ParameterDefinition) (v : Json) : Option String :=
  match p.kind with
  | .number =>
    match v with
    | .number n => p.rules.numberProblem? n.toFloat
    | _ => some "expected a number"
  | .text =>
    match v with
    | .string s => p.rules.textProblem? s
    | _ => some "expected a string"
  | .date => if v.instant?.isSome then none else some "not a valid date"
  | .dateRange =>
    match v with
    | .object range => (dateBoundProblem? range "from").or (dateBoundProblem? range "to")
    | _ => some "expected an object with 'from' and 'to'"
  | .boolean =>
    match v with
    | .bool _ => none
    | _ => some "expected a boolean"
  | .select => if p.admits v then none else some (notAnOption v)
  | .multiSelect =>
    match v with
    | .array items => (items.find? fun item => !p.admits item).map notAnOption
    | _ => some "expected an array"
  | .entityRef =>
    match v with
    | .string s => if (Text.trim s.toList).isEmpty then some "expected an entity identifier" else none
    | .number (.int _) => none
    | _ => some "expected an entity identifier"

/-- Check a value that is present. -/
def checkValue (p : ParameterDefinition) (v : Json) : Except ValidationError Unit :=
  match p.problem? v with
  | some problem => .error (.invalidParameter p.name problem)
  | none => .ok ()

/-- How the supplied values violate a declaration, if they do. -/
def violation? (p : ParameterDefinition) (values : Fields) : Option ValidationError :=
  match (Fields.get? values p.name).bind Json.present? with
  | some v => (p.problem? v).map (.invalidParameter p.name)
  | none => if p.required then some (.requiredParameterMissing p.name) else none

/-- Check the supplied values against all declarations. -/
def check (definitions : List ParameterDefinition) (values : Fields) : Except ValidationError Unit :=
  match (inOrder definitions).findSome? (·.violation? values) with
  | some e => .error e
  | none => .ok ()

end ParameterDefinition

end TabularReport

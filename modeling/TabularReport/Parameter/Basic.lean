import TabularReport.Json.Basic

/-!
# Parameters of a report

A report declares the values that a run may supply: their kind, constraints and defaults.
-/

namespace TabularReport

/-- The kind of value that a parameter takes. -/
inductive ParameterKind where
  | text
  | number
  | date
  | dateRange
  | boolean
  | select
  | multiSelect
  | entityRef
deriving DecidableEq, Inhabited

/-- One choice of a parameter with options. -/
structure SelectOption where
  value : Json
  label : Option String := none
deriving Inhabited

/-- Constraints on a value. Lengths count characters. -/
structure ValueRules where
  min : Option Float := none
  max : Option Float := none
  minLength : Option Nat := none
  maxLength : Option Nat := none
  pattern : Option String := none
deriving Inhabited

/-- The declaration of a parameter. Parameters are presented and checked in the order of their positions. -/
structure ParameterDefinition where
  name : String
  displayName : String := ""
  kind : ParameterKind
  defaultValue : Option Json := none
  required : Bool := false
  rules : ValueRules := {}
  options : List SelectOption := []
  entity : Option String := none
  position : Nat := 0
deriving Inhabited

namespace ParameterDefinition

/-- A parameter that is shown under its own name. -/
def named (name : String) (kind : ParameterKind) : ParameterDefinition :=
  { name, displayName := name, kind }

/-- Allow only the given values, without labels. -/
def withOptions (p : ParameterDefinition) (values : List Json) : ParameterDefinition :=
  { p with options := values.map fun value => { value } }

/-- Definitions in the order of their positions, those of one position in the order given. -/
def inOrder (definitions : List ParameterDefinition) : List ParameterDefinition :=
  definitions.mergeSort fun a b => a.position ≤ b.position

end ParameterDefinition

end TabularReport

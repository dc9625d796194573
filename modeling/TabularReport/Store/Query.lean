import TabularReport.Filter.Fragment
import TabularReport.Store.Error

/-!
# Running statements on the store

The store leaves the reading and the running of statements to an engine, which numbers the parameters of a
statement. The values of a request are bound one by one: the `k`-th value goes to the parameter with the name
`$k`, at whatever number the engine has it. A statement runs when all values have found a parameter and no
parameter is left over.
-/

namespace TabularReport

/-- A statement with the values of its placeholders in order. -/
structure BoundStatement where
  sql : String
  params : List Json
deriving Inhabited

/-- What the store needs of the engine that runs its statements, for a state `D` of the engine and statements
`S` that it has prepared. -/
structure SqlEngine (D S : Type) where
  prepare : D → String → Except StorageError S
  /-- The names of the parameters of a statement in the order of their numbers. A parameter without a name has
  a question mark for it. -/
  parameters : S → List String
  /-- Run a statement on the values of its parameters in the order of their numbers. -/
  run : D → S → List Json → Except StorageError (List Fields) × D

namespace SqlEngine

/-- Bind values to the placeholders from an index on, where `bound` are the values of all parameters so
far. -/
def bindFrom (names : List String) (index : Nat) :
    List Json → List Json → Except StorageError (List Json)
  | [], bound => .ok bound
  | v :: rest, bound =>
    match names.idxOf? (placeholder index) with
    | none => .error (.query (.noPlaceholder index))
    | some i => bindFrom names (index + 1) rest (bound.set i v)

/-- The values of the parameters of a statement; a parameter is null until it is bound. -/
def bindings (names : List String) (params : List Json) : Except StorageError (List Json) := do
  let bound ← bindFrom names 1 params (List.replicate names.length .null)
  if names.length = params.length then .ok bound
  else .error (.query (.parameterCount names.length params.length))

variable {D S : Type}

/-- Run a statement with its values, and what becomes of the engine. -/
def query (e : SqlEngine D S) (d : D) (s : BoundStatement) :
    Except StorageError (List Fields) × D :=
  match e.prepare d s.sql with
  | .error problem => (.error problem, d)
  | .ok st =>
    match bindings (e.parameters st) s.params with
    | .error problem => (.error problem, d)
    | .ok bound => e.run d st bound

end SqlEngine

end TabularReport

import TabularReport.Chart.Basic
import TabularReport.Document.Reader
import TabularReport.Store.Error
import TabularReport.Validation.Error

/-!
# Errors of runs and renderings

What a caller sees when a report cannot be run or a component cannot be rendered: one of five kinds with a
message.
-/

namespace TabularReport

/-- What a look-up did not find. -/
inductive Entity where
  | template
  | savedQuery
  | component
deriving DecidableEq, Inhabited

/-- The name of an entity in messages. -/
def Entity.label : Entity → String
  | .template => "Report template"
  | .savedQuery => "Saved query"
  | .component => "Visualization component"

/-- What someone may not do. -/
inductive Denial where
  | run (user report : String)
  | view (user component : String)
  | rawQuery (component : String)
deriving DecidableEq, Inhabited

/-- The text of a denial. -/
def Denial.message : Denial → String
  | .run user report => "user '" ++ user ++ "' may not run report '" ++ report ++ "'"
  | .view user component => "user '" ++ user ++ "' may not view component '" ++ component ++ "'"
  | .rawQuery component => "raw query on component '" ++ component ++ "' requires an administrator owner"

/-- Why a component cannot be drawn. -/
inductive RenderProblem where
  | mapping (cause : MappingError)
  | rawQueriesDisabled
  | notARow (index : Nat)
  | api (endpoint : String)
deriving DecidableEq, Inhabited

/-- The text of a problem with a component. -/
def RenderProblem.message : RenderProblem → String
  | .mapping cause => cause.message
  | .rawQueriesDisabled => "raw query data sources are disabled"
  | .notARow index => "static data entry " ++ toString index ++ " is not an object"
  | .api endpoint => "api data sources are not implemented (endpoint '" ++ endpoint ++ "')"

/-- Why a report was not run or a component not rendered. -/
inductive ReportError where
  | validation (cause : ValidationError)
  | notFound (entity : Entity) (id : String)
  | authorization (denial : Denial)
  | execution (cause : StorageError)
  | visualization (problem : RenderProblem)
deriving DecidableEq, Inhabited

/-- The kind of an error, the same whatever its wording. -/
inductive ErrorKind where
  | validation
  | notFound
  | authorization
  | execution
  | visualization
deriving DecidableEq, Inhabited

/-- The name of a kind. -/
def ErrorKind.spelling : ErrorKind → String
  | .validation => "validation"
  | .notFound => "not_found"
  | .authorization => "authorization"
  | .execution => "execution"
  | .visualization => "visualization"

/-- The kinds of errors. -/
def ErrorKind.all : List ErrorKind := [.validation, .notFound, .authorization, .execution, .visualization]

/-- Read a kind. -/
def ErrorKind.reader : Reader ErrorKind := Reader.oneOf (ErrorKind.all.map fun k => (k.spelling, k))

namespace ReportError

/-- The kind of the error. -/
def kind : ReportError → ErrorKind
  | .validation _ => .validation
  | .notFound .. => .notFound
  | .authorization _ => .authorization
  | .execution _ => .execution
  | .visualization _ => .visualization

/-- The text of the error. -/
def message : ReportError → String
  | .validation cause => "Validation error: " ++ cause.message
  | .notFound entity id => entity.label ++ " not found: " ++ id
  | .authorization denial => "Not authorized: " ++ denial.message
  | .execution cause => "Execution failed: " ++ cause.message
  | .visualization problem => "Visualization error: " ++ problem.message

end ReportError

/-- An error as it is sent to a caller. -/
structure ErrorBody where
  kind : ErrorKind
  message : String
deriving DecidableEq, Inhabited

/-- What is sent of an error. -/
def ReportError.body (e : ReportError) : ErrorBody := ⟨e.kind, e.message⟩

/-- Read an error body. -/
def ErrorBody.reader : Reader ErrorBody :=
  Reader.record "ErrorBody" <|
    ErrorBody.mk <$> .required "kind" ErrorKind.reader
      <*> .required "message" Reader.string

/-- Write an error body. -/
def ErrorBody.toJson (b : ErrorBody) : Json :=
  .object [("kind", .string b.kind.spelling), ("message", .string b.message)]

end TabularReport

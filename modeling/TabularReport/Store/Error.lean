import TabularReport.Document.Error
import TabularReport.Files.Fault

/-!
# Errors of the store
-/

namespace TabularReport

/-- Why the values given for a statement are refused, or what else storage reports about a statement. -/
inductive QueryProblem where
  | noPlaceholder (index : Nat)
  | parameterCount (expected supplied : Nat)
  | reported (text : String)
deriving DecidableEq, Inhabited

/-- The text of a problem with a statement. -/
def QueryProblem.message : QueryProblem → String
  | .noPlaceholder index => "statement has no placeholder $" ++ toString index
  | .parameterCount expected supplied =>
    "statement expects " ++ toString expected ++ " parameters, " ++ toString supplied ++ " supplied"
  | .reported text => text

/-- Why the database cannot be opened, or refuses a change or a statement. -/
inductive DatabaseProblem where
  | repeatedRecord
  | statement (problem : String)
  | notAStore
  | cannotOpen (path : String)
deriving DecidableEq, Inhabited

/-- The text of a problem of the database. -/
def DatabaseProblem.message : DatabaseProblem → String
  | .repeatedRecord => "UNIQUE constraint failed: execution_records.id"
  | .statement problem => problem
  | .notAStore => "file is not a database"
  | .cannotOpen path => "unable to open database file: " ++ path

/-- Why the store fails. -/
inductive StorageError where
  | database (cause : DatabaseProblem)
  | document (cause : ReadError)
  | file (fault : FileFault)
  | query (problem : QueryProblem)
deriving DecidableEq, Inhabited

/-- The text of a store error. -/
def StorageError.message : StorageError → String
  | .database cause => "SQLite error: " ++ cause.message
  | .document cause => "JSON serialization error: " ++ cause.message
  | .file fault => "IO error: " ++ fault.message
  | .query problem => "Query error: " ++ problem.message

end TabularReport

import TabularReport.Bundle
import TabularReport.Run.Error
import TabularReport.Settings.Basic

/-!
# Errors of commands

Why a command fails, and what it then says.
-/

namespace TabularReport

/-- Why a command fails. -/
inductive CommandError where
  | settings (cause : SettingsError)
  | file (path : String) (fault : FileFault)
  | document (path : String) (cause : ReadError)
  | parameters (cause : ReadError)
  | compilation (cause : ValidationError)
  | template (problems : List ValidationError)
  | parameter (cause : ValidationError)
  | bundle (cause : BundleError)
  | store (path : String) (cause : StorageError)
  | report (cause : ReportError)
  | history (cause : StorageError)
deriving DecidableEq, Inhabited

/-- The text of a command's error. Errors of runs and renderings are told as documents. -/
def CommandError.message : CommandError → String
  | .settings cause => "Configuration error: " ++ cause.message
  | .file path fault => "Error reading file '" ++ path ++ "': " ++ fault.message
  | .document path cause => "Error parsing '" ++ path ++ "': " ++ cause.message
  | .parameters cause => "--params must be a JSON object: " ++ cause.message
  | .compilation cause => "Compilation error: " ++ cause.message
  | .template problems =>
    "Validation errors:\n" ++ "\n".intercalate (problems.map fun e => "  " ++ e.message)
  | .parameter cause => "Parameter error: " ++ cause.message
  | .bundle cause => cause.message
  | .store path cause => "Error opening database '" ++ path ++ "': " ++ cause.message
  | .report cause => cause.body.toJson.compact
  | .history cause => "Error reading history: " ++ cause.message

end TabularReport

import TabularReport.Files.Fault
import TabularReport.Statement.Assembly

/-!
# Settings

Where the store lies, the limits on runs, and who may do what.
-/

namespace TabularReport

/-- Limits on the execution of reports. -/
structure EngineSettings where
  /-- The largest page; it can only lower `largestPage`. -/
  maxPageSize : Nat := largestPage
  defaultPageSize : Nat := 50
  /-- Keep a record of every run. -/
  recordHistory : Bool := true
deriving DecidableEq, Inhabited

/-- The limits on pages that follow from the settings. -/
def EngineSettings.pageLimits (s : EngineSettings) : PageLimits :=
  ⟨Nat.min s.maxPageSize largestPage, s.defaultPageSize⟩

/-- Whether components may run query texts of their own. -/
structure RawQuerySettings where
  enabled : Bool := true
  /-- Only the components of administrators may. -/
  adminOnly : Bool := true
deriving DecidableEq, Inhabited

/-- All settings. -/
structure Settings where
  /-- The path of the store, in which environment variables stand for their values. -/
  databasePath : String := "reportkit.db"
  engine : EngineSettings := {}
  rawQuery : RawQuerySettings := {}
  /-- The ids of the administrators. -/
  admins : List String := []
  /-- Which messages are logged. -/
  logFilter : String := "info"
deriving DecidableEq, Inhabited

/-- Why settings are refused. -/
inductive SettingsError where
  | notFound (path : String)
  | unreadable (fault : FileFault)
  | malformed
  | missingVariable (name : String)
  | zeroMaxPageSize
  | zeroDefaultPageSize
deriving DecidableEq, Inhabited

/-- The text of a settings error. -/
def SettingsError.message : SettingsError → String
  | .notFound path => "Config file not found: " ++ path
  | .unreadable fault => "Failed to read config file: " ++ fault.message
  | .malformed => "Failed to parse config file: "
  | .missingVariable name => "Missing environment variable: " ++ name
  | .zeroMaxPageSize => "Invalid configuration: engine.max_page_size must be at least 1"
  | .zeroDefaultPageSize => "Invalid configuration: engine.default_page_size must be at least 1"

/-- Accept settings whose page sizes are positive. -/
def Settings.check (s : Settings) : Except SettingsError Settings :=
  if s.engine.maxPageSize = 0 then .error .zeroMaxPageSize
  else if s.engine.defaultPageSize = 0 then .error .zeroDefaultPageSize
  else .ok s

end TabularReport

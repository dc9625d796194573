import TabularReport.Chart.Document
import TabularReport.CommandLine.Error
import TabularReport.CommandLine.Invocation
import TabularReport.CommandLine.Workspace
import TabularReport.History.Listing
import TabularReport.Run.Render
import TabularReport.Settings.Text
import TabularReport.Statement.Compilation
import TabularReport.Store.Tables

/-!
# Carrying out commands

A command finds its settings, then reads its file or opens its store, and ends in a text or an error. What
it makes of what it has read is decided here without a workspace; `Invocation.carryOut` puts the reading in
front.
-/

namespace TabularReport

/-- Accept a template without problems. -/
def ReportTemplate.accept (t : ReportTemplate) : Except CommandError Unit :=
  if t.problems.isEmpty then .ok () else .error (.template t.problems)

/-- Accept parameter values for a template: defaults fill in for parameters without a value. -/
def ReportTemplate.acceptValues (t : ReportTemplate) (values : Fields) : Except CommandError Unit :=
  (ParameterDefinition.check t.parameters (ParameterDefinition.fillDefaults t.parameters values)).mapError
    .parameter

/-- Read parameter values from their text; without a text there are none. -/
def parameterValues (text : Option String) : Except CommandError Fields :=
  match text with
  | none => .ok []
  | some text => (Reader.fields.ofText text).mapError .parameters

/-- The settings file of a user: it lies in the directory for settings, which is given by its full path or is
a directory of the home. -/
def userSettingsPath? (configHome home : Option String) : Option String :=
  let directory :=
    match configHome.filter fun path => path.toList.head? = some '/' with
    | some directory => some directory
    | none => (home.filter (· ≠ "")).map (· ++ "/.config")
  directory.map (· ++ "/reportkit/config.toml")

/-- The names of the variables of a text. -/
def variableNames (s : String) : List String :=
  (textPieces s.toList).filterMap fun
    | .variable name => some name
    | .char _ => none

/-- The engine of a command. -/
def Settings.host (s : Settings) (stamp : RunStamp) : Engine where
  admins := s.admins
  settings := s.engine
  rawQuery := s.rawQuery
  parse := Sql.parser
  storage statement := ⟨fun c => c.query statement⟩
  runId := stamp.id
  now := stamp.now
  elapsedMs := stamp.elapsedMs

section

variable {m : Type → Type} [Monad m] (w : Workspace m)

/-- The file to read the settings from: the one that is given or that the environment names, else that of the
working directory or of the user, if there is one. -/
def settingsPath? (given : Option String) : m (Option String) := do
  match given.or (← w.environment "REPORTKIT_CONFIG") with
  | some path => return some path
  | none =>
    let user := userSettingsPath? (← w.environment "XDG_CONFIG_HOME") (← w.environment "HOME")
    ("reportkit.toml" :: user.toList).findM? w.isPresent

/-- Read settings from a file, which must be there; without a file they are the usual ones. -/
def readSettings (path : Option String) : ExceptT CommandError m Settings := do
  match path with
  | none => return {}
  | some path =>
    if ← w.isPresent path then
      let text ← ExceptT.mk (Except.mapError (.settings ∘ .unreadable) <$> w.read path)
      MonadExcept.ofExcept ((Settings.ofText text).mapError .settings)
    else throw (.settings (.notFound path))

/-- Read a document from a file. -/
def readDocument {α : Type} (r : Reader α) (path : String) : ExceptT CommandError m α := do
  let text ← ExceptT.mk (Except.mapError (.file path) <$> w.read path)
  MonadExcept.ofExcept ((r.ofText text).mapError (.document path))

/-- The path of the store: the one that is given, or the one of the settings. -/
def storePath (given : Option String) (s : Settings) : ExceptT CommandError m String := do
  match given with
  | some path => return path
  | none =>
    let names := variableNames s.databasePath
    let values ← names.mapM fun name => do return (name, ← w.environment name)
    let value (name : String) : Option String := (values.find? (·.1 == name)).bind (·.2)
    MonadExcept.ofExcept ((expandVariables value s.databasePath).mapError .settings)

/-- Open a store. -/
def openStore (path : String) : ExceptT CommandError m Catalog :=
  ExceptT.mk (Except.mapError (.store path) <$> w.openStore path)

/-- Keep what a run or rendering has left in the store, and take its result. -/
def settle {α : Type} (path : String) (o : Outcome α) : ExceptT CommandError m α := do
  w.keepStore path o.catalog
  MonadExcept.ofExcept (o.result.mapError .report)

/-- Carry out a command under settings. -/
def Invocation.perform (i : Invocation) (s : Settings) : ExceptT CommandError m String := do
  match i.command with
  | .compile file params page =>
    let t ← readDocument w ReportTemplate.reader file
    let values ← MonadExcept.ofExcept (parameterValues params)
    let q ← MonadExcept.ofExcept ((t.compile values page s.engine.pageLimits).mapError .compilation)
    return q.listing
  | .validate file params =>
    let t ← readDocument w ReportTemplate.reader file
    MonadExcept.ofExcept t.accept
    if params.isSome then
      let values ← MonadExcept.ofExcept (parameterValues params)
      MonadExcept.ofExcept (t.acceptValues values)
    return "OK: " ++ file ++ " is valid"
  | .importBundle file =>
    let path ← storePath w i.db s
    let c ← openStore w path
    let b ← readDocument w (Bundle.reader (← w.stamp).now) file
    w.keepStore path (← MonadExcept.ofExcept ((b.bringInto c).mapError .bundle))
    return b.summary
  | .run report user params savedQuery page =>
    let path ← storePath w i.db s
    let c ← openStore w path
    let parameters ← MonadExcept.ofExcept (parameterValues params)
    let request : RunRequest :=
      { reportId := report, requesterId := user, parameters, savedQueryId := savedQuery, pagination := page }
    let response ← settle w path (request.execute (s.host (← w.stamp)) c)
    return response.toJson.indented
  | .render component user params =>
    let path ← storePath w i.db s
    let c ← openStore w path
    let parameters ← MonadExcept.ofExcept (parameterValues params)
    let chart ← settle w path (renderStored (s.host (← w.stamp)) c component parameters user)
    return chart.toJson.indented
  | .history report limit =>
    let c ← openStore w (← storePath w i.db s)
    let records ← MonadExcept.ofExcept ((c.history report limit).mapError .history)
    return RunRecord.listing report records

/-- Carry out a command. -/
def Invocation.carryOut (i : Invocation) : ExceptT CommandError m String := do
  let path ← (settingsPath? w i.config : m (Option String))
  i.perform w (← readSettings w path)

end

end TabularReport

import TabularReport.Access
import TabularReport.Parameter.Validation
import TabularReport.Run.Error
import TabularReport.Run.Request
import TabularReport.Run.Rows
import TabularReport.Settings.Basic
import TabularReport.Sql.Statement
import TabularReport.Store.Catalog
import TabularReport.Store.Query

/-!
# Running a report

A run looks up the template, checks access, looks up the saved query, fills in and checks the parameters, and
assembles the statement; an error up to there ends the run without a trace. Then storage is asked once, and
a record of the run is offered to the catalog, whether storage answered or failed.
-/

namespace TabularReport

/-- What storage does when it is asked: it answers with rows or an error, and where it keeps the catalog it
may change it. -/
structure StorageAction where
  run : Catalog → Except StorageError (List Fields) × Catalog

namespace StorageAction

/-- Answer with rows and leave the catalog as it is. -/
def ok (rows : List Fields) : StorageAction := ⟨fun c => (.ok rows, c)⟩

/-- Fail and leave the catalog as it is. -/
def error (cause : StorageError) : StorageAction := ⟨fun c => (.error cause, c)⟩

end StorageAction

/-- What runs and renderings are carried out with. -/
structure Engine where
  admins : List String := []
  settings : EngineSettings := {}
  rawQuery : RawQuerySettings := {}
  /-- The parser that query texts are checked with. -/
  parse : Sql.Parser := Sql.parser
  /-- What storage does for a statement. -/
  storage : BoundStatement → StorageAction
  /-- How a record is added to the catalog. -/
  append : Catalog → RunRecord → Except StorageError Catalog := Catalog.append
  /-- The id, time and duration that a record of this run is given. -/
  runId : String := ""
  now : Instant := ⟨0, 0⟩
  elapsedMs : Nat := 0

/-- What came of a run: its result, the statements sent to storage, the records offered to the catalog, and
the catalog after it. -/
structure Outcome (α : Type) where
  result : Except ReportError α
  queries : List BoundStatement
  offered : List RunRecord
  catalog : Catalog

/-- A run that ended before storage was asked. -/
def Outcome.stopped {α : Type} (c : Catalog) (e : ReportError) : Outcome α := ⟨.error e, [], [], c⟩

/-- The filters of a request and of a saved query: where there are both, both must hold. -/
def mergeFilters (request saved : Option FilterGroup) : Option FilterGroup :=
  match request, saved with
  | some r, some s => some ⟨.and, [r.node, s.node]⟩
  | some r, none => some r
  | none, s => s

/-- A run whose statement is ready: the template, the statement, and the record of the run so far. -/
structure PreparedRun where
  template : ReportTemplate
  statement : AssembledQuery
  record : RunRecord

namespace RunRequest

/-- Look up the template of a request. -/
def template (r : RunRequest) (e : Engine) (c : Catalog) : Except ReportError ReportTemplate := do
  let found ← (c.template? r.reportId).mapError .execution
  let some t := found | throw (.notFound .template r.reportId)
  if canAccess e.admins t.ownerId t.isPublic r.requesterId then return t
  else throw (.authorization (.run r.requesterId t.id))

/-- Look up the saved query of a request, which must belong to the template. -/
def savedQuery (r : RunRequest) (e : Engine) (c : Catalog) (t : ReportTemplate) :
    Except ReportError (Option SavedQuery) :=
  match r.savedQueryId with
  | none => .ok none
  | some id => do
    let found ← (c.savedQuery? e.now id).mapError .execution
    let some q := found | throw (.notFound .savedQuery id)
    if q.templateId = t.id then return some q
    else throw (.validation (.savedQueryMismatch q.id t.id))

/-- The parameter values of a run: those of the request over those of the saved query, and defaults for what
neither gives. -/
def effectiveParameters (r : RunRequest) (c : Catalog) (t : ReportTemplate) (saved : Option SavedQuery) :
    Except ReportError Fields := do
  let definitions ← (c.parameters t.id).mapError .execution
  let given := Fields.overlay ((saved.map (·.parameters)).getD []) r.parameters
  let values := ParameterDefinition.fillDefaults definitions given
  (ParameterDefinition.check definitions values).mapError .validation
  return values

/-- Make the statement of a request ready. -/
def prepare (r : RunRequest) (e : Engine) (c : Catalog) : Except ReportError PreparedRun := do
  let t ← r.template e c
  let saved ← r.savedQuery e c t
  let parameters ← r.effectiveParameters c t saved
  let filters := mergeFilters r.filters (saved.bind (·.filters))
  let request : QueryRequest := ⟨parameters, filters, r.sorting, r.pagination⟩
  let statement ← (t.assemble request e.settings.pageLimits).mapError .validation
  let record : RunRecord :=
    { id := e.runId, templateId := t.id, savedQueryId := saved.map (·.id), parameters, filters
      sorting := r.sorting, executedAt := e.now, executionTimeMs := e.elapsedMs, rowCount := 0
      status := .running, executedBy := r.requesterId }
  return ⟨t, statement, record⟩

end RunRequest

/-- Offer a record to the catalog. A record that cannot be added is lost. -/
def Engine.offer (e : Engine) (c : Catalog) (r : RunRecord) : Catalog :=
  match e.append c r with
  | .ok c' => c'
  | .error _ => c

/-- End a run of which storage has been asked: its record is offered to the catalog when runs are recorded. -/
def Engine.record (e : Engine) (c : Catalog) (statement : BoundStatement) (r : RunRecord)
    (result : Except ReportError RunResponse) : Outcome RunResponse :=
  if e.settings.recordHistory then ⟨result, [statement], [r], e.offer c r⟩
  else ⟨result, [statement], [], c⟩

/-- Ask storage, and shape and record what it answers. -/
def PreparedRun.finish (p : PreparedRun) (e : Engine) (c : Catalog) : Outcome RunResponse :=
  let statement : BoundStatement := ⟨p.statement.sql, p.statement.params⟩
  match (e.storage statement).run c with
  | (.error cause, left) =>
    let record := { p.record with status := .failed, errorMessage := some cause.message }
    e.record left statement record (.error (.execution cause))
  | (.ok rows, left) =>
    let shaped := p.template.shapeRows rows
    let record := { p.record with status := .success, rowCount := shaped.rows.length }
    let total := p.statement.page.map fun _ => shaped.totalCount.getD 0
    e.record left statement record (.ok ⟨record, shaped.rows, p.template.columnMetadata, total⟩)

/-- Run a report. -/
def RunRequest.execute (r : RunRequest) (e : Engine) (c : Catalog) : Outcome RunResponse :=
  match r.prepare e c with
  | .error cause => .stopped c cause
  | .ok prepared => prepared.finish e c

end TabularReport

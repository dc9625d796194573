import TabularReport.Proofs.Document.Agreement
import TabularReport.Proofs.Run.Rendering

/-!
# Responses do not depend on records

Keeping the record of a run is the last thing that happens to it, and what becomes of the record is
not asked for. A run therefore answers the same whether its record is added, is refused, or is not
kept at all, and so does a rendering.
-/

namespace TabularReport

/-- How the runs of an engine are recorded: whether they are, how a record is added to the catalog,
and what it is stamped with. -/
structure Recording where
  kept : Bool
  append : Catalog → RunRecord → Except StorageError Catalog
  runId : String
  now : Instant
  elapsedMs : Nat

/-- An engine that records its runs in a given way and is otherwise the same. -/
def Engine.recording (e : Engine) (h : Recording) : Engine :=
  { e with
    settings := { e.settings with recordHistory := h.kept }
    append := h.append
    runId := h.runId
    now := h.now
    elapsedMs := h.elapsedMs }

/-- Two outcomes with the same result, as far as `f` tells, after the same statements. -/
structure Outcome.SameUpTo {α β : Type} (f : α → β) (o o' : Outcome α) : Prop where
  result : o.result.map f = o'.result.map f
  queries : o.queries = o'.queries

/-- Two outcomes with the same result after the same statements. -/
def Outcome.Same {α : Type} (o o' : Outcome α) : Prop := o.SameUpTo id o'

private theorem Outcome.Same.result_eq {α : Type} {o o' : Outcome α} (h : o.Same o') :
    o.result = o'.result := by
  simpa only [Except.map_id, id] using h.result

/-- A record without its stamp: the generated id and the times of the run. -/
def RunRecord.unstamped (r : RunRecord) : RunRecord :=
  { r with id := "", executedAt := ⟨0, 0⟩, executionTimeMs := 0 }

/-- A response whose record is without its stamp. -/
def RunResponse.unstamped (r : RunResponse) : RunResponse :=
  { r with execution := r.execution.unstamped }

/-- Two saved queries that differ at most in the time of their creation. -/
def SavedQuery.SameButDate (q q' : SavedQuery) : Prop :=
  ∃ created, q' = { q with createdAt := created }

private theorem SavedQuery.agree_reader (now now' : Instant) :
    (SavedQuery.reader now).Agree SavedQuery.SameButDate (SavedQuery.reader now') := by
  refine RecordReader.Agree.reader ?_ _ _
  refine RecordReader.Agree.seq (R := fun _ _ ↦ True) ?_
    (RecordReader.agree_defaulted "createdAt" Reader.instant now now')
  iterate 5 refine RecordReader.Agree.seq_same ?_ _
  refine RecordReader.Agree.map ?_ _
  intro id templateId name parameters filters ownerId created created' _
  exact ⟨created', rfl⟩

private theorem Catalog.sameOutcome_find {α : Type} {R : α → α → Prop} {r r' : Reader α}
    (h : r.Agree R r') (c : Catalog) (collection : Collection) (id : String) :
    SameOutcome (Option.Rel R) (c.find collection r id) (c.find collection r' id) := by
  unfold find
  split
  · exact .ok .none
  · next text _ =>
    have ht := h.ofText text
    generalize r.ofText text = u, r'.ofText text = v at ht ⊢
    cases ht with
    | error e => exact .error _
    | ok hR => exact .ok (.some hR)

/-- A run that is ready, its record without its stamp. -/
def PreparedRun.unstamped (p : PreparedRun) : PreparedRun :=
  { p with record := p.record.unstamped }

namespace RunRequest

variable (r : RunRequest) (e : Engine) (h h' : Recording) (c : Catalog)

private theorem sameOutcome_savedQuery (t : ReportTemplate) :
    SameOutcome (Option.Rel SavedQuery.SameButDate) (r.savedQuery (e.recording h) c t)
      (r.savedQuery (e.recording h') c t) := by
  unfold savedQuery
  cases r.savedQueryId with
  | none => exact .ok .none
  | some id =>
    have hfind := c.sameOutcome_find (SavedQuery.agree_reader h.now h'.now) .savedQueries id
    refine (hfind.mapError ReportError.execution).bind fun found found' hf ↦ ?_
    cases hf with
    | none => exact .error _
    | @some q q' hq =>
      obtain ⟨created, rfl⟩ := hq
      dsimp only
      split
      · exact .ok (.some ⟨created, rfl⟩)
      · exact .error _

private theorem sameOutcome_prepare :
    SameOutcome (fun p p' ↦ p.unstamped = p'.unstamped) (r.prepare (e.recording h) c)
      (r.prepare (e.recording h') c) := by
  unfold prepare
  refine .bind_left (x := r.template e c) fun t ↦ ?_
  refine (r.sameOutcome_savedQuery e h h' c t).bind fun saved saved' hsaved ↦ ?_
  cases hsaved with
  | none => exact .bind_left fun parameters ↦ .bind_left fun statement ↦ .ok rfl
  | some hq =>
    -- Nothing that follows looks at the date, the one thing in which the saved queries differ.
    obtain ⟨created, rfl⟩ := hq
    exact .bind_left fun parameters ↦ .bind_left fun statement ↦ .ok rfl

end RunRequest

/-- Whether storage answers every statement alike for two catalogs. -/
def Engine.AnswersAlike (e : Engine) (c c' : Catalog) : Prop :=
  ∀ s, ((e.storage s).run c').1 = ((e.storage s).run c).1

private theorem sameUpTo_record (e e' : Engine) (c c' : Catalog) (s : BoundStatement)
    (r r' : RunRecord) {result result' : Except ReportError RunResponse}
    (h : result.map RunResponse.unstamped = result'.map RunResponse.unstamped) :
    (e.record c s r result).SameUpTo RunResponse.unstamped (e'.record c' s r' result') := by
  refine ⟨?_, ?_⟩
  · rw [Engine.result_record, Engine.result_record, h]
  · rw [Engine.queries_record, Engine.queries_record]

private theorem PreparedRun.sameUpTo_finish {p p' : PreparedRun} (hp : p.unstamped = p'.unstamped)
    {e : Engine} (h h' : Recording) {c c' : Catalog} (ha : e.AnswersAlike c c') :
    (p.finish (e.recording h) c).SameUpTo RunResponse.unstamped
      (p'.finish (e.recording h') c') := by
  have ht : p.template = p'.template := congrArg (·.template) hp
  have hs : p.statement = p'.statement := congrArg (·.statement) hp
  have hr : p.record.unstamped = p'.record.unstamped := congrArg (·.record) hp
  have hstorage (h : Recording) : (e.recording h).storage = e.storage := rfl
  have hanswers := ha ⟨p.statement.sql, p.statement.params⟩
  unfold finish
  rw [← ht, ← hs, hstorage, hstorage]
  dsimp only
  generalize (e.storage ⟨p.statement.sql, p.statement.params⟩).run c = x,
    (e.storage ⟨p.statement.sql, p.statement.params⟩).run c' = x' at hanswers ⊢
  obtain ⟨answer, left⟩ := x
  obtain ⟨answer', left'⟩ := x'
  obtain rfl : answer' = answer := hanswers
  cases answer' with
  | error cause => exact sameUpTo_record _ _ _ _ _ _ _ rfl
  | ok rows =>
    have hrecord : RunRecord.unstamped
        { p.record with status := .success, rowCount := (p.template.shapeRows rows).rows.length } =
        RunRecord.unstamped { p'.record with
          status := .success, rowCount := (p.template.shapeRows rows).rows.length } :=
      congrArg (fun record : RunRecord ↦ { record with
        status := .success, rowCount := (p.template.shapeRows rows).rows.length }) hr
    refine sameUpTo_record _ _ _ _ _ _ _ ?_
    simp only [Except.map, RunResponse.unstamped]
    rw [hrecord]

private theorem RunRequest.prepare_withRecords (r : RunRequest) (e : Engine) (c : Catalog)
    (records : List StoredRecord) : r.prepare e { c with records } = r.prepare e c :=
  rfl

section

variable {e : Engine} (h h' : Recording) {c : Catalog} {records : List StoredRecord}
  (ha : e.AnswersAlike c { c with records })
include ha

private theorem RunRequest.sameUpTo_execute (r : RunRequest) :
    (r.execute (e.recording h) c).SameUpTo RunResponse.unstamped
      (r.execute (e.recording h') { c with records }) := by
  have hp := r.sameOutcome_prepare e h h' c
  unfold execute
  rw [r.prepare_withRecords (e.recording h') c records]
  generalize r.prepare (e.recording h) c = u, r.prepare (e.recording h') c = v at hp ⊢
  cases hp with
  | error cause => exact ⟨rfl, rfl⟩
  | ok hp => exact PreparedRun.sameUpTo_finish hp h h' ha

end

private theorem Outcome.SameUpTo.map_data {o o' : Outcome RunResponse}
    (h : o.SameUpTo RunResponse.unstamped o') :
    o.result.map (·.data) = o'.result.map (·.data) := by
  have hdata (x : Except ReportError RunResponse) :
      x.map (·.data) = (x.map RunResponse.unstamped).map (·.data) := by
    cases x <;> rfl
  rw [hdata, hdata o'.result, h.result]

namespace Component

variable (v : Component) {e : Engine} (h h' : Recording) {c : Catalog} {records : List StoredRecord}
  (parameters : Fields) (user : String) (ha : e.AnswersAlike c { c with records })
include ha

private theorem same_rows :
    (v.rows (e.recording h) c parameters user).Same
      (v.rows (e.recording h') { c with records } parameters user) := by
  unfold rows
  cases v.dataSource.source with
  | report id defaults | customReport id defaults =>
    have hrun := RunRequest.sameUpTo_execute h h' ha (runFor id defaults parameters user)
    exact ⟨congrArg _ hrun.map_data, hrun.queries⟩
  | rawQuery query defaults =>
    have hprepared (h : Recording) : v.preparedQuery (e.recording h) = v.preparedQuery e := rfl
    have hstorage (h : Recording) : (e.recording h).storage = e.storage := rfl
    dsimp only
    rw [hprepared, hprepared]
    cases v.preparedQuery e query (Fields.overlay defaults parameters) with
    | error cause => exact ⟨rfl, rfl⟩
    | ok statement =>
      refine ⟨?_, rfl⟩
      dsimp only
      rw [hstorage, hstorage, ha statement]
  | staticData | api => exact ⟨rfl, rfl⟩

private theorem same_render :
    (v.render (e.recording h) c parameters user).Same
      (v.render (e.recording h') { c with records } parameters user) := by
  have hrows := v.same_rows h h' parameters user ha
  have hadmins (h : Recording) : (e.recording h).admins = e.admins := rfl
  unfold render
  rw [hadmins, hadmins]
  split
  · refine ⟨?_, hrows.queries⟩
    dsimp only
    rw [hrows.result_eq]
  · exact ⟨rfl, rfl⟩

end Component

/-- Whether all runs and renderings answer alike, up to the stamps of their records and after the
same statements, when they are recorded in one way over one catalog and in another way over another
one. -/
structure Engine.RespondsAlike (e : Engine) (h h' : Recording) (c c' : Catalog) : Prop where
  runs : ∀ r : RunRequest, (r.execute (e.recording h) c).SameUpTo RunResponse.unstamped
    (r.execute (e.recording h') c')
  renderings : ∀ (v : Component) parameters user,
    (v.render (e.recording h) c parameters user).Same
      (v.render (e.recording h') c' parameters user)
  stored : ∀ id parameters user,
    (renderStored (e.recording h) c id parameters user).Same
      (renderStored (e.recording h') c' id parameters user)

private theorem Engine.respondsAlike_of_answersAlike {e : Engine} (h h' : Recording) {c : Catalog}
    (records : List StoredRecord) (ha : e.AnswersAlike c { c with records }) :
    e.RespondsAlike h h' c { c with records } where
  runs r := r.sameUpTo_execute h h' ha
  renderings v parameters user := v.same_render h h' parameters user ha
  stored id parameters user := by
    have hfind : ({ c with records } : Catalog).component? id = c.component? id := rfl
    unfold renderStored
    rw [hfind]
    cases c.component? id with
    | error cause => exact ⟨rfl, rfl⟩
    | ok found =>
      cases found with
      | none => exact ⟨rfl, rfl⟩
      | some v => exact v.same_render h h' parameters user ha

/-- What becomes of the records of runs influences no answer: a run answers the same, up to the
stamp of the record that it returns, and a rendering shows the same chart or error, after the same
statements, whether the record is added, is refused, or is not kept, and whatever records have been
kept before that storage does not answer from. -/
theorem same_recording (e : Engine) (h h' : Recording) (c : Catalog) :
    e.RespondsAlike h h' c c ∧
      ∀ records, e.AnswersAlike c { c with records } → e.RespondsAlike h h' c { c with records } :=
  ⟨Engine.respondsAlike_of_answersAlike h h' c.records fun _ ↦ rfl,
    fun records ha ↦ Engine.respondsAlike_of_answersAlike h h' records ha⟩

end TabularReport

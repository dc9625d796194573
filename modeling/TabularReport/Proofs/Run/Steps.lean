import TabularReport.Proofs.Statement.Resolution
import TabularReport.Run.Execute

/-!
# The steps of a run

What each step before storage needs, and the error of a step that lacks it, are said here rule by
rule, apart from the functions that take the steps. A run is made ready exactly when all steps have
what they need.
-/

namespace TabularReport

private theorem Except.bind_eq_error_iff {ε α β : Type} {x : Except ε α} {f : α → Except ε β}
    {e : ε} :
    (x >>= f) = .error e ↔ x = .error e ∨ ∃ a, x = .ok a ∧ f a = .error e := by
  cases x with
  | error d =>
    constructor
    · intro h
      cases h
      exact .inl rfl
    · rintro (h | ⟨a, ha, -⟩)
      · cases h
        rfl
      · cases ha
  | ok a =>
    constructor
    · intro h
      exact .inr ⟨a, rfl, h⟩
    · rintro (h | ⟨b, hb, h⟩)
      · cases h
      · cases hb
        exact h

/-- A step whose errors are renamed succeeds as it is. -/
theorem Except.mapError_eq_ok_iff {ε δ α : Type} {x : Except ε α} {f : ε → δ} {a : α} :
    x.mapError f = .ok a ↔ x = .ok a := by
  cases x <;> simp [Except.mapError]

private theorem Except.mapError_eq_error_iff {ε δ α : Type} {x : Except ε α} {f : ε → δ} {d : δ} :
    x.mapError f = .error d ↔ ∃ e, x = .error e ∧ f e = d := by
  cases x <;> simp [Except.mapError]

/-- Something is found exactly when the step that looks for it succeeds with it. -/
theorem Except.toOption_join_eq_some_iff {ε α : Type} {x : Except ε (Option α)} {a : α} :
    x.toOption.join = some a ↔ x = .ok (some a) := by
  cases x with
  | error e => simp [Except.toOption]
  | ok o => cases o <;> simp [Except.toOption]

/-- A report may be used when it is public, by its owner, and by administrators. -/
theorem canAccess_eq_true_iff {admins : List String} {owner user : String} {isPublic : Bool} :
    canAccess admins owner isPublic user = true ↔
      isPublic = true ∨ owner = user ∨ user ∈ admins := by
  simp only [canAccess, isAdmin, Bool.or_eq_true, beq_iff_eq, List.contains_iff_mem, or_assoc]

namespace RunRequest

/-- The template of a request: it is stored under the requested id, and the requester may use it. -/
structure FindsTemplate (r : RunRequest) (e : Engine) (c : Catalog) (t : ReportTemplate) :
    Prop where
  stored : c.template? r.reportId = .ok (some t)
  allowed : t.isPublic = true ∨ t.ownerId = r.requesterId ∨ r.requesterId ∈ e.admins

/-- The saved query of a request, if it names one: it is stored and belongs to the template. -/
inductive FindsSavedQuery (r : RunRequest) (e : Engine) (c : Catalog) (t : ReportTemplate) :
    Option SavedQuery → Prop
  | unnamed : r.savedQueryId = none → FindsSavedQuery r e c t none
  | named {id : String} {q : SavedQuery} :
      r.savedQueryId = some id → c.savedQuery? e.now id = .ok (some q) → q.templateId = t.id →
      FindsSavedQuery r e c t (some q)

/-- The values that a run is given: those of the request over those of the saved query. -/
def given (r : RunRequest) (saved : Option SavedQuery) : Fields :=
  Fields.overlay ((saved.map (·.parameters)).getD []) r.parameters

/-- The values of a run: the given ones and defaults, which the declarations of the template accept.
-/
inductive Supplies (r : RunRequest) (c : Catalog) (t : ReportTemplate)
    (saved : Option SavedQuery) : Fields → Prop
  | accepted {definitions : List ParameterDefinition} :
      c.parameters t.id = .ok definitions →
      ParameterDefinition.check definitions
        (ParameterDefinition.fillDefaults definitions (r.given saved)) = .ok () →
      Supplies r c t saved (ParameterDefinition.fillDefaults definitions (r.given saved))

/-- What a run asks of its template. -/
def query (r : RunRequest) (saved : Option SavedQuery) (parameters : Fields) : QueryRequest :=
  ⟨parameters, mergeFilters r.filters (saved.bind (·.filters)), r.sorting, r.pagination⟩

/-- The record of a run that has not asked storage yet. -/
def startedRecord (r : RunRequest) (e : Engine) (t : ReportTemplate) (saved : Option SavedQuery)
    (parameters : Fields) : RunRecord :=
  { id := e.runId
    templateId := t.id
    savedQueryId := saved.map (·.id)
    parameters
    filters := mergeFilters r.filters (saved.bind (·.filters))
    sorting := r.sorting
    executedAt := e.now
    executionTimeMs := e.elapsedMs
    rowCount := 0
    status := .running
    executedBy := r.requesterId }

/-- A run that is ready: all steps before storage have what they need. -/
structure Readies (r : RunRequest) (e : Engine) (c : Catalog) (saved : Option SavedQuery)
    (p : PreparedRun) : Prop where
  template : r.FindsTemplate e c p.template
  savedQuery : r.FindsSavedQuery e c p.template saved
  parameters : r.Supplies c p.template saved p.record.parameters
  statement : p.template.assemble (r.query saved p.record.parameters) e.settings.pageLimits =
    .ok p.statement
  record : p.record = r.startedRecord e p.template saved p.record.parameters

/-- The error of the first step that lacks what it needs. -/
inductive Fails (r : RunRequest) (e : Engine) (c : Catalog) : ReportError → Prop
  | unreadableTemplate {cause : StorageError} :
      c.template? r.reportId = .error cause → Fails r e c (.execution cause)
  | noTemplate :
      c.template? r.reportId = .ok none → Fails r e c (.notFound .template r.reportId)
  | denied {t : ReportTemplate} :
      c.template? r.reportId = .ok (some t) →
      ¬ (t.isPublic = true ∨ t.ownerId = r.requesterId ∨ r.requesterId ∈ e.admins) →
      Fails r e c (.authorization (.run r.requesterId t.id))
  | unreadableSavedQuery {t : ReportTemplate} {id : String} {cause : StorageError} :
      r.FindsTemplate e c t → r.savedQueryId = some id →
      c.savedQuery? e.now id = .error cause → Fails r e c (.execution cause)
  | noSavedQuery {t : ReportTemplate} {id : String} :
      r.FindsTemplate e c t → r.savedQueryId = some id → c.savedQuery? e.now id = .ok none →
      Fails r e c (.notFound .savedQuery id)
  | foreignSavedQuery {t : ReportTemplate} {id : String} {q : SavedQuery} :
      r.FindsTemplate e c t → r.savedQueryId = some id →
      c.savedQuery? e.now id = .ok (some q) → q.templateId ≠ t.id →
      Fails r e c (.validation (.savedQueryMismatch q.id t.id))
  | unreadableParameters {t : ReportTemplate} {saved : Option SavedQuery} {cause : StorageError} :
      r.FindsTemplate e c t → r.FindsSavedQuery e c t saved →
      c.parameters t.id = .error cause → Fails r e c (.execution cause)
  | invalidParameters {t : ReportTemplate} {saved : Option SavedQuery}
      {definitions : List ParameterDefinition} {problem : ValidationError} :
      r.FindsTemplate e c t → r.FindsSavedQuery e c t saved →
      c.parameters t.id = .ok definitions →
      ParameterDefinition.check definitions
        (ParameterDefinition.fillDefaults definitions (r.given saved)) = .error problem →
      Fails r e c (.validation problem)
  | refusedStatement {t : ReportTemplate} {saved : Option SavedQuery} {parameters : Fields}
      {problem : ValidationError} :
      r.FindsTemplate e c t → r.FindsSavedQuery e c t saved → r.Supplies c t saved parameters →
      t.assemble (r.query saved parameters) e.settings.pageLimits = .error problem →
      Fails r e c (.validation problem)

variable {r : RunRequest} {e : Engine} {c : Catalog}

private theorem template_eq_ok_iff {t : ReportTemplate} :
    r.template e c = .ok t ↔ r.FindsTemplate e c t := by
  rw [template, Except.bind_eq_ok_iff]
  constructor
  · rintro ⟨found, hf, h⟩
    have hs := Except.mapError_eq_ok_iff.mp hf
    split at h
    · next u =>
      split at h
      · next ha =>
        cases h
        exact ⟨hs, canAccess_eq_true_iff.mp ha⟩
      · cases h
    · cases h
  · intro h
    refine ⟨some t, Except.mapError_eq_ok_iff.mpr h.stored, ?_⟩
    exact if_pos (canAccess_eq_true_iff.mpr h.allowed)

private theorem fails_of_template {cause : ReportError} (h : r.template e c = .error cause) :
    r.Fails e c cause := by
  rw [template, Except.bind_eq_error_iff] at h
  rcases h with h | ⟨found, hf, h⟩
  · obtain ⟨_, hs, rfl⟩ := Except.mapError_eq_error_iff.mp h
    exact .unreadableTemplate hs
  · have hs := Except.mapError_eq_ok_iff.mp hf
    split at h
    · split at h
      · cases h
      · next ha =>
        cases h
        exact .denied hs fun hu ↦ ha (canAccess_eq_true_iff.mpr hu)
    · next hn =>
      cases h
      cases found with
      | none => exact .noTemplate hs
      | some t => exact absurd rfl (hn t)

/-- A request gets the saved query that it finds, or none when it names none. -/
theorem savedQuery_eq_ok_iff {t : ReportTemplate} {saved : Option SavedQuery} :
    r.savedQuery e c t = .ok saved ↔ r.FindsSavedQuery e c t saved := by
  unfold savedQuery
  constructor
  · intro h
    split at h
    · next hn =>
      cases h
      exact .unnamed hn
    · next id hid =>
      obtain ⟨found, hf, h⟩ := Except.bind_eq_ok_iff.mp h
      have hs := Except.mapError_eq_ok_iff.mp hf
      split at h
      · split at h
        · next hq =>
          cases h
          exact .named hid hs hq
        · cases h
      · cases h
  · rintro (hn | ⟨hid, hs, hq⟩)
    · rw [hn]
    · rw [hid]
      refine Except.bind_eq_ok_iff.mpr ⟨_, Except.mapError_eq_ok_iff.mpr hs, ?_⟩
      exact if_pos hq

private theorem fails_of_savedQuery {t : ReportTemplate} (ht : r.FindsTemplate e c t)
    {cause : ReportError} (h : r.savedQuery e c t = .error cause) : r.Fails e c cause := by
  unfold savedQuery at h
  split at h
  · cases h
  · next id hid =>
    rcases Except.bind_eq_error_iff.mp h with h | ⟨found, hf, h⟩
    · obtain ⟨_, hs, rfl⟩ := Except.mapError_eq_error_iff.mp h
      exact .unreadableSavedQuery ht hid hs
    · have hs := Except.mapError_eq_ok_iff.mp hf
      split at h
      · split at h
        · cases h
        · next hq =>
          cases h
          exact .foreignSavedQuery ht hid hs hq
      · next hn =>
        cases h
        cases found with
        | none => exact .noSavedQuery ht hid hs
        | some q => exact absurd rfl (hn q)

private theorem effectiveParameters_eq_ok_iff {t : ReportTemplate} {saved : Option SavedQuery}
    {parameters : Fields} :
    r.effectiveParameters c t saved = .ok parameters ↔ r.Supplies c t saved parameters := by
  rw [effectiveParameters, Except.bind_eq_ok_iff]
  constructor
  · rintro ⟨definitions, hd, h⟩
    obtain ⟨_, hc, h⟩ := Except.bind_eq_ok_iff.mp h
    cases h
    exact .accepted (Except.mapError_eq_ok_iff.mp hd) (Except.mapError_eq_ok_iff.mp hc)
  · rintro ⟨hd, hc⟩
    refine ⟨_, Except.mapError_eq_ok_iff.mpr hd, ?_⟩
    exact Except.bind_eq_ok_iff.mpr ⟨(), Except.mapError_eq_ok_iff.mpr hc, rfl⟩

private theorem fails_of_effectiveParameters {t : ReportTemplate} {saved : Option SavedQuery}
    (ht : r.FindsTemplate e c t) (hq : r.FindsSavedQuery e c t saved) {cause : ReportError}
    (h : r.effectiveParameters c t saved = .error cause) : r.Fails e c cause := by
  rw [effectiveParameters, Except.bind_eq_error_iff] at h
  rcases h with h | ⟨definitions, hd, h⟩
  · obtain ⟨_, hs, rfl⟩ := Except.mapError_eq_error_iff.mp h
    exact .unreadableParameters ht hq hs
  · rcases Except.bind_eq_error_iff.mp h with h | ⟨_, -, h⟩
    · obtain ⟨_, hp, rfl⟩ := Except.mapError_eq_error_iff.mp h
      exact .invalidParameters ht hq (Except.mapError_eq_ok_iff.mp hd) hp
    · cases h

/-- A run is made ready exactly when all its steps have what they need. -/
theorem prepare_eq_ok_iff {p : PreparedRun} :
    r.prepare e c = .ok p ↔ ∃ saved, r.Readies e c saved p := by
  rw [prepare, Except.bind_eq_ok_iff]
  constructor
  · rintro ⟨t, ht, h⟩
    obtain ⟨saved, hq, h⟩ := Except.bind_eq_ok_iff.mp h
    obtain ⟨parameters, hv, h⟩ := Except.bind_eq_ok_iff.mp h
    obtain ⟨a, ha, h⟩ := Except.bind_eq_ok_iff.mp h
    cases h
    exact ⟨saved, template_eq_ok_iff.mp ht, savedQuery_eq_ok_iff.mp hq,
      effectiveParameters_eq_ok_iff.mp hv, Except.mapError_eq_ok_iff.mp ha, rfl⟩
  · rintro ⟨saved, h⟩
    refine ⟨p.template, template_eq_ok_iff.mpr h.template, ?_⟩
    refine Except.bind_eq_ok_iff.mpr ⟨saved, savedQuery_eq_ok_iff.mpr h.savedQuery, ?_⟩
    refine Except.bind_eq_ok_iff.mpr
      ⟨p.record.parameters, effectiveParameters_eq_ok_iff.mpr h.parameters, ?_⟩
    refine Except.bind_eq_ok_iff.mpr ⟨p.statement, Except.mapError_eq_ok_iff.mpr h.statement, ?_⟩
    exact congrArg (fun record ↦ Except.ok (⟨p.template, p.statement, record⟩ : PreparedRun))
      h.record.symm

private theorem prepare_eq_error_iff {cause : ReportError} :
    r.prepare e c = .error cause ↔
      r.template e c = .error cause ∨ ∃ t, r.FindsTemplate e c t ∧
        (r.savedQuery e c t = .error cause ∨ ∃ saved, r.FindsSavedQuery e c t saved ∧
          (r.effectiveParameters c t saved = .error cause ∨
            ∃ parameters problem, r.Supplies c t saved parameters ∧
              t.assemble (r.query saved parameters) e.settings.pageLimits = .error problem ∧
              .validation problem = cause)) := by
  rw [prepare, Except.bind_eq_error_iff]
  refine or_congr_right (exists_congr fun t ↦ and_congr template_eq_ok_iff ?_)
  rw [Except.bind_eq_error_iff]
  refine or_congr_right (exists_congr fun saved ↦ and_congr savedQuery_eq_ok_iff ?_)
  rw [Except.bind_eq_error_iff]
  refine or_congr_right (exists_congr fun parameters ↦ ?_)
  rw [effectiveParameters_eq_ok_iff, Except.bind_eq_error_iff, exists_and_left]
  refine and_congr_right fun _ ↦ ⟨?_, ?_⟩
  · rintro (h | ⟨_, -, h⟩)
    · exact Except.mapError_eq_error_iff.mp h
    · cases h
  · intro h
    exact .inl (Except.mapError_eq_error_iff.mpr h)

/-- A run that is not made ready fails. -/
theorem fails_of_prepare {cause : ReportError} (h : r.prepare e c = .error cause) :
    r.Fails e c cause := by
  rcases prepare_eq_error_iff.mp h with h | ⟨t, ht, h | ⟨saved, hq, h | ⟨_, _, hv, hp, rfl⟩⟩⟩
  · exact fails_of_template h
  · exact fails_of_savedQuery ht h
  · exact fails_of_effectiveParameters ht hq h
  · exact .refusedStatement ht hq hv hp

/-- A run that lacks what a step needs ends with the error of this step. -/
theorem Fails.prepare_eq {cause : ReportError} (h : r.Fails e c cause) :
    r.prepare e c = .error cause := by
  rw [prepare_eq_error_iff]
  cases h with
  | unreadableTemplate hs =>
    exact .inl (Except.bind_eq_error_iff.mpr (.inl (Except.mapError_eq_error_iff.mpr ⟨_, hs, rfl⟩)))
  | noTemplate hs =>
    exact .inl (Except.bind_eq_error_iff.mpr (.inr ⟨none, Except.mapError_eq_ok_iff.mpr hs, rfl⟩))
  | @denied t hs ha =>
    refine .inl (Except.bind_eq_error_iff.mpr
      (.inr ⟨some t, Except.mapError_eq_ok_iff.mpr hs, if_neg ?_⟩))
    exact fun hu ↦ ha (canAccess_eq_true_iff.mp hu)
  | unreadableSavedQuery ht hid hs =>
    refine .inr ⟨_, ht, .inl ?_⟩
    rw [savedQuery, hid]
    exact Except.bind_eq_error_iff.mpr (.inl (Except.mapError_eq_error_iff.mpr ⟨_, hs, rfl⟩))
  | noSavedQuery ht hid hs =>
    refine .inr ⟨_, ht, .inl ?_⟩
    rw [savedQuery, hid]
    exact Except.bind_eq_error_iff.mpr (.inr ⟨none, Except.mapError_eq_ok_iff.mpr hs, rfl⟩)
  | @foreignSavedQuery t id q ht hid hs hq =>
    refine .inr ⟨t, ht, .inl ?_⟩
    rw [savedQuery, hid]
    exact Except.bind_eq_error_iff.mpr (.inr ⟨some q, Except.mapError_eq_ok_iff.mpr hs, if_neg hq⟩)
  | unreadableParameters ht hq hs =>
    refine .inr ⟨_, ht, .inr ⟨_, hq, .inl ?_⟩⟩
    exact Except.bind_eq_error_iff.mpr (.inl (Except.mapError_eq_error_iff.mpr ⟨_, hs, rfl⟩))
  | @invalidParameters t saved definitions problem ht hq hd hp =>
    refine .inr ⟨t, ht, .inr ⟨saved, hq, .inl ?_⟩⟩
    refine Except.bind_eq_error_iff.mpr (.inr ⟨definitions, Except.mapError_eq_ok_iff.mpr hd, ?_⟩)
    exact Except.bind_eq_error_iff.mpr (.inl (Except.mapError_eq_error_iff.mpr ⟨_, hp, rfl⟩))
  | refusedStatement ht hq hv hp =>
    exact .inr ⟨_, ht, .inr ⟨_, hq, .inr ⟨_, _, hv, hp, rfl⟩⟩⟩

end RunRequest

end TabularReport

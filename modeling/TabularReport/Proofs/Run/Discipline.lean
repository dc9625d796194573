import TabularReport.Proofs.Run.Steps

/-!
# The discipline of a run

A run that lacks what a step before storage needs leaves no trace. Every other run asks storage
once and then keeps one record, whether storage answers or fails; what the record tells is what the
run has asked and what came of it.
-/

namespace TabularReport

/-- The catalog with one more record, after all others. -/
def Catalog.withRecord (c : Catalog) (r : RunRecord) : Catalog :=
  { c with records := c.records ++ [r.stored] }

/-- Adding a record puts it after all others and changes nothing else; a used id is refused. -/
theorem Catalog.append_eq (c : Catalog) (r : RunRecord) :
    c.append r =
      if r.id ∈ c.records.map (·.id) then .error (.database .repeatedRecord)
      else .ok (c.withRecord r) := by
  unfold append
  by_cases hr : r.id ∈ c.records.map (·.id)
  · have hany : c.records.any (·.id == r.id) = true := by
      obtain ⟨s, hs, he⟩ := List.mem_map.mp hr
      exact List.any_eq_true.mpr ⟨s, hs, beq_iff_eq.mpr he⟩
    rw [if_pos hany, if_pos hr]
  · have hany : ¬ c.records.any (·.id == r.id) = true := by
      intro h
      obtain ⟨s, hs, he⟩ := List.any_eq_true.mp h
      exact hr (List.mem_map.mpr ⟨s, hs, beq_iff_eq.mp he⟩)
    rw [if_neg hany, if_neg hr]
    rfl

namespace Engine

/-- The catalog after storage has been asked for some statements. -/
def afterStorage (e : Engine) (c : Catalog) (statements : List BoundStatement) : Catalog :=
  statements.foldl (fun c s ↦ ((e.storage s).run c).2) c

/-- The catalog after storage has been asked for some statements and some records have been offered.
-/
def afterRun (e : Engine) (c : Catalog) (statements : List BoundStatement)
    (records : List RunRecord) : Catalog :=
  records.foldl e.offer (e.afterStorage c statements)

/-- How the record of a run is kept, by the records offered and the catalog after it: it is offered
when runs are recorded, it is added when it can be, and otherwise the catalog stays as it is. -/
inductive Keeps (e : Engine) (c : Catalog) (record : RunRecord) : List RunRecord → Catalog → Prop
  | added {after : Catalog} : e.settings.recordHistory = true → e.append c record = .ok after →
      Keeps e c record [record] after
  | lost {cause : StorageError} : e.settings.recordHistory = true →
      e.append c record = .error cause → Keeps e c record [record] c
  | unrecorded : e.settings.recordHistory = false → Keeps e c record [] c

/-- Recording a run follows the rules. -/
theorem keeps_record (e : Engine) (c : Catalog) (s : BoundStatement) (record : RunRecord)
    (result : Except ReportError RunResponse) :
    e.Keeps c record (e.record c s record result).offered (e.record c s record result).catalog := by
  unfold Engine.record
  split
  · next hr =>
    unfold offer
    cases ha : e.append c record with
    | ok after => exact .added hr ha
    | error cause => exact .lost hr ha
  · next hr => exact .unrecorded (Bool.eq_false_iff.mpr hr)

/-- Recording a run leaves its result. -/
theorem result_record (e : Engine) (c : Catalog) (s : BoundStatement) (record : RunRecord)
    (result : Except ReportError RunResponse) : (e.record c s record result).result = result := by
  unfold Engine.record
  split <;> rfl

/-- Recording a run leaves its statement. -/
theorem queries_record (e : Engine) (c : Catalog) (s : BoundStatement) (record : RunRecord)
    (result : Except ReportError RunResponse) : (e.record c s record result).queries = [s] := by
  unfold Engine.record
  split <;> rfl

private theorem record_eq (e : Engine) (c : Catalog) (s : BoundStatement) (record : RunRecord)
    (result : Except ReportError RunResponse) :
    e.record c s record result =
      ⟨result, [s], (e.record c s record result).offered,
        (e.record c s record result).catalog⟩ := by
  have hresult := e.result_record c s record result
  have hqueries := e.queries_record c s record result
  generalize e.record c s record result = o at hresult hqueries ⊢
  cases o
  cases hresult
  cases hqueries
  rfl

variable {e : Engine} {c after : Catalog} {record : RunRecord} {offered : List RunRecord}

private theorem Keeps.eq_or_append (h : e.Keeps c record offered after) :
    after = c ∨ e.append c record = .ok after := by
  cases h with
  | added _ ha => exact .inr ha
  | lost => exact .inl rfl
  | unrecorded => exact .inl rfl

private theorem Keeps.offers (h : e.Keeps c record offered after) :
    offered = [] ∨ offered = [record] := by
  cases h with
  | added => exact .inr rfl
  | lost => exact .inr rfl
  | unrecorded => exact .inl rfl

private theorem Keeps.eq_foldl (h : e.Keeps c record offered after) :
    after = offered.foldl e.offer c := by
  cases h with
  | added _ ha => rw [List.foldl_cons, List.foldl_nil, offer, ha]
  | lost _ ha => rw [List.foldl_cons, List.foldl_nil, offer, ha]
  | unrecorded => rfl

end Engine

/-- What a record tells of a run whose statement has been sent: the template, the saved query, the
values, the filters, the sorts and the requester. The statement is the one that they ask for. -/
structure RunRequest.Tells (r : RunRequest) (e : Engine) (c : Catalog) (record : RunRecord)
    (sent : AssembledQuery) : Prop where
  found : ∃ t saved, r.FindsTemplate e c t ∧ r.FindsSavedQuery e c t saved ∧
    record.templateId = t.id ∧ record.savedQueryId = saved.map (·.id) ∧
    r.Supplies c t saved record.parameters ∧
    record.filters = mergeFilters r.filters (saved.bind (·.filters)) ∧
    t.assemble ⟨record.parameters, record.filters, record.sorting, r.pagination⟩
      e.settings.pageLimits = .ok sent
  sorting : record.sorting = r.sorting
  requester : record.executedBy = r.requesterId

/-- The text and the parameters that are sent to storage. -/
def AssembledQuery.bound (a : AssembledQuery) : BoundStatement := ⟨a.sql, a.params⟩

/-- What a run answers with the rows that storage has for its statement. -/
def PreparedRun.response (p : PreparedRun) (rows : List Fields) : RunResponse :=
  let shaped := p.template.shapeRows rows
  ⟨{ p.record with status := .success, rowCount := shaped.rows.length }, shaped.rows,
    p.template.columnMetadata, p.statement.page.map fun _ ↦ shaped.totalCount.getD 0⟩

/-- The ways in which a run can go: it stops before storage is asked, storage fails, or storage
answers. -/
inductive RunRequest.Goes (r : RunRequest) (e : Engine) (c : Catalog) : Outcome RunResponse → Prop
  | stops {cause : ReportError} : r.Fails e c cause → Goes r e c ⟨.error cause, [], [], c⟩
  | fails {sent : AssembledQuery} {cause : StorageError} {record : RunRecord} {left : Catalog}
      {offered : List RunRecord} {after : Catalog} :
      r.Tells e c record sent → (e.storage sent.bound).run c = (.error cause, left) →
      record.status = .failed → record.rowCount = 0 →
      record.errorMessage = some cause.message → e.Keeps left record offered after →
      Goes r e c ⟨.error (.execution cause), [sent.bound], offered, after⟩
  | succeeds {sent : AssembledQuery} {rows : List Fields} {response : RunResponse} {left : Catalog}
      {offered : List RunRecord} {after : Catalog} :
      r.Tells e c response.execution sent → (e.storage sent.bound).run c = (.ok rows, left) →
      response.execution.status = .success →
      response.execution.rowCount = response.data.length →
      response.execution.errorMessage = none →
      (response.totalCount.isSome = true ↔ r.pagination.isSome = true) →
      e.Keeps left response.execution offered after →
      Goes r e c ⟨.ok response, [sent.bound], offered, after⟩

/-- A page is asked for exactly when the statement returns one. -/
theorem ReportTemplate.isSome_page {t : ReportTemplate} {request : QueryRequest}
    {limits : PageLimits} {a : AssembledQuery} (h : t.assemble request limits = .ok a) :
    a.page.isSome = request.pagination.isSome := by
  obtain ⟨p, hk, rfl⟩ := exists_plan_of_assemble h
  have hp := hk.page
  have hs : (p.statement t request.parameters).page.isSome = p.page.isSome := Option.isSome_map
  rw [hs]
  unfold planPage at hp
  split at hp
  · next wish hw =>
    cases hm : p.sorts.mapM SortKey.outputSort with
    | error e =>
      rw [hm] at hp
      cases hp
    | ok outputs =>
      rw [hm] at hp
      rw [← Except.ok.inj hp, hw]
      rfl
  · next hw =>
    rw [← Except.ok.inj hp, hw]
    rfl

/-- How a run treats storage and the catalog, told by its outcome. -/
structure RunRequest.Disciplined (r : RunRequest) (e : Engine) (c : Catalog)
    (o : Outcome RunResponse) : Prop where
  asksOnce : o.queries.length ≤ 1
  offersOnce : o.offered.length ≤ 1
  /-- The catalog is what storage leaves of it, with the record that is offered. -/
  leaves : o.catalog = e.afterRun c o.queries o.offered
  addsOnce : o.catalog = e.afterStorage c o.queries ∨
    ∃ record, e.append (e.afterStorage c o.queries) record = .ok o.catalog
  /-- In a catalog that adds records as it should, there is at most one more and all else stays. -/
  adds : e.append = Catalog.append → o.catalog = e.afterStorage c o.queries ∨
    ∃ record, o.catalog = (e.afterStorage c o.queries).withRecord record
  /-- Storage is asked unless a step before lacks what it needs. -/
  asks : o.queries = [] ↔ ∃ cause, r.Fails e c cause
  stopped : ∀ cause, r.Fails e c cause → o.result = .error cause ∧ o.offered = [] ∧ o.catalog = c
  failed : ∀ s ∈ o.queries, ∀ cause, ((e.storage s).run c).1 = .error cause →
    o.result = .error (.execution cause) ∧
      ∃ sent record, s = sent.bound ∧ r.Tells e c record sent ∧ record.status = .failed ∧
        record.rowCount = 0 ∧ record.errorMessage = some cause.message ∧
        e.Keeps (e.afterStorage c o.queries) record o.offered o.catalog
  succeeded : ∀ s ∈ o.queries, ∀ rows, ((e.storage s).run c).1 = .ok rows →
    ∃ sent response, s = sent.bound ∧ o.result = .ok response ∧
      r.Tells e c response.execution sent ∧ response.execution.status = .success ∧
      response.execution.rowCount = response.data.length ∧
      response.execution.errorMessage = none ∧
      (response.totalCount.isSome = true ↔ r.pagination.isSome = true) ∧
      e.Keeps (e.afterStorage c o.queries) response.execution o.offered o.catalog

namespace RunRequest

variable (r : RunRequest) (e : Engine) (c : Catalog)

private theorem Readies.tells {r : RunRequest} {e : Engine} {c : Catalog}
    {saved : Option SavedQuery} {p : PreparedRun} (h : r.Readies e c saved p) (status : RunStatus)
    (rowCount : Nat) (errorMessage : Option String) :
    r.Tells e c { p.record with status, rowCount, errorMessage } p.statement := by
  have hr := h.record
  have ht : p.record.templateId = p.template.id := congrArg (·.templateId) hr
  have hq : p.record.savedQueryId = saved.map (·.id) := congrArg (·.savedQueryId) hr
  have hf : p.record.filters = mergeFilters r.filters (saved.bind (·.filters)) :=
    congrArg (·.filters) hr
  have hs : p.record.sorting = r.sorting := congrArg (·.sorting) hr
  have ha : p.template.assemble
      ⟨p.record.parameters, p.record.filters, p.record.sorting, r.pagination⟩
      e.settings.pageLimits = .ok p.statement := by
    rw [hf, hs]
    exact h.statement
  exact
    { found := ⟨p.template, saved, h.template, h.savedQuery, ht, hq, h.parameters, hf, ha⟩
      sorting := hs
      requester := congrArg (·.executedBy) hr }

/-- A run that lacks what a step needs stops before storage is asked. -/
theorem execute_of_fails {r : RunRequest} {e : Engine} {c : Catalog} {cause : ReportError}
    (h : r.Fails e c cause) : r.execute e c = ⟨.error cause, [], [], c⟩ := by
  rw [execute, h.prepare_eq]
  rfl

/-- Every run goes one of the three ways. -/
theorem goes_execute : r.Goes e c (r.execute e c) := by
  cases hp : r.prepare e c with
  | error cause =>
    rw [execute_of_fails (fails_of_prepare hp)]
    exact .stops (fails_of_prepare hp)
  | ok p =>
    obtain ⟨saved, h⟩ := prepare_eq_ok_iff.mp hp
    have hr := h.record
    rw [execute, hp]
    dsimp only [PreparedRun.finish]
    split
    · next cause left hs =>
      have ht := h.tells .failed p.record.rowCount (some cause.message)
      rw [Engine.record_eq]
      exact .fails ht hs rfl (congrArg (·.rowCount) hr) rfl (e.keeps_record ..)
    · next rows left hs =>
      have ht := h.tells .success (p.template.shapeRows rows).rows.length p.record.errorMessage
      rw [Engine.record_eq]
      refine .succeeds ht hs rfl rfl (congrArg (·.errorMessage) hr) ?_ (e.keeps_record ..)
      rw [Option.isSome_map, ReportTemplate.isSome_page h.statement]
      rfl

/-- A run that is ready sends its statement and nothing else. -/
theorem queries_of_readies {r : RunRequest} {e : Engine} {c : Catalog} {saved : Option SavedQuery}
    {p : PreparedRun} (h : r.Readies e c saved p) :
    (r.execute e c).queries = [p.statement.bound] := by
  rw [execute, prepare_eq_ok_iff.mpr ⟨saved, h⟩]
  dsimp only [PreparedRun.finish]
  split <;> exact Engine.queries_record ..

/-- A run that is ready answers with the rows that storage has for its statement. -/
theorem result_of_readies {r : RunRequest} {e : Engine} {c : Catalog} {saved : Option SavedQuery}
    {p : PreparedRun} (h : r.Readies e c saved p) {rows : List Fields}
    (hs : ((e.storage p.statement.bound).run c).1 = .ok rows) :
    (r.execute e c).result = .ok (p.response rows) := by
  obtain ⟨left, hs⟩ : ∃ left, (e.storage p.statement.bound).run c = (.ok rows, left) :=
    ⟨_, Prod.ext hs rfl⟩
  rw [execute, prepare_eq_ok_iff.mpr ⟨saved, h⟩]
  dsimp only [PreparedRun.finish]
  rw [← AssembledQuery.bound, hs]
  exact Engine.result_record ..

/-- A run that asks storage is ready, and sends its statement. -/
theorem exists_readies_of_mem_queries {r : RunRequest} {e : Engine} {c : Catalog}
    {s : BoundStatement} (h : s ∈ (r.execute e c).queries) :
    ∃ saved p, r.Readies e c saved p ∧ s = p.statement.bound := by
  cases hp : r.prepare e c with
  | error cause =>
    rw [execute_of_fails (fails_of_prepare hp)] at h
    cases h
  | ok p =>
    obtain ⟨saved, hr⟩ := prepare_eq_ok_iff.mp hp
    rw [queries_of_readies hr, List.mem_singleton] at h
    exact ⟨saved, p, hr, h⟩

/-- A run asks storage at most once. -/
theorem length_queries_execute (r : RunRequest) (e : Engine) (c : Catalog) :
    (r.execute e c).queries.length ≤ 1 := by
  have hgoes := goes_execute r e c
  generalize r.execute e c = o at hgoes
  cases hgoes <;> simp

/-- A run offers at most one record, which names the requester, and changes the catalog through
storage and this record alone. -/
theorem Goes.offers {r : RunRequest} {e : Engine} {c : Catalog} {o : Outcome RunResponse}
    (h : r.Goes e c o) :
    o.offered.length ≤ 1 ∧ (∀ record ∈ o.offered, record.executedBy = r.requesterId) ∧
      o.catalog = e.afterRun c o.queries o.offered := by
  have hkept {left after : Catalog} {record : RunRecord} {offered : List RunRecord}
      (hk : e.Keeps left record offered after) (hr : record.executedBy = r.requesterId) :
      offered.length ≤ 1 ∧ ∀ record ∈ offered, record.executedBy = r.requesterId := by
    rcases hk.offers with rfl | rfl <;> simp [hr]
  cases h with
  | stops => exact ⟨Nat.zero_le 1, fun _ hm ↦ absurd hm List.not_mem_nil, rfl⟩
  | fails ht hs _ _ _ hk =>
    obtain ⟨hone, hnames⟩ := hkept hk ht.requester
    refine ⟨hone, hnames, ?_⟩
    rw [hk.eq_foldl, Engine.afterRun, Engine.afterStorage, List.foldl_cons, hs, List.foldl_nil]
  | succeeds ht hs _ _ _ _ hk =>
    obtain ⟨hone, hnames⟩ := hkept hk ht.requester
    refine ⟨hone, hnames, ?_⟩
    rw [hk.eq_foldl, Engine.afterRun, Engine.afterStorage, List.foldl_cons, hs, List.foldl_nil]

section

variable {r : RunRequest} {e : Engine} {c : Catalog} {o : Outcome RunResponse}

private theorem Goes.catalog_eq (h : r.Goes e c o) :
    o.catalog = e.afterStorage c o.queries ∨
      ∃ record, e.append (e.afterStorage c o.queries) record = .ok o.catalog := by
  cases h with
  | stops => exact .inl rfl
  | @fails sent cause record left offered after ht hs _ _ _ hk =>
    have hleft : e.afterStorage c [sent.bound] = left := congrArg Prod.snd hs
    exact hleft ▸ hk.eq_or_append.imp_right fun ha ↦ ⟨record, ha⟩
  | @succeeds sent rows response left offered after ht hs _ _ _ _ hk =>
    have hleft : e.afterStorage c [sent.bound] = left := congrArg Prod.snd hs
    exact hleft ▸ hk.eq_or_append.imp_right fun ha ↦ ⟨response.execution, ha⟩

private theorem Goes.failed (h : r.Goes e c o) {s : BoundStatement} (hm : s ∈ o.queries)
    {cause : StorageError} (hf : ((e.storage s).run c).1 = .error cause) :
    o.result = .error (.execution cause) ∧
      ∃ sent record, s = sent.bound ∧ r.Tells e c record sent ∧ record.status = .failed ∧
        record.rowCount = 0 ∧ record.errorMessage = some cause.message ∧
        e.Keeps (e.afterStorage c o.queries) record o.offered o.catalog := by
  cases h with
  | stops => exact absurd hm List.not_mem_nil
  | @fails sent cause' record left offered after ht hs hstatus hrows hmessage hk =>
    have hleft : e.afterStorage c [sent.bound] = left := congrArg Prod.snd hs
    cases List.mem_singleton.mp hm
    rw [hs] at hf
    cases hf
    exact ⟨rfl, sent, record, rfl, ht, hstatus, hrows, hmessage, hleft ▸ hk⟩
  | succeeds ht hs =>
    cases List.mem_singleton.mp hm
    rw [hs] at hf
    cases hf

private theorem Goes.succeeded (h : r.Goes e c o) {s : BoundStatement} (hm : s ∈ o.queries)
    {rows : List Fields} (hf : ((e.storage s).run c).1 = .ok rows) :
    ∃ sent response, s = sent.bound ∧ o.result = .ok response ∧
      r.Tells e c response.execution sent ∧ response.execution.status = .success ∧
      response.execution.rowCount = response.data.length ∧
      response.execution.errorMessage = none ∧
      (response.totalCount.isSome = true ↔ r.pagination.isSome = true) ∧
      e.Keeps (e.afterStorage c o.queries) response.execution o.offered o.catalog := by
  cases h with
  | stops => exact absurd hm List.not_mem_nil
  | fails ht hs =>
    cases List.mem_singleton.mp hm
    rw [hs] at hf
    cases hf
  | @succeeds sent rows response left offered after ht hs hstatus hrows hmessage htotal hk =>
    have hleft : e.afterStorage c [sent.bound] = left := congrArg Prod.snd hs
    cases List.mem_singleton.mp hm
    exact ⟨sent, response, rfl, rfl, ht, hstatus, hrows, hmessage, htotal, hleft ▸ hk⟩

private theorem Goes.exists_fails (h : r.Goes e c o) (hq : o.queries = []) :
    ∃ cause, r.Fails e c cause := by
  cases h with
  | stops hc => exact ⟨_, hc⟩
  | fails => cases hq
  | succeeds => cases hq

end

/-- Every run keeps the discipline, whatever the catalog, the settings, the administrators and
storage are. -/
theorem disciplined_execute : r.Disciplined e c (r.execute e c) := by
  have hgoes := goes_execute r e c
  obtain ⟨hone, -, hleaves⟩ := hgoes.offers
  have hstop {cause : ReportError} (h : r.Fails e c cause) := execute_of_fails h
  exact
    { asksOnce := length_queries_execute r e c
      offersOnce := hone
      leaves := hleaves
      addsOnce := hgoes.catalog_eq
      adds := by
        intro he
        refine hgoes.catalog_eq.imp_right fun ⟨record, ha⟩ ↦ ⟨record, ?_⟩
        rw [he, Catalog.append_eq] at ha
        split at ha
        · cases ha
        · exact (Except.ok.inj ha).symm
      asks := ⟨hgoes.exists_fails, fun ⟨_, hc⟩ ↦ by rw [hstop hc]⟩
      stopped := by
        intro cause hc
        rw [hstop hc]
        exact ⟨rfl, rfl, rfl⟩
      failed := fun _ hm _ hf ↦ hgoes.failed hm hf
      succeeded := fun _ hm _ hf ↦ hgoes.succeeded hm hf }

end RunRequest

end TabularReport

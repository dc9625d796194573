import TabularReport.Proofs.Run.Discipline
import TabularReport.Proofs.Statement.Conjunction

/-!
# The filters of a run

A run is filtered by its template, by its request and by its saved query. The statement that is sent
requires what is left of each of the three.
-/

namespace TabularReport

private theorem FilterGroup.remainders_append (parameters : Fields) (first : Nat)
    (a b : List FilterGroup) :
    remainders parameters first (a ++ b) =
      remainders parameters first a ++
        remainders parameters (first + (Clause.allValues (clausesOf parameters a)).length) b := by
  induction a generalizing first with
  | nil => rfl
  | cons g rest ih =>
    rw [List.cons_append, remainders, ih, remainders, clausesOf_cons, Clause.allValues_append,
      List.length_append, List.append_assoc, Nat.add_assoc]

private theorem forall_mem_mergeFilters {P : Condition → Prop} {a b : Option FilterGroup} :
    (∀ g ∈ (mergeFilters a b).toList, ∀ c ∈ g.leaves, P c) ↔
      ∀ g ∈ a.toList ++ b.toList, ∀ c ∈ g.leaves, P c := by
  cases a with
  | none => rfl
  | some r =>
    cases b with
    | none => rfl
    | some s =>
      have hl : (FilterGroup.mk .and [r.node, s.node]).leaves = r.leaves ++ s.leaves := by
        simp [FilterGroup.leaves, FilterNode.leavesOf, FilterNode.leaves, FilterGroup.node]
      simp [mergeFilters, hl, or_imp, forall_and]

private theorem all_remainders_mergeFilters (value : NumberedClause → Bool) (parameters : Fields)
    (first : Nat) (a b : Option FilterGroup) :
    (FilterGroup.remainders parameters first (mergeFilters a b).toList).all (·.eval value) =
      (FilterGroup.remainders parameters first (a.toList ++ b.toList)).all (·.eval value) := by
  cases a with
  | none => rfl
  | some r =>
    cases b with
    | none => rfl
    | some s =>
      have he : FilterGroup.remainders parameters first [⟨.and, [r.node, s.node]⟩] =
          (Formula.join? .and (FilterGroup.remainders parameters first [r, s])).toList :=
        List.append_nil _
      have hj (ms : List (Formula NumberedClause)) :
          (Formula.join? .and ms).toList.all (·.eval value) = ms.all (·.eval value) := by
        cases ms with
        | nil => rfl
        | cons m rest =>
          rw [Formula.join?, Option.toList_some, List.all_cons, List.all_nil, Bool.and_true,
            Formula.eval, Formula.evalMembers_and]
      exact (congrArg (List.all · (·.eval value)) he).trans (hj _)

private theorem FilterGroup.Conjoined.of_mergeFilters {parameters : Fields} {own : List FilterGroup}
    {a b : Option FilterGroup} {conditions : List String}
    (h : Conjoined parameters (own ++ (mergeFilters a b).toList) conditions) :
    Conjoined parameters (own ++ (a.toList ++ b.toList)) conditions where
  omitted := by
    rw [h.omitted, List.forall_mem_append, List.forall_mem_append, forall_mem_mergeFilters]
  read := by
    intro w hw
    obtain ⟨hc, r, hr, hv⟩ := h.read w hw
    refine ⟨hc, r, hr, fun v ↦ ?_⟩
    rw [hv, remainders_append, remainders_append, List.all_append, List.all_append,
      all_remainders_mergeFilters]

namespace ReportTemplate

variable {t : ReportTemplate}

private theorem resolveNode_node {g : FilterGroup} {n : FilterNode}
    (h : t.resolveNode g.node = .ok n) :
    ∃ f, t.resolveFilter g = .ok f ∧ n = f.node := by
  rw [FilterGroup.node, resolveNode] at h
  obtain ⟨nodes, hn, h⟩ := Except.bind_eq_ok_iff.mp h
  cases h
  refine ⟨{ g with nodes }, ?_, rfl⟩
  rw [resolveFilter, hn]
  rfl

private theorem resolveFilter_mergeFilters {a b m : Option FilterGroup}
    (h : (mergeFilters a b).mapM t.resolveFilter = .ok m) :
    ∃ a' b', a.mapM t.resolveFilter = .ok a' ∧ b.mapM t.resolveFilter = .ok b' ∧
      m = mergeFilters a' b' := by
  cases a with
  | none => exact ⟨none, m, rfl, h, rfl⟩
  | some r =>
    cases b with
    | none =>
      obtain ⟨r', hr, rfl⟩ := Except.mapM_some_eq_ok_iff.mp h
      exact ⟨some r', none, h, rfl, rfl⟩
    | some s =>
      obtain ⟨f, hf, rfl⟩ := Except.mapM_some_eq_ok_iff.mp h
      obtain ⟨nodes, hn, hf⟩ := Except.bind_eq_ok_iff.mp hf
      cases hf
      rw [resolveNodes] at hn
      obtain ⟨n, hr, hn⟩ := Except.bind_eq_ok_iff.mp hn
      obtain ⟨more, hm, hn⟩ := Except.bind_eq_ok_iff.mp hn
      cases hn
      rw [resolveNodes] at hm
      obtain ⟨n', hs, hm⟩ := Except.bind_eq_ok_iff.mp hm
      cases hm
      obtain ⟨r', hr', rfl⟩ := resolveNode_node hr
      obtain ⟨s', hs', rfl⟩ := resolveNode_node hs
      exact ⟨some r', some s', Except.mapM_some_eq_ok_iff.mpr ⟨r', hr', rfl⟩,
        Except.mapM_some_eq_ok_iff.mpr ⟨s', hs', rfl⟩, rfl⟩

private theorem isAtom_of_resolveFilter (h : t.problems = []) {a f : Option FilterGroup}
    (hf : a.mapM t.resolveFilter = .ok f)
    (hp : ∀ g ∈ a.toList, ∀ c ∈ g.leaves, ∀ column ∈ t.findColumn? c.column, column.IsPlain) :
    ∀ g ∈ f.toList, ∀ c ∈ g.leaves, Text.IsAtom c.column := by
  cases a with
  | none =>
    cases hf
    simp
  | some g =>
    obtain ⟨f, hr, rfl⟩ := Except.mapM_some_eq_ok_iff.mp hf
    intro f' hm c hc
    rw [Option.toList_some, List.mem_singleton] at hm
    subst hm
    obtain ⟨asked, ha, column, hfind, -, rfl⟩ := exists_of_forall₂ (forall₂_resolveFilter hr).2 hc
    exact Mark.IsColumn.isAtom (isColumn_reference h (mem_of_findColumn? hfind).1
      (hp g (by simp) asked ha column hfind))

end ReportTemplate

namespace RunRequest

variable {r : RunRequest} {e : Engine} {c : Catalog}

private theorem FindsTemplate.eq {t u : ReportTemplate} (h : r.FindsTemplate e c t)
    (hu : r.FindsTemplate e c u) : t = u :=
  Option.some.inj (Except.ok.inj (h.stored.symm.trans hu.stored))

private theorem FindsSavedQuery.eq {t : ReportTemplate} {a b : Option SavedQuery}
    (ha : r.FindsSavedQuery e c t a) (hb : r.FindsSavedQuery e c t b) : a = b :=
  Except.ok.inj ((savedQuery_eq_ok_iff.mpr ha).symm.trans (savedQuery_eq_ok_iff.mpr hb))

/-- The statement of a run requires what is left of the filters of the template, of the request and
of the saved query, as long as they name no connectives and the latter two no expressions. -/
theorem conjoined_execute {t : ReportTemplate} {saved : Option SavedQuery} {s : BoundStatement}
    (ht : r.FindsTemplate e c t) (hq : r.FindsSavedQuery e c t saved)
    (hs : s ∈ (r.execute e c).queries)
    (hown : ∀ g ∈ t.config.filters.toList, ∀ a ∈ g.leaves,
      Mark.isConnective a.column.toList = false)
    (hasked : ∀ g ∈ r.filters.toList ++ (saved.bind (·.filters)).toList, ∀ a ∈ g.leaves,
      ∀ column ∈ t.findColumn? a.column, column.IsPlain) :
    ∃ parameters requested kept q, r.Supplies c t saved parameters ∧
      r.filters.mapM t.resolveFilter = .ok requested ∧
      (saved.bind (·.filters)).mapM t.resolveFilter = .ok kept ∧
      t.assemble (r.query saved parameters) e.settings.pageLimits = .ok q ∧ s = q.bound ∧
      FilterGroup.Conjoined parameters
        (t.config.filters.toList ++ (requested.toList ++ kept.toList))
        (Token.conditions q.query.tokens) := by
  obtain ⟨saved', run, hr, rfl⟩ := exists_readies_of_mem_queries hs
  cases ht.eq hr.template
  cases hq.eq hr.savedQuery
  obtain ⟨p, hp, hstatement⟩ := ReportTemplate.exists_plan_of_assemble hr.statement
  obtain ⟨requested, kept, hrequested, hkept, hm⟩ :=
    ReportTemplate.resolveFilter_mergeFilters hp.filters
  refine ⟨run.record.parameters, requested, kept, run.statement, hr.parameters, hrequested, hkept,
    hr.statement, rfl, .of_mergeFilters ?_⟩
  rw [List.forall_mem_append] at hasked
  have hatoms : ∀ g ∈ p.rowFilters run.template, ∀ a ∈ g.leaves, Text.IsAtom a.column := by
    rw [StatementPlan.rowFilters, hm, List.forall_mem_append, forall_mem_mergeFilters,
      List.forall_mem_append]
    refine ⟨fun g hg a ha ↦ ?_, ?_, ?_⟩
    · have hsafe := ReportTemplate.isSafe_of_filters hp.accepted hg a.column
        (List.mem_map_of_mem ha)
      exact Mark.IsColumn.isAtom (Identifier.isColumn_of_isSafe hsafe (hown g hg a ha))
    · exact ReportTemplate.isAtom_of_resolveFilter hp.accepted hrequested hasked.1
    · exact ReportTemplate.isAtom_of_resolveFilter hp.accepted hkept hasked.2
  have hc := p.conjoined_statement run.template run.record.parameters hatoms
  rw [StatementPlan.rowFilters, hm] at hc
  rw [← hstatement]
  exact hc

end RunRequest

/-- The document of a condition that takes no value. -/
def nullDocument (column operator : String) : String :=
  "\x7b\"column\":\"" ++ column ++ "\",\"operator\":\"" ++ operator ++ "\"\x7d"

/-- A catalog with a public report on orders that are not sent or not paid, and with a saved query
for those of them that have a note. -/
def ordersCatalog : Catalog :=
  { templates :=
      [("orders",
        "\x7b\"id\":\"orders\",\"name\":\"\",\"isPublic\":true," ++
          "\"dataSources\":[\x7b\"name\":\"orders\"\x7d]," ++
          "\"config\":\x7b\"columns\":[\x7b\"name\":\"note\",\"filterable\":true\x7d]," ++
          "\"filters\":\x7b\"logic\":\"or\",\"conditions\":[" ++
          nullDocument "sent" "is null" ++ "," ++ nullDocument "paid" "is null" ++ "]\x7d\x7d\x7d")]
    savedQueries :=
      [("noted",
        "\x7b\"id\":\"noted\",\"templateId\":\"orders\"," ++
          "\"filters\":\x7b\"conditions\":[" ++ nullDocument "note" "is not null" ++ "]\x7d\x7d")] }

/-- A request for orders with one of two notes, and with a third condition that is dropped. -/
def notesRequest : RunRequest :=
  { reportId := "orders"
    savedQueryId := some "noted"
    filters := some
      { logic := .or
        nodes :=
          [.leaf { column := "note", operator := .equal, value := some (.string "late") },
            .leaf { column := "note", operator := .like, parameterRef := some "pattern" },
            .leaf { column := "note", operator := .equal, value := some (.string "lost") }] } }

/-- The filters of the report, of the request and of the saved query are required together. -/
theorem conjoined_notesRequest :
    let e : Engine := { storage := fun _ ↦ .ok [] }
    let c := ordersCatalog
    ∃ t q s, notesRequest.FindsTemplate e c t ∧ notesRequest.FindsSavedQuery e c t (some q) ∧
      s ∈ (notesRequest.execute e c).queries ∧
      s.sql = "SELECT\n  note\nFROM orders\nWHERE (sent IS NULL OR paid IS NULL)" ++
        " AND (note = $1 OR note = $2) AND (note IS NOT NULL)" ∧
      ∃ parameters requested kept a, notesRequest.Supplies c t (some q) parameters ∧
        notesRequest.filters.mapM t.resolveFilter = .ok requested ∧
        q.filters.mapM t.resolveFilter = .ok kept ∧
        t.assemble (notesRequest.query (some q) parameters) e.settings.pageLimits = .ok a ∧
        s = a.bound ∧
        FilterGroup.Conjoined parameters
          (t.config.filters.toList ++ (requested.toList ++ kept.toList))
          (Token.conditions a.query.tokens) := by
  intro e c
  -- One evaluation reads the documents and runs the request.
  obtain ⟨hread, hsql⟩ :
      ((c.template? "orders").toOption.join.bind fun t ↦
          (c.savedQuery? e.now "noted").toOption.join.map fun q ↦
            (t.isPublic, decide (q.templateId = t.id),
              decide (∀ g ∈ t.config.filters.toList, ∀ a ∈ g.leaves,
                Mark.isConnective a.column.toList = false),
              decide (∀ g ∈ notesRequest.filters.toList ++ q.filters.toList, ∀ a ∈ g.leaves,
                ∀ column ∈ t.findColumn? a.column, column.IsPlain))) =
        some (true, true, true, true) ∧
      (notesRequest.execute e c).queries.map (·.sql) =
        ["SELECT\n  note\nFROM orders\nWHERE (sent IS NULL OR paid IS NULL)" ++
          " AND (note = $1 OR note = $2) AND (note IS NOT NULL)"] := by
    decide +kernel
  obtain ⟨t, ht, hread⟩ := Option.bind_eq_some_iff.mp hread
  obtain ⟨q, hq, hread⟩ := Option.map_eq_some_iff.mp hread
  simp only [Prod.mk.injEq, decide_eq_true_eq] at hread
  obtain ⟨hpublic, hown, hplain, hasked⟩ := hread
  obtain ⟨s, hs, hsql⟩ := List.map_eq_singleton_iff.mp hsql
  have hfinds : notesRequest.FindsTemplate e c t :=
    ⟨Except.toOption_join_eq_some_iff.mp ht, .inl hpublic⟩
  have hsaved : notesRequest.FindsSavedQuery e c t (some q) :=
    .named rfl (Except.toOption_join_eq_some_iff.mp hq) hown
  have hm : s ∈ (notesRequest.execute e c).queries := by simp [hs]
  exact ⟨t, q, s, hfinds, hsaved, hm, hsql,
    RunRequest.conjoined_execute hfinds hsaved hm hplain hasked⟩

end TabularReport

import TabularReport.Proofs.Statement.Resolution
import TabularReport.Proofs.Statement.Writing

/-!
# Where the text of a statement comes from

Each part of a planned statement is put together from words, names and expressions of its template,
and numbers; the conditions on rows and groups add the clauses. Of a request only page sizes and
offsets are written, and the names it uses are looked up among those of the template.
-/

namespace TabularReport

namespace ReportTemplate

variable {t : ReportTemplate} {page : Option AppliedPage}

/-- The names of a template, part by part. -/
theorem mem_names {n : String} :
    n ∈ t.names ↔
      (∃ s ∈ t.dataSources, n ∈ s.names) ∨ (∃ c ∈ t.config.columns, n ∈ c.names) ∨
        (∃ j ∈ t.config.joins, n ∈ j.names) ∨ n ∈ t.config.groupBy ∨
        n ∈ t.config.orderBy.map (·.column) ∨ (∃ g ∈ t.config.filters, n ∈ g.names) ∨
        (∃ g ∈ t.config.having, n ∈ g.names) ∨ ∃ a ∈ t.config.aggregations, n ∈ a.names := by
  simp only [names, List.mem_append, List.mem_flatMap, Option.mem_toList, Option.mem_def, or_assoc]

/-- The name of a column is a name of the template. -/
theorem name_mem_names {c : ColumnDefinition} (h : c ∈ t.config.columns) : c.name ∈ t.names := by
  refine mem_names.mpr (.inr (.inl ⟨c, h, ?_⟩))
  unfold ColumnDefinition.names
  split <;> exact List.mem_cons_self

private theorem storageName_mem_names {c : ColumnDefinition} (h : c ∈ t.config.columns)
    (he : c.expression = none) : c.storageName ∈ t.names := by
  refine mem_names.mpr (.inr (.inl ⟨c, h, ?_⟩))
  simp [ColumnDefinition.names, he]

private theorem qualifier_mem_names {s : DataSource} (h : s ∈ t.dataSources) :
    s.qualifier ∈ t.names := by
  refine mem_names.mpr (.inl ⟨s, h, ?_⟩)
  unfold DataSource.qualifier DataSource.names
  cases s.aliasName <;> simp

private theorem expression_mem_authored {c : ColumnDefinition} (hc : c ∈ t.config.columns)
    {expression : String} (he : c.expression = some expression) : expression ∈ t.authored :=
  List.mem_append_left _ (List.mem_filterMap.mpr ⟨c, hc, he⟩)

private theorem plain_reference (h : t.problems = []) {c : ColumnDefinition}
    (hc : c ∈ t.config.columns) (he : c.expression = none) :
    (t.reference c).Plain (t.lexicon page) := by
  unfold reference
  split
  · next expression _ hx =>
    rw [he] at hx
    cases hx
  · next source _ hs =>
    obtain ⟨again, hp⟩ := column_problems h hc
    obtain ⟨s, hf⟩ := ColumnDefinition.findSource?_of_problems hp he hs
    rw [hf]
    exact ColumnExpr.plain_qualified (.name (qualifier_mem_names (List.mem_of_find?_eq_some hf)))
      (.name (storageName_mem_names hc he))
  · exact ColumnExpr.plain_column (.name (storageName_mem_names hc he))

private theorem composed_reference (h : t.problems = []) {c : ColumnDefinition}
    (hc : c ∈ t.config.columns) : Composed (t.lexicon page) [] (t.reference c).sql := by
  cases he : c.expression with
  | none => exact (plain_reference h hc he).composed_sql
  | some expression =>
    have hr : (t.reference c).sql = expression := by
      rw [reference, he]
      exact String.append_empty
    rw [hr]
    exact .ofAuthored (expression_mem_authored hc he)

private theorem plain_selectColumn (h : t.problems = []) {c : ColumnDefinition}
    (hc : c ∈ t.config.columns) :
    Token.Plain (t.lexicon page) (t.selectColumn c).tokens := by
  have hn : (t.lexicon page).Leads c.name := .name (name_mem_names hc)
  cases he : c.expression with
  | none =>
    have hr : (t.reference c).Plain (t.lexicon page) := plain_reference h hc he
    simp only [selectColumn]
    split
    · exact plain_unnamed hr
    · exact plain_named hr hn
  | some expression =>
    have hs : t.selectColumn c = ⟨.raw expression, some c.name⟩ := by
      simp [selectColumn, reference, he]
    rw [hs]
    exact plain_authored (expression_mem_authored hc he) hn

private theorem plain_selectItem {a : Aggregation} (h : a ∈ t.config.aggregations) :
    Token.Plain (t.lexicon page) a.selectItem.tokens := by
  have hn : ∀ n ∈ a.names, (t.lexicon page).Leads n := fun n hn ↦
    .name (mem_names.mpr (.inr (.inr (.inr (.inr (.inr (.inr (.inr ⟨a, h, hn⟩))))))))
  have hc : (t.lexicon page).Leads a.column := hn a.column List.mem_cons_self
  have ho : (t.lexicon page).Leads a.outputName :=
    hn a.outputName (List.mem_cons_of_mem _ List.mem_cons_self)
  have hw : ∀ w ∈ vocabulary, (t.lexicon page).Leads (w ++ a.column ++ ")") := fun w hw ↦
    ((Lexicon.Leads.word hw).append hc).append (.word (by decide))
  have hs : (t.lexicon page).Leads a.sql := by
    unfold Aggregation.sql
    cases a.function <;> exact hw _ (by decide)
  exact plain_named (ColumnExpr.plain_raw hs) ho

private theorem plain_selectList (h : t.problems = []) :
    ∀ i ∈ t.selectList, Token.Plain (t.lexicon page) i.tokens := by
  intro i hi
  rcases List.mem_append.mp hi with hi | hi
  · obtain ⟨c, hc, rfl⟩ := List.mem_map.mp hi
    exact plain_selectColumn h (List.mem_filter.mp hc).1
  · obtain ⟨a, ha, rfl⟩ := List.mem_map.mp hi
    exact plain_selectItem ha

private theorem plain_ref {s : DataSource} (h : s ∈ t.dataSources) :
    Token.Plain (t.lexicon page) s.ref.tokens := by
  have hn : ∀ n ∈ s.names, (t.lexicon page).Leads n := fun n hn ↦
    .name (mem_names.mpr (.inl ⟨s, h, hn⟩))
  refine .cons (hn s.name List.mem_cons_self) (plain_asName fun n ha ↦ hn n ?_)
  exact List.mem_cons_of_mem _ (Option.mem_toList.mpr ha)

private theorem leads_joinCondition {left right : DataSource} {j : JoinDefinition}
    (hl : left ∈ t.dataSources) (hr : right ∈ t.dataSources) (hj : j ∈ t.config.joins) :
    (t.lexicon page).Leads (joinCondition left right j) := by
  have hn : ∀ n ∈ j.names, (t.lexicon page).Leads n := fun n hn ↦
    .name (mem_names.mpr (.inr (.inr (.inl ⟨j, hj, hn⟩))))
  have hc : (t.lexicon page).Leads
      (left.qualifier ++ "." ++ j.leftColumn ++ " = " ++
        right.qualifier ++ "." ++ j.rightColumn) := by
    have hlq : (t.lexicon page).Leads left.qualifier := .name (qualifier_mem_names hl)
    have hrq : (t.lexicon page).Leads right.qualifier := .name (qualifier_mem_names hr)
    have hlc := hn j.leftColumn List.mem_cons_self
    have hrc := hn j.rightColumn (List.mem_cons_of_mem _ List.mem_cons_self)
    have hdot : (t.lexicon page).Leads "." := .word (by decide)
    have hequal : (t.lexicon page).Leads " = " := .word (by decide)
    exact (((((hlq.append hdot).append hlc).append hequal).append hrq).append hdot).append hrc
  simp only [joinCondition]
  split
  · next extra he =>
    have hx : (t.lexicon page).Leads (extra ++ ")") :=
      .authored (List.mem_append_right _ (List.mem_filterMap.mpr ⟨j, hj, he⟩)) (by decide)
        (by decide) (.word (by decide))
    rw [String.append_assoc]
    exact (hc.append (.word (by decide))).append hx
  · exact hc

private theorem plain_joinsFrom {index : Nat} {joined : List String} {js : List JoinDefinition}
    {joins : List Join} (hjs : ∀ j ∈ js, j ∈ t.config.joins)
    (h : t.joinsFrom index joined js = .ok joins) :
    ∀ j ∈ joins, Token.Plain (t.lexicon page) j.tokens := by
  induction js generalizing index joined joins with
  | nil =>
    cases h
    exact fun j hj ↦ absurd hj List.not_mem_nil
  | cons d rest ih =>
    rw [joinsFrom] at h
    obtain ⟨left, hl, h⟩ := Except.bind_eq_ok_iff.mp h
    obtain ⟨right, hr, h⟩ := Except.bind_eq_ok_iff.mp h
    obtain ⟨more, hm, h⟩ := Except.bind_eq_ok_iff.mp h
    cases h
    intro j hj
    rcases List.mem_cons.mp hj with rfl | hj
    · have hl := List.mem_of_find?_eq_some (joinSide_eq_ok_iff.mp hl)
      have hr := List.mem_of_find?_eq_some (joinSide_eq_ok_iff.mp hr)
      have hon : (t.lexicon page).Leads (joinCondition left right d) :=
        leads_joinCondition hl hr (hjs d List.mem_cons_self)
      have hk : Token.Plain (t.lexicon page) (d.kind.tokens ++ [.space, .join, .space]) := by
        cases d.kind <;> exact Token.plain_words (by decide)
      -- The side that has not been joined yet is the one that the join brings in.
      have ht : Token.Plain (t.lexicon page)
          (if joined.contains left.qualifier then right else left).ref.tokens := by
        split
        · exact plain_ref hr
        · exact plain_ref hl
      exact (hk.append ht).append
        (.append (a := [.space, .on, .space]) (Token.plain_words (by decide))
          (Token.plain_single hon))
    · exact ih (fun j hj ↦ hjs j (List.mem_cons_of_mem d hj)) hm j hj

private theorem names_of_outputName? {reference name : String}
    (h : t.outputName? reference = some name) :
    name ∈ t.names := by
  unfold outputName? at h
  split at h
  · next c hc =>
    cases h
    exact name_mem_names (List.mem_filter.mp (List.mem_of_find?_eq_some hc)).1
  · obtain ⟨a, ha, rfl⟩ := Option.map_eq_some_iff.mp h
    refine mem_names.mpr (.inr (.inr (.inr (.inr (.inr (.inr (.inr ⟨a, ?_, ?_⟩)))))))
    · exact List.mem_of_find?_eq_some ha
    · exact List.mem_cons_of_mem _ List.mem_cons_self

private theorem names_of_sortKeys {requested : List SortSpec} {keys : List SortKey}
    (h : t.sortKeys requested = .ok keys) :
    ∀ k ∈ keys, k.reference ∈ t.names ∧ ∀ o ∈ k.output, o ∈ t.names := by
  unfold sortKeys at h
  split at h
  · cases h
    refine List.forall_mem_map.mpr fun s hs ↦ ⟨?_, fun o ho ↦ names_of_outputName? ho⟩
    exact mem_names.mpr (.inr (.inr (.inr (.inr (.inl (List.mem_map_of_mem hs))))))
  · intro k hk
    obtain ⟨s, -, hs⟩ := exists_of_forall₂ (Except.forall₂_of_mapM h) hk
    obtain ⟨c, hc, hs⟩ := Except.bind_eq_ok_iff.mp hs
    cases hs
    have hn := name_mem_names (mem_of_findColumn? (sortColumn_eq_ok hc).1).1
    exact ⟨hn, by simpa using hn⟩

private theorem names_of_planPage {sorts : List SortKey}
    (hs : ∀ k ∈ sorts, ∀ o ∈ k.output, o ∈ t.names) {wish : Option PageRequest}
    {limits : PageLimits} {page : AppliedPage} {outputs : List SortSpec}
    (h : t.planPage sorts wish limits = .ok (some (page, outputs))) :
    ∀ s ∈ outputs, s.column ∈ t.names := by
  unfold planPage at h
  split at h
  · cases hm : sorts.mapM SortKey.outputSort with
    | error e =>
      rw [hm] at h
      cases h
    | ok found =>
      rw [hm] at h
      cases h
      intro s hmem
      obtain ⟨k, hk, ho⟩ := exists_of_forall₂ (Except.forall₂_of_mapM hm) hmem
      unfold SortKey.outputSort at ho
      split at ho
      · next column hc =>
        cases ho
        exact hs k hk column hc
      · cases ho
  · cases h

private theorem composed_resolveFilter (h : t.problems = []) {g f : FilterGroup}
    (hf : t.resolveFilter g = .ok f) :
    ∀ c ∈ f.leaves, Composed (t.lexicon page) [] c.column := by
  intro c hc
  obtain ⟨asked, -, column, hfind, -, rfl⟩ := exists_of_forall₂ (forall₂_resolveFilter hf).2 hc
  exact composed_reference h (mem_of_findColumn? hfind).1

end ReportTemplate

namespace StatementPlan

variable {p : StatementPlan} {t : ReportTemplate} {request : QueryRequest} {limits : PageLimits}
  {shown : Option AppliedPage}

/-- The columns of the filters of rows are written with names and expressions of the template. -/
theorem Checked.composed_rowFilters (h : p.Checked t request limits) :
    ∀ g ∈ p.rowFilters t, ∀ c ∈ g.leaves, Composed (t.lexicon shown) [] c.column := by
  intro g hg c hc
  rcases List.mem_append.mp hg with hg | hg
  · exact .name (ReportTemplate.mem_names.mpr
      (.inr (.inr (.inr (.inr (.inr
        (.inl ⟨g, Option.mem_toList.mp hg, List.mem_map_of_mem hc⟩)))))))
  · rcases h.resolveFilter with ⟨-, hn⟩ | ⟨asked, f, -, hs, hf⟩
    · rw [hn] at hg
      cases hg
    · rw [hs, Option.toList_some, List.mem_singleton] at hg
      subst hg
      exact ReportTemplate.composed_resolveFilter h.accepted hf c hc

/-- The columns of the condition on groups are names of the template. -/
theorem composed_having (t : ReportTemplate) :
    ∀ g ∈ t.config.having, ∀ c ∈ g.leaves, Composed (t.lexicon shown) [] c.column := by
  intro g hg c hc
  exact .name (ReportTemplate.mem_names.mpr
    (.inr (.inr (.inr (.inr (.inr (.inr (.inl ⟨g, hg, List.mem_map_of_mem hc⟩))))))))

private theorem Checked.plain_rows (h : p.Checked t request limits)
    (condition groupCondition : String) {order : List OrderItem}
    (ho : ∀ o ∈ order, Token.Plain (t.lexicon shown) o.tokens) :
    ((p.rows t condition groupCondition).orderBy order).Plain (t.lexicon shown) where
  items := ReportTemplate.plain_selectList h.accepted
  source := by
    intro s hs
    cases hs
    exact ReportTemplate.plain_ref (List.mem_of_mem_head? h.primary)
  joins := ReportTemplate.plain_joinsFrom (fun j hj ↦ hj) h.joins
  groups := List.forall_mem_map.mpr fun n hn ↦
    ColumnExpr.plain_column (.name (ReportTemplate.mem_names.mpr (.inr (.inr (.inr (.inl hn))))))
  order := ho
  limitOffset := by simp [rows, Query.orderBy]

/-- The text of a planned statement is put together from the clauses of the filters of rows and then
those of the condition on groups. -/
theorem Checked.composed_sql (h : p.Checked t request limits) (parameters : Fields) :
    Composed (t.lexicon (p.page.map (·.1)))
      (NumberedClause.numberFrom 1 (p.rowClauses t parameters ++ groupClauses t parameters))
      (p.statement t parameters).sql := by
  let x := t.lexicon (p.page.map (·.1))
  have hw := p.composed_whereText (x := x) parameters h.composed_rowFilters
  have hg := p.composed_havingText (x := x) parameters (composed_having t)
  have hk := ReportTemplate.names_of_sortKeys h.sorts
  have hbody {order : List OrderItem} (ho : ∀ o ∈ order, Token.Plain x o.tokens) :
      Composed x
        (NumberedClause.numberFrom 1 (p.rowClauses t parameters) ++
          NumberedClause.numberFrom (p.groupFirst t parameters) (groupClauses t parameters))
        ((p.rows t (p.whereText t parameters) (p.havingText t parameters)).orderBy order).sql := by
    rw [Query.sql, Query.tokens_eq_bodyTokens rfl]
    exact (h.plain_rows _ _ ho).composed_bodyTokens _ _ rfl hw rfl hg
  have hplain : ∀ o ∈ ([] : List OrderItem), Token.Plain x o.tokens := by simp
  rw [NumberedClause.numberFrom_append]
  cases hp : p.page with
  | none =>
    have hq : (p.statement t parameters).sql =
        ((p.rows t (p.whereText t parameters) (p.havingText t parameters)).orderBy
          (p.sorts.map (·.item))).sql := by rw [AssembledQuery.sql, statement, query, hp]
    rw [hq, ← hp]
    exact hbody (List.forall_mem_map.mpr fun k hm ↦
      plain_orderItem (ColumnExpr.plain_column (.name (hk k hm).1)) k.direction)
  | some found =>
    obtain ⟨page, outputs⟩ := found
    have hq : (p.statement t parameters).sql =
        ((p.rows t (p.whereText t parameters) (p.havingText t parameters)).paged
          outputs page).sql := by
      rw [AssembledQuery.sql, statement, query, hp]
    have hs : ∀ s ∈ outputs, s.column ∈ t.names :=
      ReportTemplate.names_of_planPage (fun k hm ↦ (hk k hm).2) (h.page.trans (congrArg _ hp))
    have hn : ∀ n ∈ [page.pageSize, page.offset], n ∈ x.numbers := by
      simp [x, ReportTemplate.lexicon, hp]
    rw [hq, ← hp]
    exact Query.composed_paged (hbody hplain) (fun s hm ↦ .name (hs s hm)) hn

end StatementPlan

end TabularReport

import TabularReport.Proofs.Statement.Resolution
import TabularReport.Proofs.Validation.Names

/-!
# Names in scope

A statement introduces the qualifier of the primary source by `FROM` and one more qualifier by each
join. A join brings in the side that is not there yet and compares it with the side that is; a
column of a source is read under the qualifier of the source. What is said of a join here supposes
that one of its sides has been introduced before it, and what is said of all qualifiers together
that no join finds both of its sides introduced.
-/

namespace TabularReport

/-- The name that qualifies the columns of a relation in a statement. -/
def TableRef.qualifier (r : TableRef) : String := r.aliasName.getD r.table

/-- A source is qualified in a statement as it is in its template. -/
@[simp] theorem DataSource.qualifier_ref (s : DataSource) : s.ref.qualifier = s.qualifier := rfl

/-- The qualifier that an expression is written with. -/
def ColumnExpr.qualifier? : ColumnExpr → Option String
  | .column qualifier _ => qualifier
  | .star qualifier => qualifier
  | .raw _ => none

namespace Query

/-- The qualifiers that a query introduces, that of `FROM` first and then that of each join. -/
def qualifiers (q : Query) : List String :=
  q.source.toList.map (·.qualifier) ++ q.joins.map (·.table.qualifier)

/-- The qualifiers that a query introduces before its join of an index. -/
def introducedBefore (q : Query) (index : Nat) : List String := q.qualifiers.take (index + 1)

/-- The qualifiers that the select list and the order of a query are written with. -/
def references (q : Query) : List String :=
  q.items.filterMap (·.expr.qualifier?) ++ q.order.filterMap (·.expr.qualifier?)

/-- Whether a query introduces each qualifier once, and those that it is written with among them. -/
structure IsScoped (q : Query) : Prop where
  distinct : q.qualifiers.Nodup
  introduced : ∀ n ∈ q.references, n ∈ q.qualifiers

/-- The query that reads the sources of a report: the one that a page is taken from, or else the
whole. -/
def report (q : Query) : Query :=
  ((q.ctes.find? (·.1 == rowsRelation)).map (·.2)).getD q

end Query

namespace JoinDefinition

/-- The qualifiers of the sides of a join. -/
def qualifiers (t : ReportTemplate) (j : JoinDefinition) : List String :=
  ((t.findSource? j.leftSource).toList ++ (t.findSource? j.rightSource).toList).map (·.qualifier)

private theorem qualifiers_eq {t : ReportTemplate} {j : JoinDefinition} {left right : DataSource}
    (hl : t.findSource? j.leftSource = some left) (hr : t.findSource? j.rightSource = some right) :
    j.qualifiers t = [left.qualifier, right.qualifier] := by
  rw [qualifiers, hl, hr]
  rfl

/-- Whether a side of a join is among the qualifiers before it. -/
def IsAttached (t : ReportTemplate) (before : List String) (j : JoinDefinition) : Prop :=
  ∃ n ∈ j.qualifiers t, n ∈ before

/-- Whether both sides of a join are among the qualifiers before it. -/
def IsRedundant (t : ReportTemplate) (before : List String) (j : JoinDefinition) : Prop :=
  ∀ n ∈ j.qualifiers t, n ∈ before

instance (t : ReportTemplate) (before : List String) (j : JoinDefinition) :
    Decidable (j.IsRedundant t before) :=
  inferInstanceAs (Decidable (∀ n ∈ j.qualifiers t, n ∈ before))

/-- A join as a definition asks for it: it brings in one of the two declared sources and compares
their columns. -/
def Yields (t : ReportTemplate) (j : JoinDefinition) (join : Join) : Prop :=
  ∃ left right, t.findSource? j.leftSource = some left ∧ t.findSource? j.rightSource = some right ∧
    join.kind = j.kind ∧ (join.table = left.ref ∨ join.table = right.ref) ∧
    join.on = some (ReportTemplate.joinCondition left right j)

end JoinDefinition

/-- The side of a join that is brought in: the right one when the left one is there already. -/
def newSide (before : List String) (left right : DataSource) : DataSource :=
  if left.qualifier ∈ before then right else left

section newSide

variable {before : List String} {left right : DataSource}

private theorem newSide_eq_or (before : List String) (left right : DataSource) :
    newSide before left right = left ∨ newSide before left right = right := by
  unfold newSide
  split
  · exact .inr rfl
  · exact .inl rfl

private theorem mem_append_newSide (h : left.qualifier ∈ before ∨ right.qualifier ∈ before) :
    left.qualifier ∈ before ++ [(newSide before left right).qualifier] ∧
      right.qualifier ∈ before ++ [(newSide before left right).qualifier] := by
  unfold newSide
  by_cases hl : left.qualifier ∈ before
  · simp [hl]
  · simp [hl, h.resolve_left hl]

private theorem newSide_not_mem (h : ¬ (left.qualifier ∈ before ∧ right.qualifier ∈ before)) :
    (newSide before left right).qualifier ∉ before := by
  unfold newSide
  by_cases hl : left.qualifier ∈ before
  · rw [if_pos hl]
    exact fun hr ↦ h ⟨hl, hr⟩
  · rw [if_neg hl]
    exact hl

end newSide

/-- Whether joins follow from join definitions, one by one, when some qualifiers were introduced
before them. -/
inductive JoinsOnto (t : ReportTemplate) : List String → List JoinDefinition → List Join → Prop
  | nil {before : List String} : JoinsOnto t before [] []
  | cons {before : List String} {j : JoinDefinition} {left right : DataSource}
      {rest : List JoinDefinition} {more : List Join} :
      t.findSource? j.leftSource = some left → t.findSource? j.rightSource = some right →
      JoinsOnto t (before ++ [(newSide before left right).qualifier]) rest more →
      JoinsOnto t before (j :: rest)
        (⟨j.kind, (newSide before left right).ref,
          some (ReportTemplate.joinCondition left right j)⟩ :: more)

namespace ReportTemplate

variable {t : ReportTemplate}

/-- The joins of a statement follow from the definitions of its template. -/
theorem joinsOnto_of_joinsFrom {index : Nat} {joined before : List String}
    {js : List JoinDefinition} {joins : List Join} (hb : ∀ n, n ∈ joined ↔ n ∈ before)
    (h : t.joinsFrom index joined js = .ok joins) : JoinsOnto t before js joins := by
  induction js generalizing index joined before joins with
  | nil =>
    cases h
    exact .nil
  | cons j rest ih =>
    rw [joinsFrom] at h
    obtain ⟨left, hl, h⟩ := Except.bind_eq_ok_iff.mp h
    obtain ⟨right, hr, h⟩ := Except.bind_eq_ok_iff.mp h
    obtain ⟨more, hm, h⟩ := Except.bind_eq_ok_iff.mp h
    cases h
    have hnew : (if joined.contains left.qualifier then right else left) =
        newSide before left right := by
      simp only [newSide, List.contains_iff_mem, hb]
    rw [hnew] at hm ⊢
    refine .cons (joinSide_eq_ok_iff.mp hl) (joinSide_eq_ok_iff.mp hr) (ih (fun n ↦ ?_) hm)
    rw [List.mem_cons, hb, List.mem_append, List.mem_singleton, or_comm]

end ReportTemplate

namespace JoinsOnto

variable {t : ReportTemplate} {before : List String} {js : List JoinDefinition} {joins : List Join}

/-- Each join is what its definition asks for. -/
theorem forall₂_yields (h : JoinsOnto t before js joins) :
    List.Forall₂ (JoinDefinition.Yields t) js joins := by
  induction h with
  | nil => exact .nil
  | @cons before j left right rest more hl hr _ ih =>
    refine .cons ⟨left, right, hl, hr, rfl, ?_, rfl⟩ ih
    exact (newSide_eq_or before left right).imp (congrArg DataSource.ref) (congrArg DataSource.ref)

private theorem mem_of_isAttached (h : JoinsOnto t before js joins) {i : Nat} {j : JoinDefinition}
    (hj : js[i]? = some j)
    (ha : j.IsAttached t (before ++ (joins.map (·.table.qualifier)).take i)) :
    ∀ n ∈ j.qualifiers t, n ∈ before ++ (joins.map (·.table.qualifier)).take (i + 1) := by
  -- The join at the head is done here; each later one sees its qualifier among those before it.
  induction h generalizing i with
  | nil => cases hj
  | @cons before d left right rest more hl hr _ ih =>
    cases i with
    | zero =>
      cases hj
      have hd := JoinDefinition.qualifiers_eq hl hr
      rw [List.take_zero, List.append_nil] at ha
      rw [JoinDefinition.IsAttached, hd] at ha
      have hm := mem_append_newSide (by simpa using ha)
      rw [hd]
      simpa using hm
    | succ i =>
      rw [List.map_cons, List.take_succ_cons, List.append_cons] at ha ⊢
      exact ih hj ha

private theorem nodup (h : JoinsOnto t before js joins) (hb : before.Nodup)
    (hn : ∀ (i : Nat) (j : JoinDefinition), js[i]? = some j →
      ¬ j.IsRedundant t (before ++ (joins.map (·.table.qualifier)).take i)) :
    (before ++ joins.map (·.table.qualifier)).Nodup := by
  induction h with
  | nil => simpa using hb
  | @cons before d left right rest more hl hr _ ih =>
    rw [List.map_cons, List.append_cons]
    have hd : ¬ (left.qualifier ∈ before ∧ right.qualifier ∈ before) := by
      have h0 := hn 0 d rfl
      rw [JoinDefinition.IsRedundant, JoinDefinition.qualifiers_eq hl hr] at h0
      simpa using h0
    refine ih (List.nodup_append.mpr ⟨hb, by simp, ?_⟩) fun i j hj ↦ ?_
    · rintro n hm _ hs rfl
      rw [List.mem_singleton.mp hs] at hm
      exact newSide_not_mem hd hm
    · have hs := hn (i + 1) j hj
      rwa [List.map_cons, List.take_succ_cons, List.append_cons] at hs

end JoinsOnto

private theorem Query.isScoped_paged (inner : Query) (sorts : List SortSpec) (page : AppliedPage) :
    (inner.paged sorts page).IsScoped ∧
      ∀ cte ∈ (inner.paged sorts page).ctes, cte.1 = rowsRelation ∨ cte.2.IsScoped := by
  have hnone (sorts : List SortSpec) :
      (sorts.map fun s ↦ (⟨.column none s.column, s.direction⟩ : OrderItem)).filterMap
        (·.expr.qualifier?) = [] := by
    simp [ColumnExpr.qualifier?]
  constructor
  · have hq : (inner.paged sorts page).qualifiers = [countRelation, pageRelation] := rfl
    refine ⟨by rw [hq]; decide, fun n hn ↦ ?_⟩
    rw [hq]
    rcases List.mem_append.mp hn with hn | hn
    · have hi : n ∈ [pageRelation, countRelation] := hn
      rwa [List.mem_pair, or_comm, ← List.mem_pair] at hi
    · obtain ⟨o, ho, hn⟩ := List.mem_filterMap.mp hn
      obtain ⟨s, -, rfl⟩ := List.mem_map.mp ho
      cases hn
      decide
  · intro cte hc
    have hc : cte ∈ [_, _, _] := hc
    rw [List.mem_cons, List.mem_pair] at hc
    rcases hc with rfl | rfl | rfl
    · exact .inl rfl
    · exact .inr ⟨List.pairwise_singleton _ _, fun n hn ↦ absurd hn List.not_mem_nil⟩
    · refine .inr ⟨List.pairwise_singleton _ _, fun n hn ↦ ?_⟩
      rw [Query.references, hnone, List.append_nil] at hn
      exact hn

namespace ReportTemplate

/-- How a query over the sources of a template introduces their qualifiers and is written with
them: each once unless a join is redundant, and in time for each join that is attached. -/
structure Scopes (t : ReportTemplate) (request : QueryRequest) (limits : PageLimits) (q : Query) :
    Prop where
  source : q.source = t.primarySource?.map (·.ref)
  joins : List.Forall₂ (JoinDefinition.Yields t) t.config.joins q.joins
  distinct : (∀ (i : Nat) (j : JoinDefinition), t.config.joins[i]? = some j →
    ¬ j.IsRedundant t (q.introducedBefore i)) → q.qualifiers.Nodup
  conditions : ∀ (i : Nat) (j : JoinDefinition), t.config.joins[i]? = some j →
    j.IsAttached t (q.introducedBefore i) → ∀ n ∈ j.qualifiers t, n ∈ q.introducedBefore (i + 1)
  /-- A column of a source is read under the qualifier of the source. -/
  columns : ∀ c ∈ t.config.columns, c.expression = none → ∀ name, c.source = some name →
    ∃ s, t.findSource? name = some s ∧ t.reference c = .column (some s.qualifier) c.storageName ∧
      (t.primarySource? = some s ∨ (∃ (i : Nat) (j : JoinDefinition), t.config.joins[i]? = some j ∧
        j.IsAttached t (q.introducedBefore i) ∧ s.qualifier ∈ j.qualifiers t) →
          s.qualifier ∈ q.qualifiers)
  /-- What is qualified in the select list is a column of a source. -/
  items : ∀ item ∈ q.items, ∀ n, item.expr.qualifier? = some n → ∃ c ∈ t.config.columns,
    c.expression = none ∧ (∃ name, c.source = some name) ∧ item.expr = t.reference c
  /-- The filter of a request is compiled with the references of the columns that it names. -/
  filters : ∃ p : StatementPlan, p.Checked t request limits ∧
    q.condition = Text.unlessEmpty (p.whereText t request.parameters) ∧
    List.Forall₂ t.Resolves request.leaves (p.filters.toList.flatMap (·.leaves))

variable {t : ReportTemplate}

/-- A column of a declared source is read under the qualifier of the source. -/
theorem reference_of_findSource? {c : ColumnDefinition} {name : String} {s : DataSource}
    (he : c.expression = none) (hs : c.source = some name) (hf : t.findSource? name = some s) :
    t.reference c = .column (some s.qualifier) c.storageName := by
  simp only [reference, he, hs, hf, Option.map_some, Option.getD_some]

private theorem exists_column_of_selectList {item : SelectItem} (hm : item ∈ t.selectList)
    {n : String} (hn : item.expr.qualifier? = some n) :
    ∃ c ∈ t.config.columns, c.expression = none ∧ (∃ name, c.source = some name) ∧
      item.expr = t.reference c := by
  rcases List.mem_append.mp hm with hm | hm
  · obtain ⟨c, hc, rfl⟩ := List.mem_map.mp hm
    have hexpr : (t.selectColumn c).expr = t.reference c := by
      unfold selectColumn
      dsimp only
      split <;> rfl
    rw [hexpr] at hn ⊢
    refine ⟨c, (List.mem_filter.mp hc).1, ?_⟩
    unfold reference at hn
    split at hn
    · cases hn
    · next name he hs => exact ⟨he, ⟨name, hs⟩, rfl⟩
    · cases hn
  · obtain ⟨a, -, rfl⟩ := List.mem_map.mp hm
    cases hn

end ReportTemplate

private theorem StatementPlan.report_query (p : StatementPlan) (t : ReportTemplate)
    (condition groupCondition : String) :
    ∃ order, (p.query t condition groupCondition).report =
      (p.rows t condition groupCondition).orderBy order := by
  unfold query
  split
  · exact ⟨[], rfl⟩
  · exact ⟨p.sorts.map (·.item), rfl⟩

/-- The query over the sources of a written plan has the conditions of the plan. -/
theorem StatementPlan.conditions_report (p : StatementPlan) (t : ReportTemplate)
    (parameters : Fields) :
    (p.statement t parameters).query.report.condition =
        Text.unlessEmpty (p.whereText t parameters) ∧
      (p.statement t parameters).query.report.groupCondition =
        Text.unlessEmpty (p.havingText t parameters) := by
  obtain ⟨order, horder⟩ := p.report_query t (p.whereText t parameters) (p.havingText t parameters)
  rw [statement, horder]
  exact ⟨rfl, rfl⟩

/-- The query over the sources of an assembled statement introduces their qualifiers and is written
with them; what is wrapped around it to cut a page is scoped. -/
theorem ReportTemplate.scopes_assemble {t : ReportTemplate} {request : QueryRequest}
    {limits : PageLimits} {a : AssembledQuery} (h : t.assemble request limits = .ok a) :
    t.Scopes request limits a.query.report ∧
      (a.query.ctes ≠ [] → a.query.IsScoped ∧
        ∀ cte ∈ a.query.ctes, cte.1 = rowsRelation ∨ cte.2.IsScoped) := by
  obtain ⟨p, hp, rfl⟩ := exists_plan_of_assemble h
  have honto : JoinsOnto t [p.primary.qualifier] t.config.joins p.joins :=
    joinsOnto_of_joinsFrom (fun n ↦ Iff.rfl) hp.joins
  constructor
  · obtain ⟨order, horder⟩ := p.report_query t (p.whereText t request.parameters)
      (p.havingText t request.parameters)
    have hq : (p.statement t request.parameters).query.report.qualifiers =
        [p.primary.qualifier] ++ p.joins.map (·.table.qualifier) := by
      rw [StatementPlan.statement, horder]
      rfl
    have hb (i : Nat) : (p.statement t request.parameters).query.report.introducedBefore i =
        [p.primary.qualifier] ++ (p.joins.map (·.table.qualifier)).take i := by
      rw [Query.introducedBefore, hq, List.singleton_append, List.take_succ_cons]
      rfl
    have hmem : ∀ n, n ∈ (p.statement t request.parameters).query.report.qualifiers ↔
        n = p.primary.qualifier ∨ n ∈ p.joins.map (·.table.qualifier) := by
      intro n
      rw [hq, List.singleton_append, List.mem_cons]
    constructor
    case source =>
      rw [StatementPlan.statement, horder, hp.primary]
      rfl
    case joins =>
      rw [StatementPlan.statement, horder]
      exact honto.forall₂_yields
    case distinct =>
      intro hn
      rw [hq]
      refine honto.nodup (by simp) fun i j hj ↦ ?_
      rw [← hb]
      exact hn i j hj
    case conditions =>
      intro i j hj ha
      rw [hb] at ha ⊢
      exact honto.mem_of_isAttached hj ha
    case columns =>
      intro c hc he name hs
      obtain ⟨again, hproblems⟩ := column_problems hp.accepted hc
      obtain ⟨s, hf⟩ := ColumnDefinition.findSource?_of_problems hproblems he hs
      refine ⟨s, hf, reference_of_findSource? he hs hf, ?_⟩
      rintro (hprimary | ⟨i, j, hj, ha, hm⟩)
      · cases hp.primary.symm.trans hprimary
        exact (hmem _).mpr (.inl rfl)
      · rw [hb] at ha
        have hin := honto.mem_of_isAttached hj ha _ hm
        rw [hq]
        exact List.mem_append.mpr ((List.mem_append.mp hin).imp_right List.mem_of_mem_take)
    case items =>
      rw [StatementPlan.statement, horder]
      exact fun item hm n hn ↦ exists_column_of_selectList hm hn
    case filters =>
      exact ⟨p, hp, (p.conditions_report t request.parameters).1, hp.forall₂_leaves⟩
  · intro hne
    rw [StatementPlan.statement, StatementPlan.query] at hne ⊢
    split at hne
    · next page outputs hpage =>
      exact Query.isScoped_paged _ outputs page
    · exact absurd rfl hne

/-- Orders with their customers and the regions of these; the last join names its new source on the
left. -/
def regionsOfOrders : ReportTemplate :=
  { id := "orders"
    name := "Orders"
    dataSources :=
      [{ name := "orders", aliasName := some "o" }, { name := "customers" }, { name := "regions" }]
    config :=
      { columns := [{ name := "total", source := some "orders" },
          { name := "region", source := some "regions", column := some "name", filterable := true }]
        joins := [⟨"orders", "customer_id", "customers", "id", .inner, none⟩,
          ⟨"regions", "id", "customers", "region_id", .left, none⟩] } }

/-- A request for the orders of the north. -/
def northOfOrders : QueryRequest :=
  { filters := some
      { nodes := [.leaf { column := "region", operator := .equal
                          value := some (.string "north") }] } }

/-- Each source of the regions of orders is introduced once, and before it is used. -/
theorem scopes_regionsOfOrders :
    ∃ a, regionsOfOrders.assemble northOfOrders {} = .ok a ∧
      a.query.report.qualifiers = ["o", "customers", "regions"] ∧
      regionsOfOrders.Scopes northOfOrders {} a.query.report ∧
      a.query.report.qualifiers.Nodup := by
  have hok : ((regionsOfOrders.assemble northOfOrders {}).toOption.map
      (·.query.report.qualifiers)) = some ["o", "customers", "regions"] := by
    decide +kernel
  obtain ⟨a, ha, hq⟩ := Except.exists_ok_of_toOption hok
  have hs := (ReportTemplate.scopes_assemble ha).1
  refine ⟨a, ha, hq, hs, hs.distinct fun i j hj ↦ ?_⟩
  rw [Query.introducedBefore, hq]
  match i, hj with
  | 0, hj =>
    cases hj
    decide
  | 1, hj =>
    cases hj
    decide

/-- Orders with the regions of their customers, joined from the far end, and with the level of a
stock that no join brings in. -/
def stockOfOrders : ReportTemplate :=
  { id := "orders"
    name := "Orders"
    dataSources := [.table "orders", .table "customers", .table "regions", .table "stock"]
    config :=
      { columns := [{ name := "region", source := some "regions", column := some "name" },
          { name := "level", source := some "stock" }]
        joins := [⟨"customers", "region_id", "regions", "id", .inner, none⟩,
          ⟨"orders", "customer_id", "customers", "id", .inner, none⟩] } }

/-- The statement of an accepted template can join one source twice, compare it with a source that
is not there, and read a column of a source that is never there. -/
theorem unscoped_stockOfOrders :
    stockOfOrders.problems = [] ∧
      ∃ a, stockOfOrders.assemble {} {} = .ok a ∧
        a.query.qualifiers = ["orders", "customers", "customers"] ∧ ¬ a.query.qualifiers.Nodup ∧
        a.query.joins.map (·.on) =
          [some "customers.region_id = regions.id", some "orders.customer_id = customers.id"] ∧
        "regions" ∉ a.query.qualifiers ∧
        a.query.items.map (·.expr) =
          [.column (some "regions") "name", .column (some "stock") "level"] ∧
        "stock" ∉ a.query.qualifiers := by
  have hok : (stockOfOrders.assemble {} {}).toOption.map
        (fun a ↦ (a.query.qualifiers, a.query.joins.map (·.on), a.query.items.map (·.expr))) =
      some (["orders", "customers", "customers"],
        [some "customers.region_id = regions.id", some "orders.customer_id = customers.id"],
        [.column (some "regions") "name", .column (some "stock") "level"]) := by
    decide +kernel
  obtain ⟨a, ha, hparts⟩ := Except.exists_ok_of_toOption hok
  simp only [Prod.mk.injEq] at hparts
  obtain ⟨hq, hon, hitems⟩ := hparts
  refine ⟨by decide +kernel, a, ha, hq, ?_, hon, ?_, hitems, ?_⟩ <;> rw [hq] <;> decide

end TabularReport

import Mathlib.Data.List.Forall2
import TabularReport.Proofs.Statement.Plan

/-!
# Names that a request uses

The filters and sorts of a request name declared columns. A filter keeps its shape while the names
in it are replaced by expressions, condition by condition; nothing else of a condition changes.
-/

namespace TabularReport

/-- A step after another one succeeds exactly when both do. -/
theorem Except.bind_eq_ok_iff {ε α β : Type} {x : Except ε α} {f : α → Except ε β} {b : β} :
    (x >>= f) = .ok b ↔ ∃ a, x = .ok a ∧ f a = .ok b := by
  cases x with
  | error e =>
    constructor
    · intro h
      cases h
    · rintro ⟨a, ha, -⟩
      cases ha
  | ok a =>
    constructor
    · intro h
      exact ⟨a, rfl, h⟩
    · rintro ⟨a', ha, h⟩
      cases ha
      exact h

/-- What a computation yields is its value when it succeeds. -/
theorem Except.toOption_eq_some_iff {ε α : Type} {x : Except ε α} {a : α} :
    x.toOption = some a ↔ x = .ok a := by
  cases x <;> simp [Except.toOption]

/-- A computation whose result is known has succeeded. -/
theorem Except.exists_ok_of_toOption {ε α β : Type} {x : Except ε α} {f : α → β} {b : β}
    (h : x.toOption.map f = some b) : ∃ a, x = .ok a ∧ f a = b := by
  cases x with
  | error e => cases h
  | ok a => exact ⟨a, rfl, Option.some.inj h⟩

/-- A step for something that is there succeeds with what it yields. -/
theorem Except.mapM_some_eq_ok_iff {ε α β : Type} {f : α → Except ε β} {a : α} {m : Option β} :
    (some a).mapM f = .ok m ↔ ∃ b, f a = .ok b ∧ m = some b := by
  rw [Option.mapM_some]
  cases f a with
  | error e => simp
  | ok b => simp [eq_comm]

/-- Steps for each element of a list succeed one by one. -/
theorem Except.forall₂_of_mapM {ε α β : Type} {f : α → Except ε β} {l : List α} {m : List β}
    (h : l.mapM f = .ok m) : List.Forall₂ (fun a b ↦ f a = .ok b) l m := by
  induction l generalizing m with
  | nil =>
    cases h
    exact .nil
  | cons a rest ih =>
    rw [List.mapM_cons] at h
    obtain ⟨b, hb, h⟩ := bind_eq_ok_iff.mp h
    obtain ⟨more, hm, h⟩ := bind_eq_ok_iff.mp h
    cases h
    exact .cons hb (ih hm)

/-- What an element of the second of two related lists is related to. -/
theorem exists_of_forall₂ {α β : Type} {R : α → β → Prop} {l : List α} {m : List β}
    (h : List.Forall₂ R l m) {b : β} (hb : b ∈ m) : ∃ a ∈ l, R a b := by
  induction h with
  | nil => cases hb
  | cons hr _ ih =>
    rcases List.mem_cons.mp hb with rfl | hb
    · exact ⟨_, List.mem_cons_self, hr⟩
    · obtain ⟨a, ha, hr⟩ := ih hb
      exact ⟨a, List.mem_cons_of_mem _ ha, hr⟩

/-- Whether a condition results from one of a request: its column is declared and filterable, and
its expression stands in the place of its name. -/
def ReportTemplate.Resolves (t : ReportTemplate) (asked resolved : Condition) : Prop :=
  ∃ column, t.findColumn? asked.column = some column ∧ column.filterable = true ∧
    resolved = { asked with column := (t.reference column).sql }

namespace ReportTemplate

variable {t : ReportTemplate}

private theorem filterColumn_eq_ok {name : String} {column : ColumnDefinition}
    (h : t.filterColumn name = .ok column) :
    t.findColumn? name = some column ∧ column.filterable = true := by
  unfold filterColumn at h
  split at h
  · cases h
  · next c hc =>
    split at h
    · next hf =>
      cases h
      exact ⟨hc, hf⟩
    · cases h

/-- A column that may be sorted by is declared, sortable and visible. -/
theorem sortColumn_eq_ok {name : String} {column : ColumnDefinition}
    (h : t.sortColumn name = .ok column) :
    t.findColumn? name = some column ∧ column.sortable = true ∧ column.visible = true := by
  unfold sortColumn at h
  split at h
  · cases h
  · next c hc =>
    split at h
    · next hs =>
      cases h
      exact ⟨hc, by simpa using hs⟩
    · cases h

/-- A side of a join is the declared source that it names. -/
theorem joinSide_eq_ok_iff {index : Nat} {side source : String} {s : DataSource} :
    t.joinSide index side source = .ok s ↔ t.findSource? source = some s := by
  unfold joinSide
  cases t.findSource? source <;> simp

/-- A declared column that is found by its name is one of the columns and has this name. -/
theorem mem_of_findColumn? {name : String} {column : ColumnDefinition}
    (h : t.findColumn? name = some column) : column ∈ t.config.columns ∧ column.name = name := by
  have hn := List.find?_some h
  exact ⟨List.mem_of_find?_eq_some h, by simpa using hn⟩

mutual

private theorem forall₂_resolveNode :
    (n : FilterNode) → {m : FilterNode} → t.resolveNode n = .ok m →
    List.Forall₂ t.Resolves n.leaves m.leaves
  | .leaf c, m, h => by
    rw [resolveNode] at h
    obtain ⟨column, hc, h⟩ := Except.bind_eq_ok_iff.mp h
    obtain ⟨hf, hs⟩ := filterColumn_eq_ok hc
    cases h
    exact .cons ⟨column, hf, hs, rfl⟩ .nil
  | .group logic nodes, m, h => by
    rw [resolveNode] at h
    obtain ⟨ms, hm, h⟩ := Except.bind_eq_ok_iff.mp h
    cases h
    exact forall₂_resolveNodes nodes hm

private theorem forall₂_resolveNodes : (ns : List FilterNode) → {ms : List FilterNode} →
    t.resolveNodes ns = .ok ms →
    List.Forall₂ t.Resolves (FilterNode.leavesOf ns) (FilterNode.leavesOf ms)
  | [], ms, h => by
    cases h
    exact .nil
  | n :: rest, ms, h => by
    rw [resolveNodes] at h
    obtain ⟨m, hm, h⟩ := Except.bind_eq_ok_iff.mp h
    obtain ⟨more, hr, h⟩ := Except.bind_eq_ok_iff.mp h
    cases h
    exact List.rel_append (forall₂_resolveNode n hm) (forall₂_resolveNodes rest hr)

end

/-- The conditions of a resolved filter result from those of the request, in order. -/
theorem forall₂_resolveFilter {g f : FilterGroup} (h : t.resolveFilter g = .ok f) :
    f.logic = g.logic ∧ List.Forall₂ t.Resolves g.leaves f.leaves := by
  rw [resolveFilter] at h
  obtain ⟨ms, hm, h⟩ := Except.bind_eq_ok_iff.mp h
  cases h
  exact ⟨rfl, forall₂_resolveNodes g.nodes hm⟩

/-- A filter that is resolved names filterable columns. -/
theorem filterable_of_resolveFilter {g f : FilterGroup} (h : t.resolveFilter g = .ok f)
    {c : Condition} (hc : c ∈ g.leaves) {column : ColumnDefinition}
    (hf : t.findColumn? c.column = some column) : column.filterable = true := by
  obtain ⟨_, -, found, hfound, hs, -⟩ := exists_of_forall₂ (forall₂_resolveFilter h).2.flip hc
  cases hf.symm.trans hfound
  exact hs

private theorem resolveNode_leaf {n m : FilterNode} (h : t.resolveNode n = .ok m) :
    (∀ d, m = .leaf d → ∃ c, n = .leaf c ∧ t.Resolves c d) ∧
      ∀ c, n = .leaf c → ∃ d, m = .leaf d ∧ t.Resolves c d := by
  cases n with
  | leaf c =>
    rw [resolveNode] at h
    obtain ⟨column, hc, h⟩ := Except.bind_eq_ok_iff.mp h
    obtain ⟨hf, hs⟩ := filterColumn_eq_ok hc
    cases h
    have hr : t.Resolves c { c with column := (t.reference column).sql } := ⟨column, hf, hs, rfl⟩
    constructor
    · intro d hd
      cases hd
      exact ⟨c, rfl, hr⟩
    · intro c' hc'
      cases hc'
      exact ⟨_, rfl, hr⟩
  | group logic nodes =>
    rw [resolveNode] at h
    obtain ⟨ms, -, h⟩ := Except.bind_eq_ok_iff.mp h
    cases h
    constructor
    · intro d hd
      cases hd
    · intro c hc
      cases hc

private theorem forall₂_nodes {ns ms : List FilterNode} (h : t.resolveNodes ns = .ok ms) :
    List.Forall₂ (fun n m ↦ t.resolveNode n = .ok m) ns ms := by
  induction ns generalizing ms with
  | nil =>
    cases h
    exact .nil
  | cons n rest ih =>
    rw [resolveNodes] at h
    obtain ⟨m, hm, h⟩ := Except.bind_eq_ok_iff.mp h
    obtain ⟨more, hr, h⟩ := Except.bind_eq_ok_iff.mp h
    cases h
    exact .cons hm (ih hr)

/-- The conditions that a resolved filter joins itself result from those of the request. -/
theorem exists_leaf_resolveFilter {g f : FilterGroup} (h : t.resolveFilter g = .ok f)
    {P : Condition → Prop} :
    (∃ d, .leaf d ∈ f.nodes ∧ P d) ↔ ∃ c d, .leaf c ∈ g.nodes ∧ t.Resolves c d ∧ P d := by
  rw [resolveFilter] at h
  obtain ⟨ms, hm, h⟩ := Except.bind_eq_ok_iff.mp h
  cases h
  have hn := forall₂_nodes hm
  constructor
  · rintro ⟨d, hd, hp⟩
    obtain ⟨n, hmem, hr⟩ := exists_of_forall₂ hn hd
    obtain ⟨c, rfl, hc⟩ := (resolveNode_leaf hr).1 d rfl
    exact ⟨c, d, hmem, hc, hp⟩
  · rintro ⟨c, d, hmem, ⟨column, hf, hs, rfl⟩, hp⟩
    obtain ⟨m, hm, hr⟩ := exists_of_forall₂ hn.flip hmem
    obtain ⟨d, rfl, column', hf', hs', rfl⟩ := (resolveNode_leaf hr).2 c rfl
    cases hf.symm.trans hf'
    exact ⟨_, hm, hp⟩

end ReportTemplate

/-- The conditions of the filter of a request. -/
def QueryRequest.leaves (request : QueryRequest) : List Condition :=
  request.filters.toList.flatMap (·.leaves)

/-- A plan that all checks of a template and a request have led to. -/
structure StatementPlan.Checked (p : StatementPlan) (t : ReportTemplate) (request : QueryRequest)
    (limits : PageLimits) : Prop where
  accepted : t.problems = []
  filters : request.filters.mapM t.resolveFilter = .ok p.filters
  sorts : t.sortKeys request.sorting = .ok p.sorts
  primary : t.primarySource? = some p.primary
  joins : t.joinsFrom 0 [p.primary.qualifier] t.config.joins = .ok p.joins
  page : t.planPage p.sorts request.pagination limits = .ok p.page

private theorem ReportTemplate.checked_of_plan {t : ReportTemplate} {request : QueryRequest}
    {limits : PageLimits} {p : StatementPlan} (h : t.plan request limits = .ok p) :
    p.Checked t request limits := by
  unfold plan at h
  cases hp : t.problems with
  | cons e rest =>
    rw [hp] at h
    cases h
  | nil =>
    rw [hp] at h
    cases hs : t.selectList.isEmpty with
    | true =>
      rw [hs] at h
      cases h
    | false =>
      rw [hs] at h
      obtain ⟨filters, hf, h⟩ := Except.bind_eq_ok_iff.mp h
      obtain ⟨sorts, ho, h⟩ := Except.bind_eq_ok_iff.mp h
      split at h
      · next primary hprimary =>
        obtain ⟨joins, hj, h⟩ := Except.bind_eq_ok_iff.mp h
        obtain ⟨page, hpage, h⟩ := Except.bind_eq_ok_iff.mp h
        cases h
        exact ⟨hp, hf, ho, hprimary, hj, hpage⟩
      · cases h

namespace StatementPlan

variable {p : StatementPlan} {t : ReportTemplate} {request : QueryRequest} {limits : PageLimits}

/-- The filter of a request is resolved, or there is none. -/
theorem Checked.resolveFilter (h : p.Checked t request limits) :
    request.filters = none ∧ p.filters = none ∨
      ∃ g f, request.filters = some g ∧ p.filters = some f ∧ t.resolveFilter g = .ok f := by
  have hm := h.filters
  cases hr : request.filters with
  | none =>
    rw [hr] at hm
    exact .inl ⟨rfl, (Except.ok.inj hm).symm⟩
  | some g =>
    rw [hr] at hm
    obtain ⟨f, hf, hp⟩ := Except.mapM_some_eq_ok_iff.mp hm
    exact .inr ⟨g, f, rfl, hp, hf⟩

/-- The conditions of the request's filter are resolved one by one. -/
theorem Checked.forall₂_leaves (h : p.Checked t request limits) :
    List.Forall₂ t.Resolves request.leaves (p.filters.toList.flatMap (·.leaves)) := by
  rcases h.resolveFilter with ⟨hr, hp⟩ | ⟨g, f, hr, hp, hf⟩
  · rw [QueryRequest.leaves, hr, hp]
    exact .nil
  · rw [QueryRequest.leaves, hr, hp, Option.toList_some, Option.toList_some, List.flatMap_singleton,
      List.flatMap_singleton]
    exact (ReportTemplate.forall₂_resolveFilter hf).2

/-- The filter of a request names declared columns. -/
theorem Checked.column_of_leaf (h : p.Checked t request limits) {c : Condition}
    (hc : c ∈ request.leaves) :
    ∃ column ∈ t.config.columns, column.name = c.column := by
  obtain ⟨_, -, column, hf, -, -⟩ := exists_of_forall₂ h.forall₂_leaves.flip hc
  obtain ⟨hm, hn⟩ := ReportTemplate.mem_of_findColumn? hf
  exact ⟨column, hm, hn⟩

/-- The sorts of a request name declared columns. -/
theorem Checked.column_of_sort (h : p.Checked t request limits) {s : SortSpec}
    (hs : s ∈ request.sorting) : ∃ column ∈ t.config.columns, column.name = s.column := by
  have hk := h.sorts
  unfold ReportTemplate.sortKeys at hk
  split at hk
  · next he =>
    rw [List.isEmpty_iff.mp he] at hs
    cases hs
  · obtain ⟨_, -, hc⟩ := exists_of_forall₂ (Except.forall₂_of_mapM hk).flip hs
    obtain ⟨column, hc, -⟩ := Except.bind_eq_ok_iff.mp hc
    obtain ⟨hm, hn⟩ := ReportTemplate.mem_of_findColumn? (ReportTemplate.sortColumn_eq_ok hc).1
    exact ⟨column, hm, hn⟩

end StatementPlan

/-- An assembled statement is a written plan. -/
theorem ReportTemplate.exists_plan_of_assemble {t : ReportTemplate} {request : QueryRequest}
    {limits : PageLimits} {a : AssembledQuery} (h : t.assemble request limits = .ok a) :
    ∃ p : StatementPlan, p.Checked t request limits ∧ p.statement t request.parameters = a := by
  rw [assemble_eq] at h
  cases hp : t.plan request limits with
  | error e =>
    rw [hp] at h
    cases h
  | ok p =>
    rw [hp] at h
    exact ⟨p, checked_of_plan hp, Except.ok.inj h⟩

end TabularReport

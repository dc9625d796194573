import TabularReport.Proofs.Filter.Independence
import TabularReport.Proofs.Statement.Condition
import TabularReport.Proofs.Statement.Resolution

/-!
# Values and whole statements

Two runs of a template whose values have the same shape, condition by condition, end alike: with the
same statement, up to its parameters, or with the same error.
-/

namespace TabularReport

/-- Two results of which both are errors, the same one, or both are values in a relation. -/
inductive SameOutcome {ε α : Type} (R : α → α → Prop) : Except ε α → Except ε α → Prop
  | error (e : ε) : SameOutcome R (.error e) (.error e)
  | ok {a b : α} : R a b → SameOutcome R (.ok a) (.ok b)

namespace SameOutcome

variable {ε α β : Type} {R : α → α → Prop} {S : β → β → Prop}

/-- Steps that end alike after steps that do. -/
theorem bind {x y : Except ε α} {f g : α → Except ε β} (h : SameOutcome R x y)
    (hf : ∀ a b, R a b → SameOutcome S (f a) (g b)) : SameOutcome S (x >>= f) (y >>= g) := by
  cases h with
  | error e => exact .error e
  | ok hr => exact hf _ _ hr

/-- A step that is the same before steps that end alike. -/
theorem bind_left {x : Except ε α} {f g : α → Except ε β} (hf : ∀ a, SameOutcome S (f a) (g a)) :
    SameOutcome S (x >>= f) (x >>= g) := by
  cases x with
  | error e => exact .error e
  | ok a => exact hf a

private theorem map {x y : Except ε α} {f : α → β} (h : SameOutcome R x y)
    (hf : ∀ a b, R a b → S (f a) (f b)) :
    SameOutcome S (x.map f) (y.map f) := by
  cases h with
  | error e => exact .error e
  | ok hr => exact .ok (hf _ _ hr)

private theorem map_eq {x y : Except ε α} {f g : α → β} (h : SameOutcome R x y)
    (hf : ∀ a b, R a b → f a = g b) :
    x.map f = y.map g := by
  cases h with
  | error e => rfl
  | ok hr => exact congrArg _ (hf _ _ hr)

end SameOutcome

namespace ReportTemplate

variable {t : ReportTemplate} {p q : Fields}

mutual

private theorem sameOutcome_resolveNode : (m n : FilterNode) → m.Alike p q n →
    SameOutcome (FilterNode.Alike p q) (t.resolveNode m) (t.resolveNode n)
  | .leaf c, .leaf d, h => by
    rw [resolveNode, resolveNode, ← h.column]
    refine .bind_left fun column ↦ .ok ?_
    exact ⟨rfl, h.operator, h.parameterRef, h.shape⟩
  | .group logic ms, .group logic' ns, h => by
    rw [resolveNode, resolveNode]
    exact (sameOutcome_resolveNodes ms ns h.2).bind fun _ _ ha ↦ .ok ⟨h.1, ha⟩
  | .leaf _, .group _ _, h => h.elim
  | .group _ _, .leaf _, h => h.elim

private theorem sameOutcome_resolveNodes :
    (ms ns : List FilterNode) → FilterNode.AllAlike p q ms ns →
    SameOutcome (FilterNode.AllAlike p q) (t.resolveNodes ms) (t.resolveNodes ns)
  | [], [], _ => .ok trivial
  | m :: ms, n :: ns, h => by
    rw [resolveNodes, resolveNodes]
    exact (sameOutcome_resolveNode m n h.1).bind fun _ _ hm ↦
      (sameOutcome_resolveNodes ms ns h.2).bind fun _ _ hn ↦ .ok ⟨hm, hn⟩
  | [], _ :: _, h => h.elim
  | _ :: _, [], h => h.elim

end

end ReportTemplate

/-- Two filters, if there are any, that are alike in two runs. -/
def FilterGroup.BothAlike (p q : Fields) : Option FilterGroup → Option FilterGroup → Prop
  | none, none => True
  | some g, some h => g.Alike p q h
  | _, _ => False

/-- Two requests to run a template that differ in values of the same shape alone. -/
structure QueryRequest.Alike (t : ReportTemplate) (r s : QueryRequest) : Prop where
  sorting : r.sorting = s.sorting
  pagination : r.pagination = s.pagination
  filters : FilterGroup.BothAlike r.parameters s.parameters r.filters s.filters
  /-- The template's own conditions find values of the same shape in both requests. -/
  fixed : ∀ g ∈ t.config.filters.toList ++ t.config.having.toList, ∀ c ∈ g.leaves,
    c.operator.SameShape (c.value? r.parameters) (c.value? s.parameters)

/-- Two plans that differ in values of the request's filter alone. -/
structure StatementPlan.Alike (p q : Fields) (a b : StatementPlan) : Prop where
  filters : FilterGroup.BothAlike p q a.filters b.filters
  sorts : a.sorts = b.sorts
  primary : a.primary = b.primary
  joins : a.joins = b.joins
  page : a.page = b.page

namespace ReportTemplate

variable {t : ReportTemplate} {r s : QueryRequest}

private theorem sameOutcome_filters (h : r.Alike t s) :
    SameOutcome (FilterGroup.BothAlike r.parameters s.parameters) (r.filters.mapM t.resolveFilter)
      (s.filters.mapM t.resolveFilter) := by
  have hf := h.filters
  cases hr : r.filters with
  | none =>
    rw [hr] at hf
    cases hs : s.filters with
    | none => exact .ok trivial
    | some k =>
      rw [hs] at hf
      exact hf.elim
  | some g =>
    rw [hr] at hf
    cases hs : s.filters with
    | none =>
      rw [hs] at hf
      exact hf.elim
    | some k =>
      rw [hs] at hf
      have hk : SameOutcome (FilterGroup.Alike r.parameters s.parameters) (t.resolveFilter g)
          (t.resolveFilter k) := by
        rw [resolveFilter, resolveFilter]
        exact (sameOutcome_resolveNodes g.nodes k.nodes hf.2).bind fun _ _ hn ↦ .ok ⟨hf.1, hn⟩
      exact hk.map fun _ _ ha ↦ ha

private theorem sameOutcome_plan (h : r.Alike t s) (limits : PageLimits) :
    SameOutcome (StatementPlan.Alike r.parameters s.parameters) (t.plan r limits)
      (t.plan s limits) := by
  have hsort := h.sorting
  have hpage := h.pagination
  unfold plan
  cases t.problems with
  | cons e rest => exact .error e
  | nil =>
    cases t.selectList.isEmpty with
    | true => exact .error _
    | false =>
      refine (sameOutcome_filters h).bind fun f g hf ↦ ?_
      rw [hsort, hpage]
      refine .bind_left fun sorts ↦ ?_
      cases t.primarySource? with
      | none => exact .error _
      | some primary =>
        refine .bind_left fun joins ↦ ?_
        refine .bind_left fun page ↦ ?_
        exact .ok ⟨hf, rfl, rfl, rfl, rfl⟩

end ReportTemplate

/-- A statement without the values of its placeholders. -/
def AssembledQuery.withoutParams (a : AssembledQuery) : AssembledQuery := { a with params := [] }

private theorem compileFilters_of_alike {p q : Fields} {gs hs : List FilterGroup}
    (h : List.Forall₂ (FilterGroup.Alike p q) gs hs) (first : Nat) :
    ((compileFilters p first gs).1.map fun (logic, f) => (logic, f.sql)) =
        ((compileFilters q first hs).1.map fun (logic, f) => (logic, f.sql)) ∧
      (compileFilters p first gs).2 = (compileFilters q first hs).2 := by
  induction h generalizing first with
  | nil => exact ⟨rfl, rfl⟩
  | @cons g k gs ks hg _ ih =>
    obtain ⟨hs, hn⟩ := FilterGroup.compile_of_alike hg first
    obtain ⟨ht, hi⟩ := ih (k.compile q first).nextIndex
    rw [compileFilters, compileFilters]
    refine ⟨?_, ?_⟩
    · simp only [List.map_cons, hs, hn, ht, hg.1]
    · simp only [hn, hi]

namespace StatementPlan

variable {t : ReportTemplate} {p q : Fields} {a b : StatementPlan}

private theorem map_parts (a : StatementPlan) (t : ReportTemplate) (parameters : Fields) :
    ((a.parts t parameters).map fun (logic, f) => (logic, f.sql)) =
      ((compileFilters parameters 1 (a.rowFilters t)).1.map fun (logic, f) => (logic, f.sql)).filter
        fun (_, s) => !s.isEmpty := by
  rw [List.filter_map]
  rfl

private theorem Alike.rowFilters (h : a.Alike p q b)
    (hf : ∀ g ∈ t.config.filters, ∀ c ∈ g.leaves, c.operator.SameShape (c.value? p) (c.value? q)) :
    List.Forall₂ (FilterGroup.Alike p q) (a.rowFilters t) (b.rowFilters t) := by
  have hown : List.Forall₂ (FilterGroup.Alike p q) t.config.filters.toList
      t.config.filters.toList := by
    refine List.forall₂_same.mpr fun g hg ↦ FilterGroup.alike_self (hf g (Option.mem_toList.mp hg))
  have hasked : List.Forall₂ (FilterGroup.Alike p q) a.filters.toList b.filters.toList := by
    have hb := h.filters
    cases ha : a.filters with
    | none =>
      rw [ha] at hb
      cases hbf : b.filters with
      | none => exact .nil
      | some k =>
        rw [hbf] at hb
        exact hb.elim
    | some g =>
      rw [ha] at hb
      cases hbf : b.filters with
      | none =>
        rw [hbf] at hb
        exact hb.elim
      | some k =>
        rw [hbf] at hb
        exact .cons hb .nil
  exact List.rel_append hown hasked

private theorem Alike.withoutParams_eq (h : a.Alike p q b)
    (hf : ∀ g ∈ t.config.filters.toList ++ t.config.having.toList, ∀ c ∈ g.leaves,
      c.operator.SameShape (c.value? p) (c.value? q)) :
    (a.statement t p).withoutParams = (b.statement t q).withoutParams := by
  have hrows := h.rowFilters fun g hg ↦ hf g (List.mem_append_left _ (Option.mem_toList.mpr hg))
  obtain ⟨hs, hn⟩ := compileFilters_of_alike hrows 1
  have hw : a.whereText t p = b.whereText t q := by
    rw [whereText_eq_conjoin, whereText_eq_conjoin, map_parts, map_parts, hs]
  have hg : a.havingText t p = b.havingText t q := by
    rw [havingText, havingText, groupPart, groupPart, hn]
    cases hh : t.config.having with
    | none => rfl
    | some g =>
      have ha : g.Alike p q g := FilterGroup.alike_self (hf g (by simp [hh]))
      exact (FilterGroup.compile_of_alike ha _).1
  have hq : ∀ w g, a.query t w g = b.query t w g := by
    intro w g
    rw [query, query, rows, rows, h.page, h.primary, h.joins, h.sorts]
  simp only [statement, AssembledQuery.withoutParams, hw, hg, hq, h.page]

end StatementPlan

/-- Values do not influence a statement beyond their shape: runs that are alike lead to the same
statement and page, or to the same error. -/
theorem ReportTemplate.assemble_of_alike {t : ReportTemplate} {r s : QueryRequest} (h : r.Alike t s)
    (limits : PageLimits) :
    (t.assemble r limits).map (·.withoutParams) = (t.assemble s limits).map (·.withoutParams) := by
  have hmap : ∀ (x : Except ValidationError StatementPlan) (f : StatementPlan → AssembledQuery),
      (x.map f).map (·.withoutParams) = x.map fun p ↦ (f p).withoutParams := by
    intro x f
    cases x <;> rfl
  rw [assemble_eq, assemble_eq, hmap, hmap]
  exact (sameOutcome_plan h limits).map_eq fun _ _ ha ↦ ha.withoutParams_eq h.fixed

/-- A report on orders of some states. -/
def statesReport : ReportTemplate :=
  { id := "states"
    name := "States"
    dataSources := [.table "orders"]
    config :=
      { columns := [{ name := "total", filterable := true }]
        filters := some
          { nodes :=
              [.leaf { column := "state", operator := .isIn, parameterRef := some "states" }] } }
    parameters := [.named "states" .multiSelect] }

/-- A request for orders of two states with totals in a range. -/
def statesRequest (state low high : String) : QueryRequest :=
  { parameters := [("states", .array [.string "open", .string state])]
    filters := some
      { nodes :=
          [.leaf { column := "total", operator := .between
                   value := some (.object [("from", .string low), ("to", .string high)]) }] } }

/-- Other states and another range lead to the same statement. -/
theorem assemble_statesReport :
    (statesRequest "held" "1" "9").Alike statesReport (statesRequest "sent" "20" "30") ∧
      (statesReport.assemble (statesRequest "held" "1" "9") {}).toOption.isSome = true ∧
      (statesReport.assemble (statesRequest "held" "1" "9") {}).map (·.withoutParams) =
        (statesReport.assemble (statesRequest "sent" "20" "30") {}).map (·.withoutParams) := by
  have ha : (statesRequest "held" "1" "9").Alike statesReport (statesRequest "sent" "20" "30") :=
    { sorting := rfl
      pagination := rfl
      filters := ⟨rfl, ⟨rfl, rfl, rfl, rfl⟩, trivial⟩
      fixed := by
        intro g hg c hc
        cases List.mem_singleton.mp hg
        cases List.mem_singleton.mp hc
        rfl }
  exact ⟨ha, by decide +kernel, ReportTemplate.assemble_of_alike ha {}⟩

end TabularReport

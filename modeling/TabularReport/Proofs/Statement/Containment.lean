import TabularReport.Proofs.Statement.Exposure
import TabularReport.Proofs.Statement.Resolution

/-!
# Expressions in conditions

The name of a column in a filter of a request is replaced by the expression of the column, which is
written as the template has it. Whether the filter of the template stays a conjunct depends on the
connectives in this expression.
-/

namespace TabularReport

open Text

/-- Whether a column has an expression that is closed, or else is named by no connective. -/
structure ColumnDefinition.IsContained (c : ColumnDefinition) : Prop where
  closed : ∀ expression ∈ c.expression, isClosed expression = true
  named : c.expression = none → Mark.isConnective c.storageName.toList = false

instance (c : ColumnDefinition) : Decidable c.IsContained :=
  decidable_of_iff
    ((∀ expression ∈ c.expression, isClosed expression = true) ∧
      (c.expression = none → Mark.isConnective c.storageName.toList = false))
    ⟨fun h ↦ ⟨h.1, h.2⟩, fun h ↦ ⟨h.closed, h.named⟩⟩

private theorem Mark.IsColumn.exposesOr_eq_false {s : String} (h : IsColumn s.toList) :
    isClosed s = true ∧ exposesOr s = false := by
  obtain ⟨hc, hw⟩ := h.words_eq
  refine ⟨hc, List.any_eq_false.mpr ?_⟩
  rintro (_ | _ | w) hm he
  · cases he
  · cases he
  · have hp : isPlain (.word w) = true := hw _ hm
    rw [isPlain, Bool.not_eq_true'] at hp
    rw [isOr, (isKeyword_eq_false hp).2.1] at he
    cases he

private theorem ReportTemplate.exposesOr_reference {t : ReportTemplate} (h : t.problems = [])
    {c : ColumnDefinition} (hc : c ∈ t.config.columns) (hi : c.IsContained) :
    isClosed (t.reference c).sql = true ∧
      (exposesOr (t.reference c).sql = true ↔
        ∃ expression, c.expression = some expression ∧ exposesOr expression = true) := by
  cases he : c.expression with
  | some expression =>
    have hr : (t.reference c).sql = expression := by
      rw [reference, he]
      exact String.append_empty
    rw [hr]
    exact ⟨hi.closed expression he, by simp⟩
  | none =>
    obtain ⟨-, hcol⟩ := isColumn_reference h hc ⟨he, hi.named he⟩
    obtain ⟨hclosed, hexposes⟩ := hcol.exposesOr_eq_false
    exact ⟨hclosed, by simp [hexposes]⟩

namespace ReportTemplate

variable {t : ReportTemplate}

private theorem exposesOr_filters (h : t.problems = []) {own : FilterGroup}
    (hown : t.config.filters = some own)
    (hnames : ∀ c ∈ own.leaves, Mark.isConnective c.column.toList = false) :
    ∀ c ∈ own.leaves, isClosed c.column = true ∧ exposesOr c.column = false := by
  intro c hc
  have hs := isSafe_of_filters h (Option.mem_toList.mpr hown) c.column (List.mem_map_of_mem hc)
  exact (Identifier.isColumn_of_isSafe hs (hnames c hc)).2.exposesOr_eq_false

private theorem contributes_resolveFilter {g f : FilterGroup} (hf : t.resolveFilter g = .ok f)
    {parameters : Fields} (h : ∃ c ∈ g.leaves, ∃ vs, c.Contributes parameters vs) :
    ∃ d ∈ f.leaves, ∃ vs, d.Contributes parameters vs := by
  obtain ⟨c, hc, vs, hv⟩ := h
  obtain ⟨_, hd, _, -, -, rfl⟩ := exists_of_forall₂ (forall₂_resolveFilter hf).2.flip hc
  exact ⟨_, hd, vs, Condition.contributes_column.mpr hv⟩

private theorem isClosed_resolveFilter (h : t.problems = []) {g f : FilterGroup}
    (hf : t.resolveFilter g = .ok f)
    (hc : ∀ c ∈ g.leaves, ∀ column ∈ t.findColumn? c.column, column.IsContained) :
    ∀ d ∈ f.leaves, isClosed d.column = true := by
  intro d hd
  obtain ⟨c, hm, column, hfind, -, rfl⟩ := exists_of_forall₂ (forall₂_resolveFilter hf).2 hd
  exact (exposesOr_reference h (mem_of_findColumn? hfind).1 (hc c hm column hfind)).1

private theorem exposes_resolveFilter (h : t.problems = []) {g f : FilterGroup}
    (hf : t.resolveFilter g = .ok f)
    (hc : ∀ c ∈ g.leaves, ∀ column ∈ t.findColumn? c.column, column.IsContained)
    (parameters : Fields) :
    f.Exposes parameters ↔ g.logic = .and ∧
      ∃ c vs column expression, .leaf c ∈ g.nodes ∧ c.Contributes parameters vs ∧
        t.findColumn? c.column = some column ∧ column.expression = some expression ∧
        exposesOr expression = true := by
  rw [FilterGroup.Exposes, (forall₂_resolveFilter hf).1, exists_leaf_resolveFilter hf]
  refine and_congr_right fun _ ↦ ⟨?_, ?_⟩
  · rintro ⟨c, d, hm, ⟨column, hfind, -, rfl⟩, vs, hv, he⟩
    have hi := hc c (FilterNode.mem_leavesOf hm) column hfind
    obtain ⟨expression, hx, hor⟩ :=
      (exposesOr_reference h (mem_of_findColumn? hfind).1 hi).2.mp he
    exact ⟨c, vs, column, expression, hm, Condition.contributes_column.mp hv, hfind, hx, hor⟩
  · rintro ⟨c, vs, column, expression, hm, hv, hfind, hx, hor⟩
    have hi := hc c (FilterNode.mem_leavesOf hm) column hfind
    have he := (exposesOr_reference h (mem_of_findColumn? hfind).1 hi).2.mpr ⟨expression, hx, hor⟩
    have hs := filterable_of_resolveFilter hf (FilterNode.mem_leavesOf hm) hfind
    exact ⟨c, _, hm, ⟨column, hfind, hs, rfl⟩, vs, Condition.contributes_column.mpr hv, he⟩

/-- Where the filters of an accepted template and of a request both contribute, the condition on
rows has an `OR` outside of quotes and parentheses exactly when the filter of the request is a
conjunction and one of its own conditions is on a column whose expression has such an `OR`. -/
theorem exposesOr_assemble {request : QueryRequest} {limits : PageLimits} {a : AssembledQuery}
    (h : t.assemble request limits = .ok a) {own asked : FilterGroup}
    (hown : t.config.filters = some own) (hasked : request.filters = some asked)
    (howns : ∃ c ∈ own.leaves, ∃ vs, c.Contributes request.parameters vs)
    (haskeds : ∃ c ∈ asked.leaves, ∃ vs, c.Contributes request.parameters vs)
    (hnames : ∀ c ∈ own.leaves, Mark.isConnective c.column.toList = false)
    (hcontained : ∀ c ∈ asked.leaves, ∀ column ∈ t.findColumn? c.column, column.IsContained) :
    ∃ w, Token.conditions a.query.tokens = [w] ∧
      (exposesOr w = true ↔ asked.logic = .and ∧
        ∃ c vs column expression, .leaf c ∈ asked.nodes ∧ c.Contributes request.parameters vs ∧
          t.findColumn? c.column = some column ∧ column.expression = some expression ∧
          exposesOr expression = true) := by
  obtain ⟨p, hp, rfl⟩ := exists_plan_of_assemble h
  obtain ⟨f, hf, hpf⟩ : ∃ f, t.resolveFilter asked = .ok f ∧ p.filters = some f := by
    have hm := hp.filters
    rw [hasked] at hm
    exact Except.mapM_some_eq_ok_iff.mp hm
  have hrow : p.rowFilters t = [own, f] := by
    rw [StatementPlan.rowFilters, hown, hpf]
    rfl
  have hl : 1 < (p.remainders t request.parameters).length := by
    rw [StatementPlan.remainders, hrow]
    exact FilterGroup.one_lt_length_remainders howns (contributes_resolveFilter hf haskeds) 1
  have hnever := exposesOr_filters hp.accepted hown hnames
  have hclosed : ∀ g ∈ p.rowFilters t, ∀ c ∈ g.leaves, isClosed c.column = true := by
    rw [hrow, List.forall_mem_cons, List.forall_mem_singleton]
    exact ⟨fun c hc ↦ (hnever c hc).1, isClosed_resolveFilter hp.accepted hf hcontained⟩
  have hquiet : ¬ own.Exposes request.parameters := by
    rintro ⟨-, c, hm, _, -, he⟩
    rw [(hnever c (FilterNode.mem_leavesOf hm)).2] at he
    cases he
  refine ⟨p.whereText t request.parameters, ?_, ?_⟩
  · rw [p.conditions_statement, Text.unlessEmpty_of_ne (StatementPlan.whereText_ne_empty hl),
      Option.toList_some]
  · rw [StatementPlan.exposesOr_whereText hl hclosed, hrow,
      ← exposes_resolveFilter hp.accepted hf hcontained]
    simp [hquiet]

end ReportTemplate

/-- The orders of the north, with a column that flags large and disputed ones. -/
def flaggedReport : ReportTemplate :=
  { id := "orders"
    name := "Orders"
    dataSources := [.table "orders"]
    config :=
      { columns :=
          [{ name := "region" },
            { name := "flagged", expression := some "total > 1000 OR disputed = 1"
              filterable := true }]
        filters := some
          { nodes := [.leaf { column := "region", operator := .equal
                              value := some (.string "north") }] } } }

/-- A request for the flagged orders. -/
def flaggedRequest : QueryRequest :=
  { filters := some
      { nodes := [.leaf { column := "flagged", operator := .equal
                          value := some (.bool true) }] } }

/-- The condition on flagged orders has an `OR` outside of quotes and parentheses. -/
theorem exposesOr_flaggedReport :
    ∃ a w, flaggedReport.assemble flaggedRequest {} = .ok a ∧
      Token.conditions a.query.tokens = [w] ∧ exposesOr w = true := by
  have hok : ((flaggedReport.assemble flaggedRequest {}).toOption.map fun _ ↦ ()) = some () := by
    decide +kernel
  obtain ⟨a, ha, -⟩ := Except.exists_ok_of_toOption hok
  obtain ⟨w, hw, hor⟩ := ReportTemplate.exposesOr_assemble ha rfl rfl
    ⟨_, List.mem_singleton_self _, [.string "north"], .values rfl (.value rfl)⟩
    ⟨_, List.mem_singleton_self _, [.bool true], .values rfl (.value rfl)⟩
    (by decide) (by decide +kernel)
  refine ⟨a, w, ha, hw, hor.mpr ⟨rfl, ?_⟩⟩
  exact ⟨_, [.bool true], _, _, List.mem_singleton_self _, .values rfl (.value rfl), rfl, rfl,
    by decide +kernel⟩

/-- The request for flagged orders escapes the filter of the report: the condition on rows can hold
for an order that is not of the north. -/
theorem escapes_flaggedReport :
    (flaggedReport.assemble flaggedRequest {}).toOption.map
        (Token.conditions ·.query.tokens) =
      some ["region = $1 AND total > 1000 OR disputed = 1 = $2"] ∧
    exposesOr "region = $1 AND total > 1000 OR disputed = 1 = $2" = true ∧
    (readCondition? "region = $1 AND total > 1000 OR disputed = 1 = $2").map
        (·.eval fun atom ↦ decide (atom ≠ Mark.ofText "region = $1")) =
      some true := by
  decide +kernel

end TabularReport

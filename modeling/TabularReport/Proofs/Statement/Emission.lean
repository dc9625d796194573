import TabularReport.Proofs.Statement.Numbering
import TabularReport.Proofs.Statement.Scope

/-!
# Where a condition stands in a statement

A condition that contributes values is written into the text of its filter, and into that of each
statement of its template. Its placeholders go on from those of the conditions before it, so that
its place among the values is known.
-/

namespace TabularReport

open Placeholder

/-- Whether a text stands somewhere in another one. -/
def Text.Within (s t : String) : Prop := ∃ before after, t = before ++ s ++ after

namespace Text.Within

variable {s t : String}

/-- A text stands in itself. -/
theorem refl (s : String) : Within s s := ⟨"", "", by simp⟩

/-- What stands in a text stands in it with something in front. -/
theorem prepend (before : String) (h : Within s t) : Within s (before ++ t) := by
  obtain ⟨front, after, rfl⟩ := h
  exact ⟨before ++ front, after, by simp only [String.append_assoc]⟩

/-- What stands in a text stands in it with something behind. -/
theorem append (h : Within s t) (after : String) : Within s (t ++ after) := by
  obtain ⟨before, back, rfl⟩ := h
  exact ⟨before, back ++ after, by simp only [String.append_assoc]⟩

private theorem ne_empty (h : Within s t) (hs : s ≠ "") : t ≠ "" := by
  obtain ⟨before, after, rfl⟩ := h
  intro he
  exact hs (String.append_eq_empty_iff.mp (String.append_eq_empty_iff.mp he).1).2

end Text.Within

/-- How a clause stands in a text whose placeholders have the given values from an index on: it is
written there with one placeholder for each of its values, and these are the values that its
placeholders have. -/
structure NumberedClause.StandsIn (k : NumberedClause) (sql : String) (first : Nat)
    (params : List Json) : Prop where
  text : Text.Within k.text sql
  placeholders : digitsIn k.text.toList = digitsFrom k.first k.clause.values.length
  notBefore : first ≤ k.first
  bound : ∀ i < k.clause.values.length, params[k.first + i - first]? = k.clause.values[i]?

namespace Composed

variable {x : Lexicon} {k : NumberedClause}

private theorem within {ks : List NumberedClause} {s : String} (h : Composed x ks s) (hk : k ∈ ks) :
    Text.Within k.text s := by
  induction h with
  | nil => cases hk
  | piece _ _ ih => exact (ih hk).prepend _
  | authored _ _ _ ih => exact (ih hk).prepend _
  | clause _ _ _ _ _ ih =>
    rcases List.mem_cons.mp hk with rfl | hk
    · exact (Text.Within.refl _).append _
    · exact (ih hk).prepend _

private theorem fits {ks : List NumberedClause} {s : String} (h : Composed x ks s) (hk : k ∈ ks) :
    k.clause.Fits := by
  induction h with
  | nil => cases hk
  | piece _ _ ih => exact ih hk
  | authored _ _ _ ih => exact ih hk
  | clause _ hf _ _ _ ih =>
    rcases List.mem_cons.mp hk with rfl | hk
    · exact hf
    · exact ih hk

private theorem standsIn {first : Nat} {clauses : List Clause} {s : String}
    (h : Composed x (NumberedClause.numberFrom first clauses) s)
    (hk : k ∈ NumberedClause.numberFrom first clauses) (hd : '$' ∉ k.clause.column.toList) :
    k.StandsIn s first (Clause.allValues clauses) where
  text := h.within hk
  placeholders := NumberedClause.digitsIn_text (h.fits hk) hd
  notBefore := NumberedClause.le_of_mem_numberFrom hk
  bound := fun _ hi ↦ NumberedClause.getElem?_allValues hk hi

end Composed

/-- The number of values that conditions contribute. -/
def Condition.valueCount (parameters : Fields) (leaves : List Condition) : Nat :=
  (Clause.allValues (clauses parameters leaves)).length

/-- The clause of a condition that contributes values, from an index on. -/
def Condition.clauseAt (c : Condition) (vs : List Json) (index : Nat) : NumberedClause :=
  ⟨⟨c.column, c.operator, vs⟩, index⟩

namespace Condition

variable {parameters : Fields} {c : Condition} {vs : List Json} {earlier later : List Condition}

private theorem valueCount_append (parameters : Fields) (earlier later : List Condition) :
    valueCount parameters (earlier ++ later) =
      valueCount parameters earlier + valueCount parameters later := by
  rw [valueCount, clauses, List.filterMap_append, Clause.allValues_append, List.length_append]
  rfl

private theorem clauseAt_mem_numberFrom (h : c.Contributes parameters vs) (first : Nat)
    (earlier later : List Condition) :
    c.clauseAt vs (first + valueCount parameters earlier) ∈
      NumberedClause.numberFrom first (clauses parameters (earlier ++ c :: later)) := by
  have hc : c.clause? parameters = some ⟨c.column, c.operator, vs⟩ :=
    clause?_eq_some_iff.mpr ⟨vs, h, rfl⟩
  rw [clauses, List.filterMap_append, List.filterMap_cons, hc, NumberedClause.numberFrom_append]
  exact List.mem_append_right _ List.mem_cons_self

end Condition

/-- How a statement requires a clause as part of one of its conditions: the clause stands in the
statement with all of its values, and it is written in this condition. -/
structure AssembledQuery.Requires (a : AssembledQuery) (condition : Option String)
    (k : NumberedClause) : Prop where
  standsIn : k.StandsIn a.sql 1 a.params
  within : ∃ w ∈ condition, Text.Within k.text w

/-- How a condition of a template is emitted with the values that it contributes: by its filter,
from any index on, and in every statement for the given parameters. The conditions before and after
it in its filter tell the index of its first placeholder. -/
structure ReportTemplate.Emits (t : ReportTemplate) (g : FilterGroup) (parameters : Fields)
    (earlier : List Condition) (c : Condition) (later : List Condition) (vs : List Json) :
    Prop where
  compiled : ∀ first, (c.clauseAt vs (first + Condition.valueCount parameters earlier)).StandsIn
    (g.compile parameters first).sql first (g.compile parameters first).params
  /-- The filter of the template comes first in a statement, in its condition on rows. -/
  rows : t.config.filters = some g →
    ∀ (request : QueryRequest) (limits : PageLimits) (a : AssembledQuery),
      request.parameters = parameters → t.assemble request limits = .ok a →
      a.Requires a.query.report.condition
        (c.clauseAt vs (1 + Condition.valueCount parameters earlier))
  /-- The condition on groups comes last. -/
  groups : t.config.having = some g →
    ∀ (request : QueryRequest) (limits : PageLimits) (a : AssembledQuery),
      request.parameters = parameters → t.assemble request limits = .ok a →
      ∃ index, index + Condition.valueCount parameters (c :: later) = a.params.length + 1 ∧
        a.Requires a.query.report.groupCondition (c.clauseAt vs index)

namespace StatementPlan

variable {p : StatementPlan} {t : ReportTemplate} {request : QueryRequest} {limits : PageLimits}
  {g : FilterGroup} {parameters : Fields} {c : Condition} {vs : List Json}
  {earlier later : List Condition}

private theorem Checked.standsIn (h : p.Checked t request limits)
    (hleaves : p.leaves t = earlier ++ c :: later) (hc : c.Contributes parameters vs)
    (hd : '$' ∉ c.column.toList) :
    (c.clauseAt vs (1 + Condition.valueCount parameters earlier)).StandsIn
      (p.statement t parameters).sql 1 (p.statement t parameters).params := by
  have hs := h.composed_sql parameters
  have hv : (p.statement t parameters).params = _ := p.params_eq t parameters
  rw [p.clauses_eq, hleaves] at hs hv
  rw [hv]
  exact hs.standsIn (Condition.clauseAt_mem_numberFrom hc 1 earlier later) hd

private theorem exists_within_unlessEmpty {k : NumberedClause} {w : String}
    (h : Text.Within k.text w) :
    ∃ u ∈ Text.unlessEmpty w, Text.Within k.text u :=
  ⟨w, Text.unlessEmpty_of_ne (h.ne_empty (k.clause.text_ne_empty k.first)), h⟩

private theorem Checked.requires_rows (h : p.Checked t request limits)
    (hg : t.config.filters = some g) (hleaves : g.leaves = earlier ++ c :: later)
    (hc : c.Contributes parameters vs) (hd : '$' ∉ c.column.toList) :
    (p.statement t parameters).Requires (p.statement t parameters).query.report.condition
      (c.clauseAt vs (1 + Condition.valueCount parameters earlier)) := by
  let after := later ++ p.filters.toList.flatMap (·.leaves)
  have hrows : (p.rowFilters t).flatMap (·.leaves) = earlier ++ c :: after := by
    simp [rowFilters, after, hg, hleaves]
  have hall : p.leaves t =
      earlier ++ c :: (after ++ t.config.having.toList.flatMap (·.leaves)) := by
    simp [leaves, after, hg, hleaves]
  refine ⟨h.standsIn hall hc hd, ?_⟩
  have hwhere := p.composed_whereText (x := t.lexicon none) parameters h.composed_rowFilters
  rw [rowClauses, FilterGroup.clausesOf_eq, hrows] at hwhere
  rw [(p.conditions_report t parameters).1]
  exact exists_within_unlessEmpty (hwhere.within (Condition.clauseAt_mem_numberFrom hc 1 earlier _))

private theorem Checked.requires_groups (h : p.Checked t request limits)
    (hg : t.config.having = some g) (hleaves : g.leaves = earlier ++ c :: later)
    (hc : c.Contributes parameters vs) (hd : '$' ∉ c.column.toList) :
    ∃ index, index + Condition.valueCount parameters (c :: later) =
        (p.statement t parameters).params.length + 1 ∧
      (p.statement t parameters).Requires (p.statement t parameters).query.report.groupCondition
        (c.clauseAt vs index) := by
  let rows := (p.rowFilters t).flatMap (·.leaves)
  have hgroups : t.config.having.toList.flatMap (·.leaves) = earlier ++ c :: later := by
    simp [hg, hleaves]
  have hall : p.leaves t = (rows ++ earlier) ++ c :: later := by
    simp [leaves, rows, rowFilters, hg, hleaves]
  have hfirst : p.groupFirst t parameters = 1 + Condition.valueCount parameters rows := by
    rw [groupFirst, rowClauses, FilterGroup.clausesOf_eq]
    rfl
  refine ⟨1 + Condition.valueCount parameters (rows ++ earlier), ?_, h.standsIn hall hc hd, ?_⟩
  · have hv : (p.statement t parameters).params = _ := p.params_eq t parameters
    rw [hv, p.clauses_eq, hall, Nat.add_assoc, ← Condition.valueCount_append, Nat.add_comm]
    rfl
  · have hhaving := p.composed_havingText (x := t.lexicon none) parameters (composed_having t)
    rw [groupClauses, FilterGroup.clausesOf_eq, hgroups, hfirst] at hhaving
    rw [(p.conditions_report t parameters).2, Condition.valueCount_append, ← Nat.add_assoc]
    exact exists_within_unlessEmpty
      (hhaving.within (Condition.clauseAt_mem_numberFrom hc _ earlier later))

end StatementPlan

namespace ReportTemplate

variable {t : ReportTemplate} {g : FilterGroup} {parameters : Fields} {c : Condition}
  {vs : List Json} {earlier later : List Condition}

private theorem column_mem_names (hg : g ∈ t.config.filters.toList ++ t.config.having.toList)
    (hc : c ∈ g.leaves) : c.column ∈ t.names := by
  have hn : c.column ∈ g.names := List.mem_map_of_mem hc
  refine mem_names.mpr (.inr (.inr (.inr (.inr (.inr ?_)))))
  rcases List.mem_append.mp hg with hg | hg
  · exact .inl ⟨g, Option.mem_toList.mp hg, hn⟩
  · exact .inr (.inl ⟨g, Option.mem_toList.mp hg, hn⟩)

/-- A condition of an accepted template that contributes values is emitted with them. -/
theorem emits_of_contributes (h : t.problems = [])
    (hg : g ∈ t.config.filters.toList ++ t.config.having.toList)
    (hleaves : g.leaves = earlier ++ c :: later) (hc : c.Contributes parameters vs) :
    t.Emits g parameters earlier c later vs := by
  have hcolumn {d : Condition} (hm : d ∈ g.leaves) : d.column ∈ t.names := column_mem_names hg hm
  have hd : '$' ∉ c.column.toList := by
    have hm : c ∈ g.leaves := by simp [hleaves]
    rcases isSafe_of_mem_names h (hcolumn hm) with hs | ⟨hstar, -⟩
    · exact Identifier.not_mem_of_isSafe hs (by decide)
    · rw [hstar]
      decide
  constructor
  case compiled =>
    intro first
    have hs := FilterGroup.composed_compile (x := t.lexicon none)
      (fun d hm ↦ .name (hcolumn hm)) parameters first
    rw [FilterGroup.clauses, hleaves] at hs
    have hv : (g.compile parameters first).params =
        Clause.allValues (Condition.clauses parameters (earlier ++ c :: later)) := by
      rw [g.compile_eq, FilterGroup.clauses, hleaves]
    rw [hv]
    exact hs.standsIn (Condition.clauseAt_mem_numberFrom hc first earlier later) hd
  case rows =>
    rintro hf request limits a rfl ha
    obtain ⟨p, hp, rfl⟩ := exists_plan_of_assemble ha
    exact hp.requires_rows hf hleaves hc hd
  case groups =>
    rintro hh request limits a rfl ha
    obtain ⟨p, hp, rfl⟩ := exists_plan_of_assemble ha
    exact hp.requires_groups hh hleaves hc hd

end ReportTemplate

end TabularReport

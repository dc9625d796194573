import TabularReport.Proofs.Sql.ParameterMark
import TabularReport.Proofs.Statement.Numbering

/-!
# The parameters of whole statements

The parameters of a statement are the placeholders of its clauses, when the expressions of its
template have no parameters, end every quotation and comment that they begin, and end no statement.
-/

namespace TabularReport

open Placeholder Sql

namespace Sql.Reads

variable {p : ScanState}

private theorem spaced (hp : p.isSettled = true) (n : Nat) :
    Reads p (' ' :: (placeholder n).toList) [placeholder n] :=
  .ofSeparate hp (by rfl) (.cons (by decide) (.ofPlaceholder n))

private theorem operands (hp : p.isSettled = true) {k : Clause} (hf : k.Fits) (first : Nat) :
    Reads p (k.operands first).toList (placeholders first k.values.length) := by
  obtain ⟨column, op, values⟩ := k
  simp only [Clause.Fits] at hf
  unfold Clause.operands
  cases op with
  | isNull | isNotNull =>
    subst hf
    exact .nil hp
  | isIn | notIn =>
    have hlist := (Reads.ofPlaceholders first values.length).append (b := [')']) (by rfl)
      (.cons (by decide) (.nil rfl))
    rw [List.append_nil] at hlist
    simp only [String.toList_append, List.append_assoc]
    exact .ofSeparate hp (by rfl) (.cons (by decide) (.cons (by decide) hlist))
  | between =>
    have hsecond : Reads .plain (" AND".toList ++ ' ' :: (placeholder (first + 1)).toList)
        [placeholder (first + 1)] := .quiet rfl (by decide) fun q hq ↦ .spaced hq (first + 1)
    have hboth := (Reads.spaced hp first).append (by rfl) hsecond
    rw [hf]
    simpa [placeholders] using hboth
  | _ =>
    rw [hf, String.toList_append]
    exact .spaced hp first

private theorem clause {k : Clause} (hc : Reads p k.column.toList []) (hf : k.Fits) (first : Nat) :
    Reads p (k.text first).toList (placeholders first k.values.length) := by
  have hop : ∀ op : Operator, isQuiet (" " ++ op.sql).toList = true := by
    intro op
    cases op <;> decide
  have hrest := Reads.quiet (p := .plain) rfl (hop k.operator) fun q hq ↦
    Reads.operands hq hf first
  have hs : isSeparate ((" " ++ k.operator.sql).toList ++ (k.operands first).toList) = true := by
    rw [String.toList_append, List.append_assoc]
    rfl
  have hall := hc.append hs hrest
  rw [k.text_eq]
  simpa [String.append_assoc] using hall

end Sql.Reads

/-- How the parts of a statement that are no clauses are read: no piece has a character with a
meaning, and the expressions have no marks and are complete. -/
structure Lexicon.Markless (x : Lexicon) : Prop where
  pieces : ∀ p, x.Piece p → isQuiet p.toList = true
  authored : ∀ s ∈ x.authored, Reads .plain s.toList []

private theorem Composed.reads {x : Lexicon} {ks : List NumberedClause} {s : String}
    (hx : x.Markless) (h : Composed x ks s) {p : ScanState} (hp : p.isSettled = true) :
    Reads p s.toList (ks.flatMap fun k ↦ placeholders k.first k.clause.values.length) := by
  induction h generalizing p with
  | nil => exact .nil hp
  | piece hs _ ih =>
    rw [String.toList_append]
    exact .quiet hp (hx.pieces _ hs) fun q hq ↦ ih hq
  | authored hs hr _ ih =>
    rw [String.toList_append]
    exact (Reads.ofPlain hp (hx.authored _ hs)).append hr (ih rfl)
  | clause hc hf hr _ ihc ih =>
    rw [String.toList_append, List.flatMap_cons]
    exact (Reads.clause (ihc hp) hf _).append hr (ih rfl)

-- The statements of an accepted template have no marks outside of clauses when its author has
-- written none, has ended every quotation and comment, and has ended no statement.
private theorem ReportTemplate.markless_lexicon {t : ReportTemplate} (h : t.problems = [])
    (ha : ∀ s ∈ t.authored, marks s = [] ∧ isComplete s = true) (page : Option AppliedPage) :
    (t.lexicon page).Markless where
  pieces := by
    intro p hp
    have hwords : ∀ w ∈ vocabulary, isQuiet w.toList = true := by decide
    have hsigns : signs.all (fun c ↦ Identifier.isFoldedPart c = false ∧
        Text.isBlank c = false ∧ c ∉ ['.', '*', '(', ')']) = true := by decide
    refine List.all_eq_true.mpr fun c hm ↦ ?_
    rw [Bool.not_eq_true', ← Bool.not_eq_true, List.contains_iff_mem]
    intro hc
    refine not_mem_piece h (fun w hw hmem ↦ ?_) ?_ hp hm
    · have hq := List.all_eq_true.mp (hwords w hw) c hmem
      rw [Bool.not_eq_true', ← Bool.not_eq_true, List.contains_iff_mem] at hq
      exact hq hc
    · exact of_decide_eq_true (List.all_eq_true.mp hsigns c hc)
  authored := fun s hs ↦ ⟨(ha s hs).1, (ha s hs).2⟩

/-- The parameters of an assembled statement are `$1`, `$2` and so on, one for each value, when its
author has written no parameters, has ended every quotation and comment, and has ended no statement.
-/
theorem ReportTemplate.marks_sql {t : ReportTemplate} {request : QueryRequest} {limits : PageLimits}
    {a : AssembledQuery} (ha : ∀ s ∈ t.authored, marks s = [] ∧ isComplete s = true)
    (h : t.assemble request limits = .ok a) : marks a.sql = placeholders 1 a.params.length := by
  obtain ⟨p, hk, rfl⟩ := exists_plan_of_assemble h
  have hread := (hk.composed_sql request.parameters).reads
    (markless_lexicon hk.accepted ha _) (p := .plain) rfl
  have hv : (p.statement t request.parameters).params = _ := p.params_eq t request.parameters
  rw [marks, hread.marks, hv, placeholders_eq_map, ← NumberedClause.range'_numberFrom,
    List.map_flatMap]
  simp only [placeholders_eq_map]

end TabularReport

import TabularReport.Proofs.Filter.Nesting
import TabularReport.Proofs.Statement.Conjunction

/-!
# An `OR` among conjuncts

A filter stays one conjunct beside others as long as no `OR` is at the surface of its text. The
groups in it are in parentheses and the operands of its conditions have no words of their own, so an
`OR` gets to the surface only from the columns of conditions that the filter joins itself.
-/

namespace TabularReport

open Nesting Text

/-! ### Clauses -/

/-- Characters other than quotes, parentheses and the last letter of `OR`. No operator is spelled
with this letter, so what a condition writes after its column can be told quiet by its characters.
-/
def Nesting.isQuiet (c : Char) : Bool :=
  c != '(' && c != ')' && c != '\'' && c != '"' && c.toLower != 'r'

/-- Whether a text has quiet characters alone. -/
def Text.IsQuiet (s : String) : Prop := s.toList.all isQuiet = true

namespace Text.IsQuiet

variable {a b s : String}

private theorem append (ha : IsQuiet a) (hb : IsQuiet b) : IsQuiet (a ++ b) := by
  rw [IsQuiet, String.toList_append, List.all_append, ha, hb]
  rfl

private theorem intercalate {ts : List String} (hs : IsQuiet s) (h : ∀ t ∈ ts, IsQuiet t) :
    IsQuiet (s.intercalate ts) :=
  Text.intercalate_induction (by simp [IsQuiet]) (fun _ _ ↦ append) hs h

private theorem exposesOr_eq_false (h : IsQuiet s) : isClosed s = true ∧ exposesOr s = false := by
  simp only [IsQuiet, List.all_eq_true, isQuiet, Bool.and_eq_true, bne_iff_ne] at h
  constructor
  · refine closes_of_plain fun c hc ↦ ?_
    obtain ⟨⟨⟨⟨ho, hp⟩, hs⟩, hd⟩, -⟩ := h c hc
    simp [ho, hp, hs, hd]
  · rw [exposesOr, List.any_eq_false]
    rintro (_ | _ | w) hm he
    · cases he
    · cases he
    · have hw : w.map Char.toLower = ['o', 'r'] := beq_iff_eq.mp he
      have hr : 'r' ∈ w.map Char.toLower := by simp [hw]
      obtain ⟨c, hc, hl⟩ := List.mem_map.mp hr
      rcases mem_of_mem_surface (Mark.mem_of_word hm c hc) with rfl | hc
      · cases hl
      · exact (h c hc).2 hl

end Text.IsQuiet

private theorem Placeholder.isQuiet_placeholder (k : Nat) : IsQuiet (placeholder k) := by
  refine List.all_eq_true.mpr fun c hc ↦ ?_
  rw [toList_placeholder] at hc
  rcases List.mem_cons.mp hc with rfl | hc
  · decide
  · have hd : ∀ d : Fin 10, isQuiet (Char.ofNat (48 + d)) = true := by decide
    have hn := isDigit_toDigits hc
    simp only [isDigit, Bool.and_eq_true, decide_eq_true_eq] at hn
    have hq := hd ⟨c.toNat - 48, by omega⟩
    rwa [show 48 + (c.toNat - 48) = c.toNat by omega, Char.ofNat_toNat] at hq

private theorem Clause.operands_cases (k : Clause) (first : Nat) :
    IsQuiet (k.operands first) ∨
      ∃ list, IsQuiet list ∧ k.operands first = " " ++ ("(" ++ list ++ ")") := by
  have hblank : IsQuiet " " := by
    unfold IsQuiet
    decide
  have hlist : IsQuiet (", ".intercalate (placeholders first k.values.length)) :=
    Text.IsQuiet.intercalate (by unfold IsQuiet; decide)
      (Placeholder.forall_mem_placeholders Placeholder.isQuiet_placeholder first _)
  have hs (list : String) : " (" ++ list ++ ")" = " " ++ ("(" ++ list ++ ")") := by
    simp only [← String.append_assoc]
    rfl
  have hone := Placeholder.isQuiet_placeholder
  unfold operands
  split
  · exact .inl (by simp [IsQuiet])
  · exact .inl (by simp [IsQuiet])
  · exact .inr ⟨_, hlist, hs _⟩
  · exact .inr ⟨_, hlist, hs _⟩
  · exact .inl (((hblank.append (hone first)).append (by unfold IsQuiet; decide)).append
      (hone (first + 1)))
  · exact .inl (hblank.append (hone first))

private theorem Clause.exposesOr_operands (k : Clause) (first : Nat) :
    isClosed (k.operator.sql ++ k.operands first) = true ∧
      exposesOr (k.operator.sql ++ k.operands first) = false := by
  have hsql : IsQuiet k.operator.sql := by
    unfold IsQuiet
    cases k.operator <;> decide
  rcases k.operands_cases first with hq | ⟨list, hl, he⟩
  · exact (hsql.append hq).exposesOr_eq_false
  · obtain ⟨hc, hv⟩ := exposesOr_append_blank hsql.exposesOr_eq_false.1 ("(" ++ list ++ ")")
    obtain ⟨hp, hw⟩ := exposesOr_parenthesized hl.exposesOr_eq_false.1
    rw [he, hc, hv, hw, hsql.exposesOr_eq_false.2]
    exact ⟨hp, rfl⟩

private theorem Clause.exposesOr_text {k : Clause} (h : isClosed k.column = true) (first : Nat) :
    isClosed (k.text first) = true ∧ exposesOr (k.text first) = exposesOr k.column := by
  obtain ⟨hc, he⟩ := k.exposesOr_operands first
  obtain ⟨ha, hb⟩ := exposesOr_append_blank h (k.operator.sql ++ k.operands first)
  rw [Clause.text_eq, String.append_assoc, String.append_assoc, ha, hb, he, Bool.or_false]
  exact ⟨hc, rfl⟩

/-! ### Formulas -/

namespace Formula

private theorem exposesOr_intercalate (logic : Logic) {α : Type} {f : α → String} {p : α → Bool}
    {l : List α} (h : ∀ a ∈ l, isClosed (f a) = true ∧ exposesOr (f a) = p a) :
    isClosed ((separator logic).intercalate (l.map f)) = true ∧
      (logic = .and → exposesOr ((separator logic).intercalate (l.map f)) = l.any p) := by
  induction l with
  | nil => exact ⟨rfl, fun _ ↦ rfl⟩
  | cons a rest ih =>
    obtain ⟨hc, he⟩ := h a List.mem_cons_self
    obtain ⟨hd, hv⟩ := ih fun b hb ↦ h b (List.mem_cons_of_mem a hb)
    cases rest with
    | nil => simp [hc, he]
    | cons b more =>
      -- The connective is a text of its own between blanks; only the keyword `AND` exposes nothing.
      let tail := (separator logic).intercalate ((b :: more).map f)
      have hk : isClosed logic.keyword = true := by cases logic <;> decide
      have ht : (separator logic).intercalate ((a :: b :: more).map f) =
          f a ++ (" " ++ (logic.keyword ++ (" " ++ tail))) := by
        simp only [tail, List.map_cons, String.intercalate_cons_cons, separator,
          String.append_assoc]
      obtain ⟨hck, hek⟩ := exposesOr_append_blank hk tail
      obtain ⟨hct, het⟩ := exposesOr_append_blank hc (logic.keyword ++ (" " ++ tail))
      rw [ht, hct, het, hck, hek, he, List.any_cons]
      refine ⟨hd, fun hl ↦ ?_⟩
      have hand : exposesOr logic.keyword = false := by
        subst hl
        decide
      rw [hand, Bool.false_or, hv hl]

/-- Whether the clauses of a formula have closed columns. -/
def IsClosed (f : Formula NumberedClause) : Prop :=
  ∀ n ∈ f.atoms, isClosed n.clause.column = true

/-- Whether a member of a group is a clause whose column has an `OR` at its surface. -/
def exposes : Formula NumberedClause → Bool
  | .atom n => exposesOr n.clause.column
  | .joined _ _ => false

mutual

private theorem exposesOr_memberText : (f : Formula NumberedClause) → f.IsClosed →
    isClosed f.memberText = true ∧ exposesOr f.memberText = f.exposes
  | .atom n, h => Clause.exposesOr_text (h n (List.mem_singleton_self n)) n.first
  | .joined logic members, h => by
    have hm := exposesOr_memberTexts members h
    obtain ⟨hc, -⟩ := exposesOr_intercalate logic hm
    rw [memberText, enclose, text, memberTexts_eq_map]
    exact exposesOr_parenthesized hc

private theorem exposesOr_memberTexts : (ms : List (Formula NumberedClause)) →
    (∀ n ∈ atomsOf ms, isClosed n.clause.column = true) →
    ∀ f ∈ ms, isClosed f.memberText = true ∧ exposesOr f.memberText = f.exposes
  | [], _, f, hf => absurd hf List.not_mem_nil
  | m :: rest, h, f, hf => by
    rcases List.mem_cons.mp hf with he | hf
    · rw [he]
      exact exposesOr_memberText m fun n hn ↦ h n (List.mem_append_left _ hn)
    · exact exposesOr_memberTexts rest (fun n hn ↦ h n (List.mem_append_right _ hn)) f hf

end

private theorem atomsOf_conjuncts {α : Type} (f : Formula α) : atomsOf f.conjuncts = f.atoms := by
  unfold conjuncts
  split
  · rfl
  · exact List.append_nil _

private theorem exposesOr_conjunct {f : Formula NumberedClause} (h : f.IsClosed) :
    isClosed (f.conjunct true) = true ∧
      exposesOr (f.conjunct true) = f.conjuncts.any exposes := by
  have hm := exposesOr_memberTexts f.conjuncts (by rwa [atomsOf_conjuncts])
  obtain ⟨hc, he⟩ := exposesOr_intercalate .and hm
  rw [conjunct_true]
  exact ⟨hc, he rfl⟩

private theorem exposesOr_conjuncts {fs : List (Formula NumberedClause)} (hl : 1 < fs.length)
    (h : ∀ f ∈ fs, f.IsClosed) :
    exposesOr (" AND ".intercalate (fs.map (conjunct (fs.length > 1)))) =
      fs.any fun f ↦ f.conjuncts.any exposes := by
  have ho : decide (fs.length > 1) = true := decide_eq_true hl
  rw [ho]
  exact (exposesOr_intercalate .and fun f hf ↦ exposesOr_conjunct (h f hf)).2 rfl

end Formula

/-! ### Filters -/

private theorem FilterNode.exposes_remainder? (parameters : Fields) (first : Nat) (n : FilterNode) :
    (n.remainder? parameters first).toList.any Formula.exposes = true ↔
      ∃ c, n = .leaf c ∧ ∃ vs, c.Contributes parameters vs ∧ exposesOr c.column = true := by
  cases n with
  | group logic nodes =>
    rw [remainder?]
    cases remainders parameters first nodes <;> simp [Formula.join?, Formula.exposes]
  | leaf c =>
    rw [remainder?]
    cases hk : c.clause? parameters with
    | none =>
      have hn := Condition.clause?_eq_none_iff.mp hk
      simp [hn]
    | some k =>
      obtain ⟨vs, hc, rfl⟩ := Condition.clause?_eq_some_iff.mp hk
      constructor
      · intro he
        exact ⟨c, rfl, vs, hc, by simpa [Formula.exposes] using he⟩
      · rintro ⟨d, hd, _, -, he⟩
        cases hd
        simpa [Formula.exposes] using he

private theorem FilterNode.any_exposes_remainders (parameters : Fields) (first : Nat)
    (ns : List FilterNode) :
    (remainders parameters first ns).any Formula.exposes = true ↔
      ∃ c, .leaf c ∈ ns ∧ ∃ vs, c.Contributes parameters vs ∧ exposesOr c.column = true := by
  induction ns generalizing first with
  | nil => simp [remainders]
  | cons n rest ih =>
    rw [remainders, List.any_append, Bool.or_eq_true, ih, exposes_remainder?]
    constructor
    · rintro (⟨c, rfl, hc⟩ | ⟨c, hm, hc⟩)
      · exact ⟨c, List.mem_cons_self, hc⟩
      · exact ⟨c, List.mem_cons_of_mem n hm, hc⟩
    · rintro ⟨c, hm, hc⟩
      rcases List.mem_cons.mp hm with he | hm
      · exact .inl ⟨c, he.symm, hc⟩
      · exact .inr ⟨c, hm, hc⟩

/-- Whether a filter exposes an `OR` beside others: it is a conjunction, and one of its own
conditions contributes and has a column that does. -/
def FilterGroup.Exposes (parameters : Fields) (g : FilterGroup) : Prop :=
  g.logic = .and ∧
    ∃ c, .leaf c ∈ g.nodes ∧ ∃ vs, c.Contributes parameters vs ∧ exposesOr c.column = true

namespace FilterGroup

variable {parameters : Fields}

private theorem exists_remainder?_iff {g : FilterGroup} (first : Nat) :
    (∃ f, g.remainder? parameters first = some f) ↔
      ∃ c ∈ g.leaves, ∃ vs, c.Contributes parameters vs := by
  rw [← Option.isSome_iff_exists, Option.isSome_iff_ne_none, ne_eq, remainder?_eq_none_iff,
    clauses_eq_nil_iff]
  simp

private theorem exposes_remainder? (first : Nat) (g : FilterGroup) :
    ((g.remainder? parameters first).toList.any fun f ↦ f.conjuncts.any Formula.exposes) = true ↔
      g.Exposes parameters := by
  have hm := FilterNode.any_exposes_remainders parameters first g.nodes
  rw [Exposes, ← hm, remainder?]
  cases hr : FilterNode.remainders parameters first g.nodes with
  | nil => simp [Formula.join?]
  | cons m rest =>
    cases g.logic <;> simp [Formula.join?, Formula.conjuncts, Formula.exposes]

private theorem any_exposes_remainders (first : Nat) (gs : List FilterGroup) :
    ((remainders parameters first gs).any fun f ↦ f.conjuncts.any Formula.exposes) = true ↔
      ∃ g ∈ gs, g.Exposes parameters := by
  induction gs generalizing first with
  | nil => simp [remainders]
  | cons g rest ih =>
    rw [remainders, List.any_append, Bool.or_eq_true, exposes_remainder?, ih]
    simp

private theorem isClosed_remainders (first : Nat) {gs : List FilterGroup}
    (hc : ∀ g ∈ gs, ∀ c ∈ g.leaves, isClosed c.column = true) :
    ∀ f ∈ remainders parameters first gs, f.IsClosed := by
  intro f hf n hn
  have hm : n ∈ NumberedClause.numberFrom first (clausesOf parameters gs) := by
    rw [← atoms_remainders, Formula.atomsOf_eq_flatMap]
    exact List.mem_flatMap.mpr ⟨f, hf, hn⟩
  obtain ⟨g, hg, hk⟩ := List.mem_flatMap.mp (NumberedClause.mem_numberFrom hm)
  obtain ⟨-, c, hc', he⟩ := Condition.mem_clauses hk
  rw [← he]
  exact hc g hg c hc'

end FilterGroup

/-- Something is left of two filters of which conditions contribute. -/
theorem FilterGroup.one_lt_length_remainders {parameters : Fields} {g f : FilterGroup}
    (hg : ∃ c ∈ g.leaves, ∃ vs, c.Contributes parameters vs)
    (hf : ∃ c ∈ f.leaves, ∃ vs, c.Contributes parameters vs) (first : Nat) :
    1 < (remainders parameters first [g, f]).length := by
  obtain ⟨a, ha⟩ := (exists_remainder?_iff first).mpr hg
  obtain ⟨b, hb⟩ := (exists_remainder?_iff
    (first + (Clause.allValues (g.clauses parameters)).length)).mpr hf
  simp [remainders, ha, hb]

/-- The condition on rows that requires what is left of two filters or more is not empty. -/
theorem StatementPlan.whereText_ne_empty {p : StatementPlan} {t : ReportTemplate}
    {parameters : Fields} (hl : 1 < (p.remainders t parameters).length) :
    p.whereText t parameters ≠ "" := by
  rw [whereText_eq]
  match hr : p.remainders t parameters with
  | [] => simp [hr] at hl
  | [_] => simp [hr] at hl
  | f :: g :: rest =>
    rw [List.map_cons, List.map_cons, String.intercalate_cons_cons, ne_eq, ← String.toList_inj]
    simp

/-- Where something is left of two filters or more, the condition on rows has an `OR` at its surface
exactly when one of the filters exposes it. -/
theorem StatementPlan.exposesOr_whereText {p : StatementPlan} {t : ReportTemplate}
    {parameters : Fields} (hl : 1 < (p.remainders t parameters).length)
    (hc : ∀ g ∈ p.rowFilters t, ∀ c ∈ g.leaves, isClosed c.column = true) :
    exposesOr (p.whereText t parameters) = true ↔
      ∃ g ∈ p.rowFilters t, g.Exposes parameters := by
  rw [whereText_eq, Formula.exposesOr_conjuncts hl (FilterGroup.isClosed_remainders 1 hc)]
  exact FilterGroup.any_exposes_remainders 1 (p.rowFilters t)

end TabularReport

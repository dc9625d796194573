import TabularReport.Proofs.Filter.Mark
import TabularReport.Proofs.Validation.Identifier

/-!
# The texts of columns

A column is written as a safe identifier, or as one that another safe identifier qualifies. Either
is a sequence of words, with an argument in parentheses after the name of an aggregate.
-/

namespace TabularReport

open Text

/-- The characters of names belong to words. -/
theorem Mark.isWordChar_of_isFoldedPart {c : Char} (h : Identifier.isFoldedPart c = true) :
    isWordChar c = true := by
  have hn := Identifier.toNat_of_isFoldedPart h
  have ho : c ≠ '(' := by
    rintro rfl
    revert hn
    decide
  have hp : c ≠ ')' := by
    rintro rfl
    revert hn
    decide
  simp [isWordChar, Identifier.isBlank_eq_false_of_isFoldedPart h, ho, hp]

private theorem Mark.isConnective_eq_false {w : List Char}
    (h : ∀ keyword ∈ ["and", "or", "between"], w.map Char.toLower ≠ keyword.toList) :
    isConnective w = false := by
  have hk : ∀ keyword ∈ ["and", "or", "between"], isKeyword keyword w = false := fun keyword hm ↦
    beq_eq_false_iff_ne.mpr (h keyword hm)
  rw [isConnective, hk "and" (by decide), hk "or" (by decide), hk "between" (by decide)]
  rfl

private theorem Mark.isConnective_of_point {w : List Char} (h : '.' ∈ w) :
    isConnective w = false := by
  apply isConnective_eq_false
  intro keyword hk he
  have hm : '.' ∈ keyword.toList := he ▸ List.mem_map.mpr ⟨'.', h, rfl⟩
  have hn : ∀ keyword ∈ ["and", "or", "between"], '.' ∉ keyword.toList := by decide
  exact hn keyword hk hm

private theorem Identifier.isConnective_of_aggregate {f : List Char}
    (h : String.ofList (f.map foldLetter) ∈ aggregates) : Mark.isConnective f = false := by
  apply Mark.isConnective_eq_false
  intro keyword hk he
  have hfold : ∀ c ∈ f, foldLetter c = c.toLower := by
    intro c hc
    have hm : c.toLower ∈ keyword.toList := he ▸ List.mem_map_of_mem hc
    unfold foldLetter
    split
    · next hs =>
      have hl : c = Char.ofNat 0x17F := by rw [← beq_iff_eq.mp hs, Char.ofNat_toNat]
      subst hl
      have hn : ∀ keyword ∈ ["and", "or", "between"],
          (Char.ofNat 0x17F).toLower ∉ keyword.toList := by decide
      exact absurd hm (hn keyword hk)
    · rfl
  rw [List.map_congr_left hfold, he, String.ofList_toList] at h
  have hn : ∀ keyword ∈ ["and", "or", "between"], keyword ∉ aggregates := by decide
  exact hn keyword hk h

/-- A word that a column is written with. -/
structure Mark.IsName (w : List Char) : Prop where
  nonempty : w ≠ []
  parts : ∀ c ∈ w, Identifier.isFoldedPart c = true ∨ c = '.'
  plain : isConnective w = false

/-- What an aggregate may be taken of, with the blanks around it. -/
def Mark.IsArgument (cs : List Char) : Prop :=
  ∀ c ∈ cs, Identifier.isFoldedPart c = true ∨ c = '.' ∨ c = '*' ∨ isBlank c = true

/-- Names, and arguments in parentheses after all of them but perhaps the last one. -/
inductive Mark.IsColumn : List Char → Prop
  | nil : IsColumn []
  | name {w : List Char} : IsName w → IsColumn w
  | call {w argument rest : List Char} :
      IsName w → IsArgument argument → IsColumn rest →
      IsColumn (w ++ '(' :: (argument ++ ')' :: rest))

namespace Mark

/-- The characters of names belong to words. -/
theorem IsName.isWordChar {w : List Char} (h : IsName w) : ∀ c ∈ w, isWordChar c = true := by
  intro c hc
  rcases h.parts c hc with hp | rfl
  · exact isWordChar_of_isFoldedPart hp
  · decide

/-- There are no parentheses and no quotes in an argument. -/
theorem IsArgument.not_mem {cs : List Char} (h : IsArgument cs) {c : Char}
    (hc : c ∈ ['(', ')', '\'', '"']) : c ∉ cs := by
  intro hm
  have hp := h c hm
  simp only [List.mem_cons, List.not_mem_nil, or_false] at hc
  rcases hc with rfl | rfl | rfl | rfl <;> revert hp <;> decide

end Mark

namespace Identifier

private theorem exists_argument {s : String} (h : isSafe s = true) :
    ∃ w rest, s.toList = w ++ rest ∧ w ≠ [] ∧ (∀ c ∈ w, isFoldedPart c = true ∨ c = '.') ∧
      (rest = [] ∨ Mark.isConnective w = false ∧
        ∃ argument, rest = '(' :: (argument ++ [')']) ∧ Mark.IsArgument argument) := by
  rw [isSafe, Bool.or_eq_true] at h
  rcases h with hr | ha
  · refine ⟨s.toList, [], by simp, ?_, fun c hc ↦ ?_, .inl rfl⟩
    · intro he
      rw [he] at hr
      cases hr
    · rcases isReference_chars (by decide) (by decide) hr c hc with h | h | h
      · exact .inl (by simp [isFoldedPart, isPart, h])
      · exact .inl (by simp [isFoldedPart, h])
      · exact .inr h
  · obtain ⟨f, argument, he, hf, ha⟩ := isAggregate_iff.mp ha
    refine ⟨f, '(' :: (argument ++ [')']), he, ?_, fun c hc ↦ ?_,
      .inr ⟨isConnective_of_aggregate hf, argument, rfl, isArgument_trim_chars ha⟩⟩
    · rintro rfl
      revert hf
      decide
    · rcases aggregates_chars hf c hc with h | h <;>
        simp [isFoldedPart, isPart, isStart, h]

/-- A safe identifier that is no connective is written as a column. -/
theorem isColumn_of_isSafe {s : String} (hs : isSafe s = true)
    (hp : Mark.isConnective s.toList = false) : s.toList ≠ [] ∧ Mark.IsColumn s.toList := by
  obtain ⟨w, rest, he, hne, hw, hr⟩ := exists_argument hs
  rw [he] at hp ⊢
  refine ⟨by simp [hne], ?_⟩
  rcases hr with rfl | ⟨hc, argument, rfl, ha⟩
  · rw [List.append_nil] at hp ⊢
    exact .name ⟨hne, hw, hp⟩
  · exact .call ⟨hne, hw, hc⟩ ha .nil

private theorem isColumn_after {w : List Char} (hw : ∀ c ∈ w, isFoldedPart c = true ∨ c = '.')
    {s : String} (hs : isSafe s = true) : Mark.IsColumn (w ++ '.' :: s.toList) := by
  obtain ⟨name, rest, he, -, hn, hr⟩ := exists_argument hs
  have hname : Mark.IsName (w ++ '.' :: name) :=
    { nonempty := by simp
      parts := by
        intro c hc
        rcases List.mem_append.mp hc with hc | hc
        · exact hw c hc
        · rcases List.mem_cons.mp hc with rfl | hc
          · exact .inr rfl
          · exact hn c hc
      plain := Mark.isConnective_of_point (by simp) }
  have ht : w ++ '.' :: s.toList = w ++ '.' :: name ++ rest := by simp [he]
  rw [ht]
  rcases hr with rfl | ⟨-, argument, rfl, ha⟩
  · rw [List.append_nil]
    exact .name hname
  · exact .call hname ha .nil

/-- A safe identifier that another one qualifies is written as a column. -/
theorem isColumn_qualified {q s : String} (hq : isSafe q = true) (hs : isSafe s = true) :
    (q ++ "." ++ s).toList ≠ [] ∧ Mark.IsColumn (q ++ "." ++ s).toList := by
  obtain ⟨w, rest, he, hne, hw, hr⟩ := exists_argument hq
  have ht : (q ++ "." ++ s).toList = w ++ (rest ++ '.' :: s.toList) := by
    rw [String.toList_append, String.toList_append, he]
    simp
  rw [ht]
  refine ⟨by simp, ?_⟩
  rcases hr with rfl | ⟨hc, argument, rfl, ha⟩
  -- The qualifier is a word that the point joins to the name, or it ends with a parenthesis, after
  -- which the point begins a word.
  · exact isColumn_after hw hs
  · have hrest : '(' :: (argument ++ [')']) ++ '.' :: s.toList =
        '(' :: (argument ++ ')' :: ([] ++ '.' :: s.toList)) := by simp
    rw [hrest]
    exact .call ⟨hne, hw, hc⟩ ha (isColumn_after (by simp) hs)

end Identifier

end TabularReport

import TabularReport.Proofs.Text.Trim
import TabularReport.Validation.Identifier

/-!
# The grammar of safe identifiers

A reference is a name or two names with a point between them; an aggregate is a function name before
an argument in parentheses. From these shapes follows which characters a safe identifier can have.
-/

namespace TabularReport

private theorem Text.dropWhile_ne_append (x : Char) {a : List Char} (b : List Char) (h : x ∉ a) :
    (a ++ x :: b).takeWhile (· != x) = a ∧ (a ++ x :: b).dropWhile (· != x) = x :: b := by
  have ha : ∀ c ∈ a, (c != x) = true := by
    intro c hc
    rw [bne_iff_ne]
    rintro rfl
    exact h hc
  constructor
  · rw [List.takeWhile_append_of_pos ha, List.takeWhile_cons_of_neg (by simp), List.append_nil]
  · rw [List.dropWhile_append_of_pos ha, List.dropWhile_cons_of_neg (by simp)]

namespace Identifier

open Text

/-- The characters of a name. -/
theorem isName_chars {start part : Char → Bool} {cs : List Char} (h : isName start part cs = true) :
    ∀ c ∈ cs, start c = true ∨ part c = true := by
  cases cs with
  | nil => simp
  | cons d rest =>
    simp only [isName, Bool.and_eq_true, List.all_eq_true] at h
    intro c hc
    rcases List.mem_cons.mp hc with rfl | hc
    · exact .inl h.1
    · exact .inr (h.2 c hc)

/-- A reference is a name, or two with a point between them. -/
theorem isReference_iff {start part : Char → Bool} (hs : start '.' = false) (hp : part '.' = false)
    {cs : List Char} :
    isReference start part cs = true ↔
      isName start part cs = true ∨
        ∃ a b, cs = a ++ '.' :: b ∧ isName start part a = true ∧ isName start part b = true := by
  have hn {a : List Char} (ha : isName start part a = true) : '.' ∉ a := by
    intro hm
    rcases isName_chars ha '.' hm with h | h
    · rw [hs] at h; cases h
    · rw [hp] at h; cases h
  constructor
  · intro h
    unfold isReference at h
    split at h
    · exact .inl h
    · next d rest hd =>
      have hdot : d = '.' := by
        have hm := List.head_dropWhile_not (p := (· != '.')) (l := cs) (by rw [hd]; simp)
        simpa [hd] using hm
      subst hdot
      rw [Bool.and_eq_true] at h
      refine .inr ⟨_, rest, ?_, h.1, h.2⟩
      rw [← hd, List.takeWhile_append_dropWhile]
  · rintro (h | ⟨a, b, rfl, ha, hb⟩)
    · have hd : cs.dropWhile (· != '.') = [] := by
        rw [List.dropWhile_eq_nil_iff]
        intro c hc
        rw [bne_iff_ne]
        rintro rfl
        exact hn h hc
      rw [isReference, hd]
      exact h
    · obtain ⟨ht, hd⟩ := dropWhile_ne_append '.' b (hn ha)
      rw [isReference, hd, ht]
      simp only [ha, hb, Bool.and_self]

/-- The characters of a reference. -/
theorem isReference_chars {start part : Char → Bool} (hs : start '.' = false)
    (hp : part '.' = false)
    {cs : List Char} (h : isReference start part cs = true) :
    ∀ c ∈ cs, start c = true ∨ part c = true ∨ c = '.' := by
  intro c hc
  rcases (isReference_iff hs hp).mp h with hn | ⟨a, b, rfl, ha, hb⟩
  · exact (isName_chars hn c hc).imp_right .inl
  · rcases List.mem_append.mp hc with hc | hc
    · exact (isName_chars ha c hc).imp_right .inl
    · rcases List.mem_cons.mp hc with hc | hc
      · exact .inr (.inr hc)
      · exact (isName_chars hb c hc).imp_right .inl

private theorem isAlpha_of_foldLetter {c : Char} (h : (foldLetter c).isLower = true) :
    c.isAlpha = true ∨ isFoldedLetter c = true := by
  unfold foldLetter at h
  split at h
  · next hs =>
    right
    simp only [isFoldedLetter, hs, Bool.true_or]
  · have ha : c.isAlpha = (c.isUpper || c.isLower) := rfl
    left
    unfold Char.toLower at h
    split at h
    · next hu =>
      have hup : c.isUpper = true := decide_eq_true hu
      rw [ha, hup, Bool.true_or]
    · rw [ha, h, Bool.or_true]

/-- The function name of an aggregate has letters of ASCII, or the long s. -/
theorem aggregates_chars {f : List Char} (h : String.ofList (f.map foldLetter) ∈ aggregates) :
    ∀ c ∈ f, c.isAlpha = true ∨ isFoldedLetter c = true := by
  have hl : ∀ s ∈ aggregates, s.toList.all Char.isLower = true := by decide
  intro c hc
  apply isAlpha_of_foldLetter
  refine List.all_eq_true.mp (hl _ h) (foldLetter c) ?_
  rw [String.toList_ofList]
  exact List.mem_map_of_mem hc

/-- An aggregate is a function name and an argument in parentheses. -/
theorem isAggregate_iff {cs : List Char} :
    isAggregate cs = true ↔
      ∃ f inner, cs = f ++ '(' :: (inner ++ [')']) ∧
        String.ofList (f.map foldLetter) ∈ aggregates ∧ isArgument (trim inner) = true := by
  constructor
  · intro h
    unfold isAggregate at h
    split at h
    · next d rest hd hlast =>
      have hopen : d = '(' := by
        have hm := List.head_dropWhile_not (p := (· != '(')) (l := cs) (by rw [hd]; simp)
        simpa [hd] using hm
      subst hopen
      have hcs : cs.takeWhile (· != '(') ++ '(' :: rest = cs := by
        rw [← hd, List.takeWhile_append_dropWhile]
      have hrest : rest.dropLast ++ [')'] = rest := by
        rw [← hcs, List.getLast?_append, List.getLast?_cons, Option.some_or] at hlast
        cases hr : rest.getLast? with
        | none => simp [hr] at hlast
        | some c =>
          rw [hr, Option.getD_some] at hlast
          obtain ⟨inner, rfl⟩ := List.getLast?_eq_some_iff.mp (hr.trans hlast)
          rw [List.dropLast_concat]
      rw [Bool.and_eq_true, List.contains_iff_mem] at h
      exact ⟨_, rest.dropLast, by rw [hrest, hcs], h⟩
    · cases h
  · rintro ⟨f, inner, rfl, hf, ha⟩
    have hopen : '(' ∉ f := by
      intro hm
      rcases aggregates_chars hf '(' hm with h | h <;> revert h <;> decide
    obtain ⟨ht, hd⟩ := dropWhile_ne_append '(' (inner ++ [')']) hopen
    have hlast : (f ++ '(' :: (inner ++ [')'])).getLast? = some ')' := by
      rw [List.getLast?_append, List.getLast?_cons, List.getLast?_concat]
      rfl
    rw [isAggregate, hd, hlast, ht]
    simp only [List.dropLast_concat, Bool.and_eq_true, List.contains_iff_mem]
    exact ⟨hf, ha⟩

/-- A further character of a name inside an aggregate, where letter case does not count. -/
def isFoldedPart (c : Char) : Bool := isPart c || isFoldedLetter c

private theorem toNat_of_isAlpha {c : Char} (h : c.isAlpha = true) :
    (65 ≤ c.toNat ∧ c.toNat ≤ 90) ∨ (97 ≤ c.toNat ∧ c.toNat ≤ 122) := by
  have hcase : c.isUpper = true ∨ c.isLower = true := (Bool.or_eq_true _ _).mp h
  rcases hcase with hu | hl
  · have hrange : 'A'.val ≤ c.val ∧ c.val ≤ 'Z'.val := of_decide_eq_true hu
    exact .inl hrange
  · obtain ⟨hlow, hhigh⟩ := (Bool.and_eq_true _ _).mp hl
    exact .inr ⟨of_decide_eq_true hlow, of_decide_eq_true hhigh⟩

/-- The code points of the characters of names. -/
theorem toNat_of_isFoldedPart {c : Char} (h : isFoldedPart c = true) :
    (65 ≤ c.toNat ∧ c.toNat ≤ 90) ∨ (97 ≤ c.toNat ∧ c.toNat ≤ 122) ∨ c.toNat = 95 ∨
      (48 ≤ c.toNat ∧ c.toNat ≤ 57) ∨ c.toNat = 0x17F ∨ c.toNat = 0x212A := by
  simp only [isFoldedPart, isPart, isStart, isFoldedLetter, isDigit, Bool.or_eq_true,
    Bool.and_eq_true, decide_eq_true_eq, beq_iff_eq] at h
  rcases h with ((h | rfl) | h) | h
  · rcases toNat_of_isAlpha h with h | h
    · exact .inl h
    · exact .inr (.inl h)
  · exact .inr (.inr (.inl rfl))
  · exact .inr (.inr (.inr (.inl h)))
  · exact .inr (.inr (.inr (.inr h)))

/-- The characters of names are no blanks. -/
theorem isBlank_eq_false_of_isFoldedPart {c : Char} (h : isFoldedPart c = true) :
    isBlank c = false := by
  have hn := toNat_of_isFoldedPart h
  simp only [isBlank, Bool.or_eq_false_iff, Bool.and_eq_false_iff, decide_eq_false_iff_not,
    beq_eq_false_iff_ne]
  omega

/-- The characters of what an aggregate is taken of. -/
theorem isArgument_chars {cs : List Char} (h : isArgument cs = true) :
    ∀ c ∈ cs, isFoldedPart c = true ∨ c = '.' ∨ c = '*' := by
  intro c hc
  rw [isArgument, Bool.or_eq_true] at h
  rcases h with h | h
  · have hs : cs = ['*'] := by simpa using h
    subst hs
    exact .inr (.inr (List.mem_singleton.mp hc))
  · rcases isReference_chars (by decide) (by decide) h c hc with hs | hp | hd
    · refine .inl ?_
      rw [Bool.or_eq_true] at hs
      rcases hs with hs | hs <;> simp [isFoldedPart, isPart, hs]
    · exact .inl hp
    · exact .inr (.inl hd)

/-- The characters between the parentheses of an aggregate. -/
theorem isArgument_trim_chars {inner : List Char} (h : isArgument (trim inner) = true) :
    ∀ c ∈ inner, isFoldedPart c = true ∨ c = '.' ∨ c = '*' ∨ isBlank c = true := by
  obtain ⟨l, r, hi, hl, hr⟩ := exists_eq_append_trim inner
  intro c hc
  rw [hi, List.mem_append, List.mem_append] at hc
  rcases hc with (hc | hc) | hc
  · simp [hl c hc]
  · rcases isArgument_chars h c hc with h | h | h <;> simp [h]
  · simp [hr c hc]

/-- The characters of an aggregate. -/
theorem isAggregate_chars {cs : List Char} (h : isAggregate cs = true) :
    ∀ c ∈ cs, isFoldedPart c = true ∨ c = '.' ∨ c = '*' ∨ c = '(' ∨ c = ')' ∨ isBlank c = true := by
  obtain ⟨f, inner, rfl, hf, ha⟩ := isAggregate_iff.mp h
  intro c hc
  simp only [List.mem_append, List.mem_cons, List.not_mem_nil, or_false] at hc
  rcases hc with hc | rfl | hc | rfl
  · refine .inl ?_
    rcases aggregates_chars hf c hc with h | h <;> simp [isFoldedPart, isPart, isStart, h]
  · simp
  · rcases isArgument_trim_chars ha c hc with h | h | h | h <;> simp [h]
  · simp

/-- The characters of a safe identifier; only an aggregate has others than those of names. -/
theorem isSafe_chars {s : String} (h : isSafe s = true) :
    (∀ c ∈ s.toList, isPart c = true ∨ c = '.') ∨ isAggregate s.toList = true := by
  rw [isSafe, Bool.or_eq_true] at h
  refine h.imp (fun hr c hc ↦ ?_) id
  rcases isReference_chars (by decide) (by decide) hr c hc with hs | hp | hd
  · exact .inl (by simp [isPart, hs])
  · exact .inl hp
  · exact .inr hd

/-- A safe identifier has none of the characters that names, points, stars, parentheses and blanks
leave out. -/
theorem not_mem_of_isSafe {s : String} (h : isSafe s = true) {c : Char}
    (hc : isFoldedPart c = false ∧ isBlank c = false ∧ c ∉ ['.', '*', '(', ')']) :
    c ∉ s.toList := by
  intro hm
  simp only [List.mem_cons, List.not_mem_nil, or_false, not_or] at hc
  rcases isSafe_chars h with hr | ha
  · rcases hr c hm with hp | hd
    · simp [isFoldedPart, hp] at hc
    · exact hc.2.2.1 hd
  · rcases isAggregate_chars ha c hm with hp | hd | hd | hd | hd | hb <;> simp_all

end Identifier

end TabularReport

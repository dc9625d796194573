import Mathlib.Data.List.Forall2
import TabularReport.Proofs.Validation.Identifier

/-!
# What the identifier check accepts

The texts that pass the check are derived here rule by rule from characters alone, apart from the
functions that check them. A text passes exactly when it has a derivation as a whole. A derivation
leaves no room for blanks at the ends, for a second pair of parentheses, or for a character that
would end a name or begin another part of a statement.
-/

namespace TabularReport.Identifier

open Text

/-- The characters outside ASCII that count as letters where letter case does not count. -/
def caseless : List Char := ['\u017F', '\u212A']

/-- A letter of ASCII, an underscore, or one of some further characters. -/
inductive IsLetter (further : List Char) (c : Char) : Prop
  | small : 'a' ≤ c → c ≤ 'z' → IsLetter further c
  | capital : 'A' ≤ c → c ≤ 'Z' → IsLetter further c
  | underscore : c = '_' → IsLetter further c
  | further : c ∈ further → IsLetter further c

/-- A decimal digit of ASCII. -/
def IsDigit (c : Char) : Prop := '0' ≤ c ∧ c ≤ '9'

/-- A name: a letter, and letters and digits after it. -/
inductive Name (further : List Char) : List Char → Prop
  | begins {c : Char} {rest : List Char} :
      IsLetter further c → (∀ d ∈ rest, IsLetter further d ∨ IsDigit d) → Name further (c :: rest)

/-- A name, or a name and another one after a point. -/
inductive Path (further : List Char) : List Char → Prop
  | name {a : List Char} : Name further a → Path further a
  | qualified {a b : List Char} : Name further a → Name further b → Path further (a ++ '.' :: b)

/-- What an aggregate is taken of: everything, or a path in which letter case does not count. -/
inductive Operand : List Char → Prop
  | star : Operand ['*']
  | path {a : List Char} : Path caseless a → Operand a

/-- Whether a character is a given small letter in some letter case. -/
inductive Spells (letter : Char) : Char → Prop
  | cased {c : Char} : c.toLower = letter → Spells letter c
  | long : letter = 's' → Spells letter '\u017F'

/-- Whether characters spell the name of an aggregate function in some letter case. -/
def SpellsFunction (cs : List Char) : Prop :=
  ∃ f ∈ ["count", "sum", "avg", "min", "max"], List.Forall₂ Spells f.toList cs

/-- The texts that are safe as references: paths, and aggregates of an operand, around which blanks
may stand. -/
inductive Derives : List Char → Prop
  | path {a : List Char} : Path [] a → Derives a
  | aggregate {f l a r : List Char} :
      SpellsFunction f → (∀ c ∈ l, isBlank c = true) → Operand a → (∀ c ∈ r, isBlank c = true) →
      Derives (f ++ '(' :: (l ++ a ++ r ++ [')']))

private theorem toNat_beq_iff {c d : Char} : (c.toNat == d.toNat) = true ↔ c = d := by
  rw [beq_iff_eq, Char.toNat_inj]

private theorem isStart_iff {c : Char} : isStart c = true ↔ IsLetter [] c := by
  rw [isStart]
  -- The tests of letters are opened as they stand: their equations belong to other modules.
  delta Char.isAlpha Char.isUpper Char.isLower
  simp only [Bool.or_eq_true, Bool.and_eq_true, decide_eq_true_eq, beq_iff_eq]
  constructor
  · rintro ((⟨hl, hu⟩ | ⟨hl, hu⟩) | h)
    · exact .capital hl hu
    · exact .small hl hu
    · exact .underscore h
  · rintro (⟨hl, hu⟩ | ⟨hl, hu⟩ | h | h)
    · exact .inl (.inr ⟨hl, hu⟩)
    · exact .inl (.inl ⟨hl, hu⟩)
    · exact .inr h
    · cases h

private theorem isDigit_iff {c : Char} : isDigit c = true ↔ IsDigit c := by
  simp only [Text.isDigit, IsDigit, Bool.and_eq_true, decide_eq_true_eq, Char.le_def,
    UInt32.le_iff_toNat_le]
  exact Iff.rfl

private theorem isFoldedLetter_iff {c : Char} : isFoldedLetter c = true ↔ c ∈ caseless := by
  simp only [isFoldedLetter, Bool.or_eq_true, caseless, List.mem_cons, List.not_mem_nil, or_false]
  exact or_congr (toNat_beq_iff (d := '\u017F')) (toNat_beq_iff (d := '\u212A'))

private theorem isLetter_caseless_iff {c : Char} :
    IsLetter caseless c ↔ IsLetter [] c ∨ c ∈ caseless := by
  constructor
  · rintro (⟨hl, hu⟩ | ⟨hl, hu⟩ | h | h)
    · exact .inl (.small hl hu)
    · exact .inl (.capital hl hu)
    · exact .inl (.underscore h)
    · exact .inr h
  · rintro ((⟨hl, hu⟩ | ⟨hl, hu⟩ | h | h) | h)
    · exact .small hl hu
    · exact .capital hl hu
    · exact .underscore h
    · cases h
    · exact .further h

section path

variable {further : List Char} {start part : Char → Bool}

private theorem isName_iff (hs : ∀ c, start c = true ↔ IsLetter further c)
    (hp : ∀ c, part c = true ↔ IsLetter further c ∨ IsDigit c) {cs : List Char} :
    isName start part cs = true ↔ Name further cs := by
  constructor
  · intro h
    cases cs with
    | nil => cases h
    | cons c rest =>
      rw [isName, Bool.and_eq_true, List.all_eq_true] at h
      exact .begins ((hs c).mp h.1) fun d hd ↦ (hp d).mp (h.2 d hd)
  · rintro ⟨hc, hrest⟩
    rw [isName, Bool.and_eq_true, List.all_eq_true]
    exact ⟨(hs _).mpr hc, fun d hd ↦ (hp d).mpr (hrest d hd)⟩

private theorem isReference_iff_path (hs : ∀ c, start c = true ↔ IsLetter further c)
    (hp : ∀ c, part c = true ↔ IsLetter further c ∨ IsDigit c) (hpoint : part '.' = false)
    {cs : List Char} : isReference start part cs = true ↔ Path further cs := by
  have hpoint' : start '.' = false := by
    rw [← Bool.not_eq_true, hs]
    intro h
    rw [(hp '.').mpr (.inl h)] at hpoint
    cases hpoint
  rw [isReference_iff hpoint' hpoint]
  simp only [isName_iff hs hp]
  constructor
  · rintro (h | ⟨a, b, rfl, ha, hb⟩)
    · exact .name h
    · exact .qualified ha hb
  · rintro (h | ⟨ha, hb⟩)
    · exact .inl h
    · exact .inr ⟨_, _, rfl, ha, hb⟩

end path

private theorem isReference_iff_path_nil {cs : List Char} :
    isReference isStart isPart cs = true ↔ Path [] cs := by
  refine isReference_iff_path (fun c ↦ isStart_iff) (fun c ↦ ?_) (by decide)
  rw [isPart, Bool.or_eq_true, isStart_iff, isDigit_iff]

private theorem isArgument_iff {cs : List Char} : isArgument cs = true ↔ Operand cs := by
  have hstart (c : Char) : (isStart c || isFoldedLetter c) = true ↔ IsLetter caseless c := by
    rw [Bool.or_eq_true, isStart_iff, isFoldedLetter_iff, isLetter_caseless_iff]
  have hpart (c : Char) :
      (isPart c || isFoldedLetter c) = true ↔ IsLetter caseless c ∨ IsDigit c := by
    rw [Bool.or_eq_true, isPart, Bool.or_eq_true, isStart_iff, isDigit_iff, isFoldedLetter_iff,
      isLetter_caseless_iff, or_right_comm]
  rw [isArgument, Bool.or_eq_true, isReference_iff_path hstart hpart (by decide), beq_iff_eq]
  constructor
  · rintro (rfl | h)
    · exact .star
    · exact .path h
  · rintro (_ | h)
    · exact .inl rfl
    · exact .inr h

private theorem foldLetter_of_ne {c : Char} (h : c ≠ '\u017F') : foldLetter c = c.toLower := by
  rw [foldLetter, if_neg]
  intro hc
  exact h ((toNat_beq_iff (d := '\u017F')).mp hc)

private theorem foldLetter_eq_iff {letter c : Char} (hl : letter.isLower = true) :
    foldLetter c = letter ↔ Spells letter c := by
  constructor
  · intro h
    by_cases hc : c = '\u017F'
    · subst hc
      exact .long h.symm
    · rw [foldLetter_of_ne hc] at h
      exact .cased h
  · rintro (h | h)
    · rw [foldLetter_of_ne, h]
      rintro rfl
      rw [← h] at hl
      exact absurd hl (by decide)
    · rw [h]
      rfl

private theorem map_foldLetter_eq_iff {word cs : List Char} (hw : ∀ l ∈ word, l.isLower = true) :
    cs.map foldLetter = word ↔ List.Forall₂ Spells word cs := by
  induction word generalizing cs with
  | nil => simp
  | cons l rest ih =>
    obtain ⟨hl, hrest⟩ := List.forall_mem_cons.mp hw
    cases cs with
    | nil => simp
    | cons c more =>
      rw [List.map_cons, List.cons.injEq, foldLetter_eq_iff hl, ih hrest, List.forall₂_cons]

private theorem mem_aggregates_iff {cs : List Char} :
    String.ofList (cs.map foldLetter) ∈ aggregates ↔ SpellsFunction cs := by
  have hsmall : ∀ f ∈ aggregates, ∀ l ∈ f.toList, l.isLower = true := by
    intro f hf
    refine List.all_eq_true.mp ?_
    revert f
    decide
  constructor
  · intro h
    refine ⟨_, h, (map_foldLetter_eq_iff (hsmall _ h)).mp ?_⟩
    rw [String.toList_ofList]
  · rintro ⟨f, hf, h⟩
    rw [(map_foldLetter_eq_iff (hsmall f hf)).mpr h, String.ofList_toList]
    exact hf

private theorem isArgument_trim_iff {inner : List Char} :
    isArgument (trim inner) = true ↔
      ∃ l a r, inner = l ++ a ++ r ∧ (∀ c ∈ l, isBlank c = true) ∧ Operand a ∧
        ∀ c ∈ r, isBlank c = true := by
  constructor
  · intro h
    obtain ⟨l, r, hinner, hl, hr⟩ := exists_eq_append_trim inner
    exact ⟨l, trim inner, r, hinner, hl, isArgument_iff.mp h, hr⟩
  · rintro ⟨l, a, r, rfl, hl, ha, hr⟩
    have harg := isArgument_iff.mpr ha
    have hblank : ∀ c ∈ a, isBlank c = false := by
      intro c hc
      rcases isArgument_chars harg c hc with h | rfl | rfl
      · exact isBlank_eq_false_of_isFoldedPart h
      · decide
      · decide
    have hne : a ≠ [] := by
      rintro rfl
      cases harg
    rw [trim_append hl hne (fun c hc ↦ hblank c (List.mem_of_mem_head? hc))
      (fun c hc ↦ hblank c (List.mem_of_mem_getLast? hc)) hr]
    exact harg

private theorem isSafe_iff_derives {s : String} : isSafe s = true ↔ Derives s.toList := by
  rw [isSafe, Bool.or_eq_true, isReference_iff_path_nil, isAggregate_iff]
  simp only [mem_aggregates_iff, isArgument_trim_iff]
  constructor
  · rintro (h | ⟨f, _, hs, hf, l, a, r, rfl, hl, ha, hr⟩)
    · exact .path h
    · rw [hs]
      exact .aggregate hf hl ha hr
  · generalize s.toList = cs
    rintro (h | ⟨hf, hl, ha, hr⟩)
    · exact .inl h
    · exact .inr ⟨_, _, rfl, hf, _, _, _, rfl, hl, ha, hr⟩

/-- What a statement around it has to know of a text: its parentheses are one pair that is closed
at the end, it has no character that quotes, separates, computes or compares, and it neither begins
nor ends with a blank. -/
structure IsTight (cs : List Char) : Prop where
  parentheses : ('(' ∉ cs ∧ ')' ∉ cs) ∨
    ∃ a b, cs = a ++ '(' :: (b ++ [')']) ∧ ∀ c ∈ a ++ b, c ≠ '(' ∧ c ≠ ')'
  without : ∀ c ∈ ['\'', '"', '\u0060', ';', ',', '$', '-', '/', '<', '>', '=', '!'], c ∉ cs
  ends : ∀ c, isBlank c = true → cs.head? ≠ some c ∧ cs.getLast? ≠ some c

private theorem ne_parenthesis {c : Char}
    (h : isFoldedPart c = true ∨ c = '.' ∨ c = '*' ∨ isBlank c = true) : c ≠ '(' ∧ c ≠ ')' := by
  constructor
  · rintro rfl
    revert h
    decide
  · rintro rfl
    revert h
    decide

private theorem not_mem_of_chars {cs : List Char} (h : ∀ c ∈ cs, isPart c = true ∨ c = '.') :
    ('(' ∉ cs ∧ ')' ∉ cs) ∧ ∀ c ∈ cs, isBlank c = false := by
  have hpart : ∀ c ∈ cs, isFoldedPart c = true ∨ c = '.' := by
    intro c hc
    exact (h c hc).imp_left fun hp ↦ by rw [isFoldedPart, hp, Bool.true_or]
  refine ⟨⟨fun hm ↦ ?_, fun hm ↦ ?_⟩, fun c hc ↦ ?_⟩
  · exact (ne_parenthesis ((hpart _ hm).imp_right .inl)).1 rfl
  · exact (ne_parenthesis ((hpart _ hm).imp_right .inl)).2 rfl
  · rcases hpart c hc with hp | rfl
    · exact isBlank_eq_false_of_isFoldedPart hp
    · decide

private theorem isFoldedPart_of_aggregates {f : List Char}
    (h : String.ofList (f.map foldLetter) ∈ aggregates) : ∀ c ∈ f, isFoldedPart c = true := by
  intro c hc
  rcases aggregates_chars h c hc with ha | hl
  · simp [isFoldedPart, isPart, isStart, ha]
  · simp [isFoldedPart, hl]

private theorem isTight_of_isSafe {s : String} (h : isSafe s = true) : IsTight s.toList := by
  have hwithout : ∀ c ∈ ['\'', '"', '\u0060', ';', ',', '$', '-', '/', '<', '>', '=', '!'],
      c ∉ s.toList := by
    intro c hc
    refine not_mem_of_isSafe h ?_
    simp only [List.mem_cons, List.not_mem_nil, or_false] at hc
    rcases hc with rfl | rfl | rfl | rfl | rfl | rfl | rfl | rfl | rfl | rfl | rfl | rfl <;> decide
  rcases isSafe_chars h with hpath | hagg
  · obtain ⟨hnone, hblank⟩ := not_mem_of_chars hpath
    refine ⟨.inl hnone, hwithout, fun c hc ↦ ⟨fun hhead ↦ ?_, fun hlast ↦ ?_⟩⟩
    · rw [hblank c (List.mem_of_head? hhead)] at hc
      cases hc
    · rw [hblank c (List.mem_of_getLast? hlast)] at hc
      cases hc
  · obtain ⟨f, inner, hs, hf, ha⟩ := isAggregate_iff.mp hagg
    have hname := isFoldedPart_of_aggregates hf
    refine ⟨.inr ⟨f, inner, hs, fun c hc ↦ ?_⟩, hwithout, fun c hc ↦ ⟨fun hhead ↦ ?_, ?_⟩⟩
    · rcases List.mem_append.mp hc with hc | hc
      · exact ne_parenthesis (.inl (hname c hc))
      · exact ne_parenthesis (isArgument_trim_chars ha c hc)
    · rw [hs] at hhead
      cases f with
      | nil =>
        cases hhead
        exact absurd hc (by decide)
      | cons d rest =>
        cases hhead
        rw [isBlank_eq_false_of_isFoldedPart (hname _ (List.mem_cons_self ..))] at hc
        cases hc
    · rw [hs, List.getLast?_append, List.getLast?_cons, List.getLast?_concat]
      intro hlast
      cases hlast
      exact absurd hc (by decide)

/-- The check accepts a text exactly when the whole text has a derivation, and refuses every other
one by name. What is accepted is tight. -/
theorem check_eq_ok_iff_derives (s context : String) :
    (isSafe s = true ↔ Derives s.toList) ∧ (check s context = .ok () ↔ Derives s.toList) ∧
      (check s context = .error (.invalidIdentifier context s) ↔ ¬ Derives s.toList) ∧
      (isSafe s = true → IsTight s.toList) := by
  refine ⟨isSafe_iff_derives, ?_, ?_, isTight_of_isSafe⟩
  · rw [← isSafe_iff_derives, check]
    split <;> simp [*]
  · rw [← isSafe_iff_derives, check]
    split <;> simp [*]

example :
    isSafe "\u017FuM(\n\u212A_1.tOtal )" = true ∧ isSafe "\u212A_1.tOtal" = false ∧
      isSafe "SUM(amount)\n" = false := by
  decide +kernel

end TabularReport.Identifier

import Mathlib.Data.List.Perm.Subperm
import TabularReport.Json.Basic

/-!
# Maps of fields

The order of texts by code point is strict and total. A map that is built field by field keeps its
keys in this order, each once, so that it is determined by its fields: two lists of pairs whose keys
differ within each list give one map exactly when they hold the same pairs.
-/

namespace TabularReport

namespace Text

private theorem charsBefore_trans {a b c : List Char} (hab : charsBefore a b = true)
    (hbc : charsBefore b c = true) : charsBefore a c = true := by
  induction a generalizing b c with
  | nil =>
    cases c with
    | nil => cases b <;> simp [charsBefore] at hbc
    | cons => rfl
  | cons x xs ih =>
    cases b with
    | nil => simp [charsBefore] at hab
    | cons y ys =>
      cases c with
      | nil => simp [charsBefore] at hbc
      | cons z zs =>
        simp only [charsBefore] at hab hbc ⊢
        split_ifs at hab hbc ⊢ <;> first | rfl | omega | exact ih hab hbc

private theorem charsBefore_irrefl (a : List Char) : charsBefore a a = false := by
  induction a with
  | nil => rfl
  | cons x xs ih => simpa [charsBefore] using ih

private theorem eq_of_not_charsBefore {a b : List Char} (hab : charsBefore a b = false)
    (hba : charsBefore b a = false) : a = b := by
  induction a generalizing b with
  | nil =>
    cases b with
    | nil => rfl
    | cons => simp [charsBefore] at hab
  | cons x xs ih =>
    cases b with
    | nil => simp [charsBefore] at hba
    | cons y ys =>
      simp only [charsBefore] at hab hba
      split_ifs at hab hba
      have hxy : x = y := Char.toNat_inj.mp (by omega)
      rw [hxy, ih hab hba]

private theorem before_trans {a b c : String} (hab : before a b = true) (hbc : before b c = true) :
    before a c = true := charsBefore_trans hab hbc

private theorem ne_of_before {a b : String} (h : before a b = true) : a ≠ b := by
  rintro rfl
  rw [before, charsBefore_irrefl] at h
  cases h

private theorem before_of_not_before {a b : String} (hne : a ≠ b) (h : before a b = false) :
    before b a = true := by
  by_contra hn
  exact hne (String.toList_inj.mp (eq_of_not_charsBefore h (Bool.eq_false_iff.mpr hn)))

end Text

namespace Fields

/-- Whether the keys of a map stand in their order, each once. -/
def IsSorted (fields : Fields) : Prop := fields.Pairwise fun a b ↦ Text.before a.1 b.1 = true

/-- The keys of a sorted map differ. -/
theorem IsSorted.nodup_keys {fields : Fields} (h : IsSorted fields) : (fields.map (·.1)).Nodup :=
  List.pairwise_map.mpr (h.imp Text.ne_of_before)

/-- A map whose keys differ holds the value of each of its pairs under the key. -/
theorem get?_eq_some_iff {fields : Fields} (h : (fields.map (·.1)).Nodup) {key : String}
    {value : Json} : get? fields key = some value ↔ (key, value) ∈ fields := by
  induction fields with
  | nil => simp [get?]
  | cons p rest ih =>
    rw [List.map_cons, List.nodup_cons] at h
    rw [get?, List.find?_cons]
    by_cases hk : p.1 = key
    · subst hk
      have hrest : (p.1, value) ∉ rest := fun hm ↦ h.1 (List.mem_map.mpr ⟨_, hm, rfl⟩)
      simp [hrest, Prod.ext_iff, eq_comm]
    · have hne : (key, value) ≠ p := fun he ↦ hk (congrArg Prod.fst he).symm
      rw [beq_false_of_ne hk, List.mem_cons, or_iff_right hne]
      exact ih h.2

/-- Putting a value under a key replaces the pair of this key and keeps all others. -/
theorem mem_insert {fields : Fields} (h : IsSorted fields) {key : String} {value : Json}
    {p : String × Json} :
    p ∈ insert fields key value ↔ p = (key, value) ∨ p ∈ fields ∧ p.1 ≠ key := by
  induction fields with
  | nil => simp [insert]
  | cons q rest ih =>
    obtain ⟨k, v⟩ := q
    obtain ⟨hq, hrest⟩ := List.pairwise_cons.mp h
    rw [insert]
    split_ifs with hk hb
    · subst hk
      have hne : p ∈ rest → p.1 ≠ k := fun hm ↦ (Text.ne_of_before (hq p hm)).symm
      grind
    · have hne : p ∈ rest → p.1 ≠ key := fun hm ↦
        (Text.ne_of_before (Text.before_trans hb (hq p hm))).symm
      grind
    · rw [List.mem_cons, List.mem_cons, ih hrest]
      grind

/-- Putting a value under a key keeps a map sorted. -/
theorem isSorted_insert {fields : Fields} (h : IsSorted fields) (key : String) (value : Json) :
    IsSorted (insert fields key value) := by
  induction fields with
  | nil => exact List.pairwise_singleton _ _
  | cons q rest ih =>
    obtain ⟨k, v⟩ := q
    obtain ⟨hq, hrest⟩ := List.pairwise_cons.mp h
    rw [insert]
    split_ifs with hk hb
    · subst hk
      exact .cons hq hrest
    · refine .cons (List.forall_mem_cons.mpr ⟨hb, fun p hp ↦ ?_⟩) h
      exact Text.before_trans hb (hq p hp)
    · refine .cons (fun p hp ↦ ?_) (ih hrest)
      rcases (mem_insert hrest).mp hp with rfl | ⟨hp, -⟩
      · exact Text.before_of_not_before (Ne.symm hk) (Bool.eq_false_iff.mpr hb)
      · exact hq p hp

private theorem get?_cons (k : String) (v : Json) (rest : Fields) (key : String) :
    get? ((k, v) :: rest) key = if k = key then some v else get? rest key := by
  rw [get?, List.find?_cons]
  by_cases h : k = key
  · rw [if_pos h, beq_iff_eq.mpr h]
    rfl
  · rw [if_neg h, beq_false_of_ne h]
    rfl

/-- A value is found under the key that it was put under, and every other key holds what it held. -/
theorem get?_insert (fields : Fields) (key : String) (value : Json) (other : String) :
    get? (insert fields key value) other =
      if key = other then some value else get? fields other := by
  induction fields with
  | nil => rw [insert, get?_cons]
  | cons q rest ih =>
    obtain ⟨k, v⟩ := q
    rw [insert]
    split_ifs with hk hb <;> simp only [get?_cons, ih] <;> grind

/-- A map holds nothing under a key that none of its pairs has. -/
theorem get?_eq_none {fields : Fields} {key : String} (h : ∀ p ∈ fields, p.1 ≠ key) :
    get? fields key = none := by
  rw [get?, Option.map_eq_none_iff, List.find?_eq_none]
  exact fun p hp ↦ by simpa using h p hp

/-- Under a key of an overlay stands what is above, null or not, and without it what is below. -/
theorem get?_overlay (below : Fields) {above : Fields} (hd : (above.map (·.1)).Nodup)
    (key : String) : get? (overlay below above) key = (get? above key).or (get? below key) := by
  induction above generalizing below with
  | nil => rfl
  | cons p rest ih =>
    rw [List.map_cons, List.nodup_cons] at hd
    have hstep := ih (insert below p.1 p.2) hd.2
    rw [get?_insert] at hstep
    refine hstep.trans ?_
    rw [get?_cons]
    by_cases hk : p.1 = key
    · subst hk
      have hrest : get? rest p.1 = none :=
        get?_eq_none fun q hq he ↦ hd.1 (List.mem_map.mpr ⟨q, hq, he⟩)
      rw [hrest, if_pos rfl, if_pos rfl, Option.none_or, Option.some_or]
    · rw [if_neg hk, if_neg hk]

/-- Overlaying a sorted map leaves it sorted. -/
theorem isSorted_overlay {below : Fields} (h : IsSorted below) (above : Fields) :
    IsSorted (overlay below above) := by
  induction above generalizing below with
  | nil => exact h
  | cons p rest ih => exact ih (isSorted_insert h p.1 p.2)

private theorem mem_overlay {below above : Fields} (h : IsSorted below)
    (hd : (above.map (·.1)).Nodup) {p : String × Json} :
    p ∈ overlay below above ↔ p ∈ above ∨ p ∈ below ∧ p.1 ∉ above.map (·.1) := by
  induction above generalizing below with
  | nil => simp [overlay]
  | cons q rest ih =>
    rw [List.map_cons, List.nodup_cons] at hd
    have hrest : p ∈ rest → p.1 ∈ rest.map (·.1) := fun hm ↦ List.mem_map.mpr ⟨p, hm, rfl⟩
    have hstep := ih (isSorted_insert h q.1 q.2) hd.2
    rw [mem_insert h] at hstep
    refine hstep.trans ?_
    grind

/-- The map of a list of pairs is sorted. -/
theorem isSorted_ofList (pairs : List (String × Json)) : IsSorted (ofList pairs) :=
  isSorted_overlay List.Pairwise.nil pairs

/-- The map of a list of pairs whose keys differ holds these pairs. -/
theorem mem_ofList {pairs : List (String × Json)} (h : (pairs.map (·.1)).Nodup)
    {p : String × Json} : p ∈ ofList pairs ↔ p ∈ pairs := by
  refine (mem_overlay List.Pairwise.nil h).trans ?_
  simp

/-- The value under a key of the map of a list of pairs whose keys differ. -/
theorem get?_ofList_eq_some_iff {pairs : List (String × Json)} (h : (pairs.map (·.1)).Nodup)
    {key : String} {value : Json} :
    get? (ofList pairs) key = some value ↔ (key, value) ∈ pairs := by
  rw [get?_eq_some_iff (isSorted_ofList pairs).nodup_keys, mem_ofList h]

/-- Sorted maps that hold the same pairs are equal. -/
theorem IsSorted.eq_of_mem_iff {a b : Fields} (ha : IsSorted a) (hb : IsSorted b)
    (h : ∀ p, p ∈ a ↔ p ∈ b) : a = b := by
  have hnodup {l : Fields} (hl : IsSorted l) : l.Nodup :=
    hl.imp fun hpq he ↦ Text.ne_of_before hpq (congrArg Prod.fst he)
  have hperm : a.Perm b := (List.perm_ext_iff_of_nodup (hnodup ha) (hnodup hb)).mpr h
  refine hperm.eq_of_pairwise (fun p q _ _ hpq hqp ↦ ?_) ha hb
  exact absurd rfl (Text.ne_of_before (Text.before_trans hpq hqp))

/-- Sorted maps that hold the same under every key are equal. -/
theorem IsSorted.eq_of_get? {a b : Fields} (ha : IsSorted a) (hb : IsSorted b)
    (h : ∀ key, get? a key = get? b key) : a = b := by
  refine ha.eq_of_mem_iff hb fun ⟨key, value⟩ ↦ ?_
  rw [← get?_eq_some_iff ha.nodup_keys, ← get?_eq_some_iff hb.nodup_keys, h]

end Fields

end TabularReport

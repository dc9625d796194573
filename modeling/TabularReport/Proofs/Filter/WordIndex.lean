import TabularReport.Proofs.Filter.Placeholder
import TabularReport.Proofs.Filter.Remainder
import TabularReport.Proofs.Statement.PageArithmetic

/-!
# Filters compiled in words

The indices of placeholders are 64-bit words. Each index is the sum of the one that a filter starts
from and a number of values. A sum beyond the largest word stops the program or wraps around, as the
program is built. In both builds a filter compiled in words is the compiled filter, as long as the
index after its last value is a word.
-/

namespace TabularReport

open Placeholder

namespace Word

/-- The word of a number. There is none for a number beyond the largest one. -/
def ofNat? (n : Nat) : Option UInt64 := if n ≤ largestWord then some (.ofNat n) else none

/-- What becomes of a sum beyond the largest word. -/
inductive Overflow where
  | stops
  | wraps

/-- The sum of a word and a number. -/
def add? : Overflow → UInt64 → Nat → Option UInt64
  | .stops, w, n => ofNat? (w.toNat + n)
  | .wraps, w, n => some (w + .ofNat n)

private theorem toNat_le_largestWord (w : UInt64) : w.toNat ≤ largestWord :=
  Nat.le_sub_one_of_lt w.toNat_lt

private theorem ofNat?_toNat (w : UInt64) : ofNat? w.toNat = some w := by
  rw [ofNat?, if_pos (toNat_le_largestWord w), UInt64.ofNat_toNat]

private theorem ofNat?_eq_some_iff {n : Nat} {w : UInt64} : ofNat? n = some w ↔ w.toNat = n := by
  constructor
  · intro h
    obtain ⟨hn, hw⟩ := Option.ite_none_right_eq_some.mp h
    rw [← Option.some.inj hw]
    exact UInt64.toNat_ofNat_of_lt' (Nat.lt_of_le_pred (by decide) hn)
  · rintro rfl
    exact ofNat?_toNat w

private theorem isSome_ofNat? (n : Nat) : (ofNat? n).isSome ↔ n ≤ largestWord := by
  unfold ofNat?
  split <;> simp [*]

private theorem exists_add? {w : UInt64} {n : Nat} (h : w.toNat + n ≤ largestWord) :
    ∃ r, add? .stops w n = some r ∧ r.toNat = w.toNat + n := by
  obtain ⟨r, hr⟩ := Option.isSome_iff_exists.mp ((isSome_ofNat? _).mpr h)
  exact ⟨r, hr, ofNat?_eq_some_iff.mp hr⟩

private theorem add?_wraps {w r : UInt64} {n : Nat} (h : add? .stops w n = some r) :
    add? .wraps w n = some r := by
  obtain ⟨-, hr⟩ := Option.ite_none_right_eq_some.mp h
  rw [← hr, UInt64.ofNat_add, UInt64.ofNat_toNat]
  rfl

end Word

/-! ### In words -/

/-- A compiled filter with a word for the first index that it leaves free. -/
structure WordFragment where
  sql : String
  params : List Json
  nextIndex : UInt64

/-- The texts of the members of a group, with their values and a word for the first free index. -/
structure WordMembers where
  clauses : List String
  params : List Json
  nextIndex : UInt64

/-- The compiled filter that a filter compiled in words stands for. -/
def WordFragment.fragment (f : WordFragment) : Fragment := ⟨f.sql, f.params, f.nextIndex.toNat⟩

/-- Join the members of a group. -/
def WordMembers.join (m : WordMembers) (logic : Logic) : WordFragment :=
  let separator := " " ++ logic.keyword ++ " "
  ⟨separator.intercalate (m.clauses.filter (! ·.isEmpty)), m.params, m.nextIndex⟩

/-- The placeholders of the words that a number of values take from a word on. -/
def placeholdersFrom? (o : Word.Overflow) (first : UInt64) (count : Nat) : Option (List String) :=
  (List.range count).mapM fun i ↦ (Word.add? o first i).map fun w ↦ placeholder w.toNat

/-- The text of a clause whose first placeholder has the given word. -/
def Clause.textFrom? (o : Word.Overflow) (k : Clause) (first : UInt64) : Option String := do
  let head := k.column ++ " " ++ k.operator.sql
  match k.operator with
  | .isNull | .isNotNull => return head
  | .isIn | .notIn =>
    let marks ← placeholdersFrom? o first k.values.length
    return head ++ " (" ++ ", ".intercalate marks ++ ")"
  | .between =>
    let second ← Word.add? o first 1
    return head ++ " " ++ placeholder first.toNat ++ " AND " ++ placeholder second.toNat
  | _ => return head ++ " " ++ placeholder first.toNat

mutual

/-- Compile a node from a word on. -/
def FilterNode.compileFrom? (o : Word.Overflow) (parameters : Fields) (first : UInt64) :
    FilterNode → Option WordFragment
  | .leaf c =>
    match c.clause? parameters with
    | none => some ⟨"", [], first⟩
    | some k => do
      let text ← k.textFrom? o first
      let next ← Word.add? o first k.values.length
      return ⟨text, k.values, next⟩
  | .group logic nodes => do
    let m ← FilterNode.compileAllFrom? o parameters first nodes
    let f := m.join logic
    return if f.sql.isEmpty then f else { f with sql := "(" ++ f.sql ++ ")" }

/-- Compile the members of a group from a word on, each one from the word that is left free by the
members before it. -/
def FilterNode.compileAllFrom? (o : Word.Overflow) (parameters : Fields) (first : UInt64) :
    List FilterNode → Option WordMembers
  | [] => some ⟨[], [], first⟩
  | n :: rest => do
    let f ← n.compileFrom? o parameters first
    let more ← FilterNode.compileAllFrom? o parameters f.nextIndex rest
    return ⟨f.sql :: more.clauses, f.params ++ more.params, more.nextIndex⟩

end

/-- Compile a filter whose first placeholder has the given word. -/
def FilterGroup.compileFrom? (g : FilterGroup) (o : Word.Overflow) (parameters : Fields)
    (first : UInt64) : Option WordFragment :=
  (FilterNode.compileAllFrom? o parameters first g.nodes).map (·.join g.logic)

/-! ### The same filters -/

/-- A compiled filter in words, when the first index that it leaves free is one. -/
def Fragment.inWords? (f : Fragment) : Option WordFragment :=
  (Word.ofNat? f.nextIndex).map fun next ↦ ⟨f.sql, f.params, next⟩

/-- The members of a group in words. -/
def Members.inWords? (m : Members) : Option WordMembers :=
  (Word.ofNat? m.nextIndex).map fun next ↦ ⟨m.clauses, m.params, next⟩

/-- A compiled filter in words stands for the filter. -/
theorem Fragment.inWords?_eq_some_iff {f : Fragment} {w : WordFragment} :
    f.inWords? = some w ↔ w.fragment = f := by
  rw [inWords?, Option.map_eq_some_iff]
  constructor
  · rintro ⟨next, hnext, rfl⟩
    rw [WordFragment.fragment, Word.ofNat?_eq_some_iff.mp hnext]
  · rintro rfl
    exact ⟨w.nextIndex, Word.ofNat?_toNat _, rfl⟩

/-- A compiled filter is one in words when the index after its last value is a word. -/
theorem Fragment.isSome_inWords? (f : Fragment) :
    f.inWords?.isSome ↔ f.nextIndex ≤ largestWord := by
  rw [inWords?, Option.isSome_map, Word.isSome_ofNat?]

private theorem mapM_placeholder {first : UInt64} {l : List Nat}
    (h : ∀ i ∈ l, first.toNat + i ≤ largestWord) :
    (l.mapM fun i ↦ (Word.add? .stops first i).map fun w ↦ placeholder w.toNat) =
      some (l.map fun i ↦ placeholder (first.toNat + i)) := by
  induction l with
  | nil => rfl
  | cons i rest ih =>
    rw [List.forall_mem_cons] at h
    obtain ⟨w, hadd, hw⟩ := Word.exists_add? h.1
    rw [List.mapM_cons, ih h.2, hadd, Option.map_some, hw]
    rfl

private theorem placeholdersFrom?_eq {first : UInt64} {count : Nat}
    (h : first.toNat + count ≤ largestWord) :
    placeholdersFrom? .stops first count = some (placeholders first.toNat count) := by
  have hmarks : placeholders first.toNat count =
      (List.range count).map fun i ↦ placeholder (first.toNat + i) := by
    rw [placeholders_eq_map, List.range'_eq_map_range, List.map_map]
    rfl
  rw [placeholdersFrom?, mapM_placeholder, hmarks]
  intro i hi
  have hlt : i < count := List.mem_range.mp hi
  omega

private theorem Clause.textFrom?_eq {k : Clause} (hk : k.Fits) {first : UInt64}
    (h : first.toNat + k.values.length ≤ largestWord) :
    k.textFrom? .stops first = some (k.text first.toNat) := by
  unfold textFrom? text
  cases ho : k.operator with
  | isIn | notIn =>
    simp only [placeholdersFrom?_eq h]
    rfl
  | between =>
    have htwo : k.values.length = 2 := by
      unfold Fits at hk
      rwa [ho] at hk
    obtain ⟨w, hadd, hw⟩ := Word.exists_add? (w := first) (n := 1) (by omega)
    simp only [hadd, ← hw]
    rfl
  | _ => rfl

private theorem Members.inWords?_join (m : Members) (logic : Logic) :
    (m.join logic).inWords? = m.inWords?.map (·.join logic) := by
  rw [Fragment.inWords?, Members.inWords?, Option.map_map]
  rfl

private theorem FilterNode.le_nextIndex_compileAll (parameters : Fields) (first : Nat)
    (ns : List FilterNode) : first ≤ (compileAll parameters first ns).nextIndex := by
  rw [(compileAll_eq parameters first ns).2.2]
  exact Nat.le_add_right ..

private theorem Fragment.inWords?_enclose (f : Fragment) :
    (if f.isEmpty then f else { f with sql := "(" ++ f.sql ++ ")" }).inWords? =
      f.inWords?.map fun w ↦
        if w.sql.isEmpty then w else { w with sql := "(" ++ w.sql ++ ")" } := by
  unfold Fragment.isEmpty inWords?
  cases hnext : Word.ofNat? f.nextIndex with
  | none => split <;> simp only [hnext, Option.map_none]
  | some next => split <;> simp only [Option.map_some, *] <;> rfl

mutual

private theorem FilterNode.compileFrom?_eq (parameters : Fields) (first : UInt64) :
    (n : FilterNode) →
    n.compileFrom? .stops parameters first = (n.compile parameters first.toNat).inWords?
  | .leaf c => by
    rw [compileFrom?, compile]
    cases hc : c.clause? parameters with
    | none => simp only [Fragment.inWords?, Word.ofNat?_toNat, Option.map_some]
    | some k =>
      have hfits : k.Fits := (Condition.clause?_fits hc).2
      simp only [Fragment.inWords?, Word.add?]
      by_cases h : first.toNat + k.values.length ≤ largestWord
      · rw [Clause.textFrom?_eq hfits h]
        cases Word.ofNat? (first.toNat + k.values.length) <;> rfl
      · -- Whether the text can be written or not, there is no word behind it.
        rw [Word.ofNat?, if_neg h]
        cases k.textFrom? .stops first <;> rfl
  | .group logic nodes => by
    rw [compileFrom?, compile, compileAllFrom?_eq parameters first nodes, Fragment.inWords?_enclose,
      Members.inWords?_join, Option.map_map]
    cases (compileAll parameters first.toNat nodes).inWords? <;> rfl

private theorem FilterNode.compileAllFrom?_eq (parameters : Fields) (first : UInt64) :
    (ns : List FilterNode) →
    compileAllFrom? .stops parameters first ns =
      (compileAll parameters first.toNat ns).inWords?
  | [] => by
    rw [compileAllFrom?, compileAll, Members.inWords?, Word.ofNat?_toNat, Option.map_some]
  | n :: rest => by
    rw [compileAllFrom?, compileAll, compileFrom?_eq parameters first n]
    cases hn : (n.compile parameters first.toNat).inWords? with
    | none =>
      -- The members after this one leave free no smaller index than it does.
      have hlarge : ¬ (n.compile parameters first.toNat).nextIndex ≤ largestWord := by
        rw [← Fragment.isSome_inWords?, hn]
        exact Bool.false_ne_true
      have hmore : (n.compile parameters first.toNat).nextIndex ≤
          (compileAll parameters (n.compile parameters first.toNat).nextIndex rest).nextIndex :=
        le_nextIndex_compileAll ..
      rw [Members.inWords?, Word.ofNat?, if_neg (mt (Nat.le_trans hmore) hlarge)]
      rfl
    | some f =>
      have hf : f.fragment = n.compile parameters first.toNat := Fragment.inWords?_eq_some_iff.mp hn
      simp only [← hf, Option.bind_eq_bind, Option.bind_some,
        compileAllFrom?_eq parameters f.nextIndex rest, Members.inWords?, WordFragment.fragment]
      cases Word.ofNat? (compileAll parameters f.nextIndex.toNat rest).nextIndex <;> rfl

end

/-- Where no sum is beyond the largest word, a filter compiled in words is the compiled filter in
words. -/
theorem FilterGroup.compileFrom?_eq (g : FilterGroup) (parameters : Fields) (first : UInt64) :
    g.compileFrom? .stops parameters first = (g.compile parameters first.toNat).inWords? := by
  rw [compileFrom?, FilterNode.compileAllFrom?_eq, compile, Members.inWords?_join]

/-! ### Sums that wrap around -/

private theorem mapM_of_imp {α β : Type} {f g : α → Option β} {l : List α} {bs : List β}
    (hfg : ∀ a b, f a = some b → g a = some b) (h : l.mapM f = some bs) : l.mapM g = some bs := by
  induction l generalizing bs with
  | nil => exact h
  | cons a rest ih =>
    rw [List.mapM_cons] at h ⊢
    obtain ⟨b, hb, h⟩ := Option.bind_eq_some_iff.mp h
    obtain ⟨more, hmore, h⟩ := Option.bind_eq_some_iff.mp h
    rw [hfg a b hb, ih hmore]
    exact h

private theorem Clause.textFrom?_wraps {k : Clause} {first : UInt64} {text : String}
    (h : k.textFrom? .stops first = some text) : k.textFrom? .wraps first = some text := by
  unfold textFrom? at h ⊢
  cases ho : k.operator with
  | isIn | notIn =>
    simp only [ho] at h ⊢
    obtain ⟨marks, hmarks, htext⟩ := Option.bind_eq_some_iff.mp h
    have hwraps : placeholdersFrom? .wraps first k.values.length = some marks := by
      refine mapM_of_imp (fun i mark hi ↦ ?_) hmarks
      obtain ⟨w, hw, hmark⟩ := Option.map_eq_some_iff.mp hi
      rw [Word.add?_wraps hw, ← hmark, Option.map_some]
    rw [hwraps]
    exact htext
  | between =>
    simp only [ho] at h ⊢
    obtain ⟨second, hsecond, htext⟩ := Option.bind_eq_some_iff.mp h
    rw [Word.add?_wraps hsecond]
    exact htext
  | _ =>
    simp only [ho] at h ⊢
    exact h

mutual

private theorem FilterNode.compileFrom?_wraps {parameters : Fields} {first : UInt64}
    {f : WordFragment} : (n : FilterNode) → n.compileFrom? .stops parameters first = some f →
    n.compileFrom? .wraps parameters first = some f
  | .leaf c, h => by
    rw [compileFrom?] at h ⊢
    cases hc : c.clause? parameters with
    | none =>
      rw [hc] at h
      exact h
    | some k =>
      rw [hc] at h
      obtain ⟨text, htext, h⟩ := Option.bind_eq_some_iff.mp h
      obtain ⟨next, hnext, h⟩ := Option.bind_eq_some_iff.mp h
      simp only [Clause.textFrom?_wraps htext, Word.add?_wraps hnext]
      exact h
  | .group logic nodes, h => by
    rw [compileFrom?] at h ⊢
    obtain ⟨m, hm, h⟩ := Option.bind_eq_some_iff.mp h
    rw [compileAllFrom?_wraps nodes hm]
    exact h

private theorem FilterNode.compileAllFrom?_wraps {parameters : Fields} {first : UInt64}
    {m : WordMembers} : (ns : List FilterNode) →
    compileAllFrom? .stops parameters first ns = some m →
    compileAllFrom? .wraps parameters first ns = some m
  | [], h => by
    rw [compileAllFrom?] at h ⊢
    exact h
  | n :: rest, h => by
    rw [compileAllFrom?] at h ⊢
    obtain ⟨f, hf, h⟩ := Option.bind_eq_some_iff.mp h
    obtain ⟨more, hmore, h⟩ := Option.bind_eq_some_iff.mp h
    rw [compileFrom?_wraps n hf]
    simp only [Option.bind_eq_bind, Option.bind_some, compileAllFrom?_wraps rest hmore]
    exact h

end

/-- Sums that wrap around come to the same filter where others come to one. -/
theorem FilterGroup.compileFrom?_wraps {g : FilterGroup} {parameters : Fields} {first : UInt64}
    {f : WordFragment} (h : g.compileFrom? .stops parameters first = some f) :
    g.compileFrom? .wraps parameters first = some f := by
  obtain ⟨m, hm, hf⟩ := Option.map_eq_some_iff.mp h
  rw [compileFrom?, FilterNode.compileAllFrom?_wraps g.nodes hm, Option.map_some, hf]

end TabularReport

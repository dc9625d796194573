import Mathlib.Data.List.Nodup
import Mathlib.Data.List.Perm.Subperm
import TabularReport.Proofs.Run.Steps
import TabularReport.Proofs.Text.Numeral

/-!
# Binding values to parameters

The values of a statement are bound one by one: the `k`-th value goes to the parameter with the name
`$k`, at whatever number the engine has it. All values can be bound exactly when the parameters are
`$1`, `$2` and so on, one for each value.
-/

namespace TabularReport

open Placeholder Text

private theorem placeholder_inj {j k : Nat} (h : placeholder j = placeholder k) : j = k := by
  have hdigits := congrArg String.toList h
  rw [toList_placeholder, toList_placeholder, List.cons.injEq] at hdigits
  rw [← digitsValue_toDigits j, hdigits.2, digitsValue_toDigits]

/-- A dollar sign and the digits of an index are its placeholder. -/
theorem dollar_append_toDigits (k : Nat) :
    "$" ++ String.ofList (Nat.toDigits 10 k) = placeholder k := by
  rw [← String.toList_inj, toList_placeholder]
  simp

/-- Why values cannot be bound to parameters: the first placeholder that is missing, or else how
many parameters there are. -/
inductive QueryProblem.Refuses (names : List String) (n : Nat) : QueryProblem → Prop
  | missing {i : Nat} : i < n → placeholder (i + 1) ∉ names →
      (∀ j < i, placeholder (j + 1) ∈ names) → Refuses names n (.noPlaceholder (i + 1))
  | count : (∀ i < n, placeholder (i + 1) ∈ names) → names.length ≠ n →
      Refuses names n (.parameterCount names.length n)

namespace SqlEngine

variable {names : List String} {index : Nat} {vs bound out : List Json} {params : List Json}

private theorem idxOf_of_idxOf?_eq_some {name : String} {i : Nat} (h : names.idxOf? name = some i) :
    name ∈ names ∧ names.idxOf name = i := by
  refine ⟨?_, by rw [List.idxOf_eq_getD_idxOf?, h, Option.getD_some]⟩
  by_contra hn
  rw [List.idxOf?_eq_none_iff.mpr hn] at h
  cases h

private theorem bindFrom_eq_error {problem : StorageError}
    (h : bindFrom names index vs bound = .error problem) :
    ∃ i < vs.length, placeholder (index + i) ∉ names ∧
      (∀ j < i, placeholder (index + j) ∈ names) ∧
      problem = .query (.noPlaceholder (index + i)) := by
  induction vs generalizing index bound with
  | nil => cases h
  | cons v rest ih =>
    rw [bindFrom] at h
    split at h
    · next hi =>
      cases h
      exact ⟨0, by simp, by simpa using List.idxOf?_eq_none_iff.mp hi, by simp, rfl⟩
    · next m hm =>
      obtain ⟨i, hi, hmissing, hearlier, hproblem⟩ := ih h
      rw [Nat.add_right_comm, Nat.add_assoc] at hmissing hproblem
      refine ⟨i + 1, by simpa using hi, hmissing, fun j hj ↦ ?_, hproblem⟩
      cases j with
      | zero => exact (idxOf_of_idxOf?_eq_some hm).1
      | succ j =>
        have hj := hearlier j (by omega)
        rwa [Nat.add_right_comm, Nat.add_assoc] at hj

private theorem getElem?_bindFrom_of_ne (h : bindFrom names index vs bound = .ok out)
    {name : String} (hn : ∀ i < vs.length, name ≠ placeholder (index + i)) :
    out[names.idxOf name]? = bound[names.idxOf name]? := by
  induction vs generalizing index bound with
  | nil =>
    cases h
    rfl
  | cons v rest ih =>
    rw [bindFrom] at h
    split at h
    · cases h
    · next m hm =>
      obtain ⟨hmem, hm⟩ := idxOf_of_idxOf?_eq_some hm
      have hne : m ≠ names.idxOf name := by
        rw [← hm]
        exact fun he ↦ hn 0 (by simp) ((List.idxOf_inj hmem).mp he).symm
      rw [ih h, List.getElem?_set_ne hne]
      intro i hi
      have hnext := hn (i + 1) (by simpa using hi)
      rwa [Nat.add_right_comm, Nat.add_assoc]

private theorem bindFrom_eq_ok (h : bindFrom names index vs bound = .ok out)
    (hl : bound.length = names.length) :
    out.length = names.length ∧ ∀ i < vs.length, placeholder (index + i) ∈ names ∧
      out[names.idxOf (placeholder (index + i))]? = vs[i]? := by
  induction vs generalizing index bound with
  | nil =>
    cases h
    exact ⟨hl, fun i hi ↦ absurd hi (by simp)⟩
  | cons v rest ih =>
    rw [bindFrom] at h
    split at h
    · cases h
    · next m hm =>
      obtain ⟨hmem, hm⟩ := idxOf_of_idxOf?_eq_some hm
      obtain ⟨hlen, hlater⟩ := ih h (by rw [List.length_set, hl])
      refine ⟨hlen, fun i hi ↦ ?_⟩
      cases i with
      | zero =>
        -- The parameters that are bound later have other names.
        have hkeep : out[names.idxOf (placeholder index)]? = _ :=
          getElem?_bindFrom_of_ne h fun i _ he ↦ by
            have := placeholder_inj he
            omega
        rw [hm, List.getElem?_set_self] at hkeep
        · exact ⟨hmem, by rw [Nat.add_zero, hm, hkeep, List.getElem?_cons_zero]⟩
        · rw [hl, ← hm]
          exact List.idxOf_lt_length_iff.mpr hmem
      | succ i =>
        have hi := hlater i (by simpa using hi)
        rwa [Nat.add_right_comm, Nat.add_assoc] at hi

/-- Values that can be bound are as many as the parameters, and stand at the numbers of theirs. -/
theorem bindings_eq_ok (h : bindings names params = .ok bound) :
    names.length = params.length ∧ bound.length = names.length ∧
      ∀ i < params.length, placeholder (i + 1) ∈ names ∧
        bound[names.idxOf (placeholder (i + 1))]? = params[i]? := by
  unfold bindings at h
  obtain ⟨out, hout, h⟩ := Except.bind_eq_ok_iff.mp h
  split at h
  · next hn =>
    cases h
    obtain ⟨hlen, hall⟩ := bindFrom_eq_ok hout List.length_replicate
    refine ⟨hn, hlen, fun i hi ↦ ?_⟩
    have hi := hall i hi
    rwa [Nat.add_comm] at hi
  · cases h

/-- Values that cannot be bound are refused for the first missing placeholder, or else for how many
parameters there are. -/
theorem bindings_eq_error {problem : StorageError} (h : bindings names params = .error problem) :
    ∃ cause, problem = .query cause ∧ cause.Refuses names params.length := by
  unfold bindings at h
  cases hout : bindFrom names 1 params (List.replicate names.length .null) with
  | error early =>
    rw [hout] at h
    cases h
    obtain ⟨i, hi, hmissing, hearlier, rfl⟩ := bindFrom_eq_error hout
    simp only [Nat.add_comm 1] at hmissing hearlier ⊢
    exact ⟨_, rfl, .missing hi hmissing hearlier⟩
  | ok out =>
    rw [hout] at h
    obtain ⟨-, hall⟩ := bindFrom_eq_ok hout List.length_replicate
    simp only [Nat.add_comm 1] at hall
    have hc : (if names.length = params.length then Except.ok out
        else .error (.query (.parameterCount names.length params.length))) = .error problem := h
    split at hc
    · cases hc
    · next hne =>
      cases hc
      exact ⟨_, rfl, .count (fun i hi ↦ (hall i hi).1) hne⟩

end SqlEngine

/-- Whether each placeholder is the name of one parameter at most. -/
def NamedOnce (names : List String) : Prop :=
  ∀ k i j : Nat, names[i]? = some (placeholder k) → names[j]? = some (placeholder k) → i = j

/-- Names that all differ name at most one parameter each. -/
theorem NamedOnce.of_nodup {names : List String} (h : names.Nodup) : NamedOnce names :=
  fun _ i j hi hj ↦ by
    obtain ⟨hlt, -⟩ := List.getElem?_eq_some_iff.mp hi
    exact (List.getElem?_inj hlt h).mp (hi.trans hj.symm)

/-- A placeholder from `$1` on. -/
theorem mem_placeholders {name : String} {n : Nat} :
    name ∈ placeholders 1 n ↔ ∃ i < n, name = placeholder (i + 1) := by
  rw [placeholders_eq_map, List.mem_map]
  constructor
  · rintro ⟨k, hk, rfl⟩
    rw [List.mem_range'_1] at hk
    exact ⟨k - 1, by omega, by rw [Nat.sub_add_cancel hk.1]⟩
  · rintro ⟨i, hi, rfl⟩
    exact ⟨i + 1, List.mem_range'_1.mpr (by omega), rfl⟩

private theorem nodup_placeholders (first n : Nat) : (placeholders first n).Nodup := by
  rw [placeholders_eq_map]
  exact List.Nodup.map (fun _ _ h ↦ placeholder_inj h) List.nodup_range'

private theorem length_placeholders (first n : Nat) : (placeholders first n).length = n := by
  rw [placeholders_eq_map, List.length_map, List.length_range']

private theorem NamedOnce.nodup {names : List String} (h : NamedOnce names) {first n : Nat}
    (hnames : ∀ name ∈ names, name ∈ placeholders first n) : names.Nodup := by
  rw [List.nodup_iff_getElem?_ne_getElem?]
  intro i j hij hj he
  rw [List.getElem?_eq_getElem hj] at he
  have hm := hnames _ (List.getElem_mem hj)
  rw [placeholders_eq_map, List.mem_map] at hm
  obtain ⟨k, -, hk⟩ := hm
  rw [← hk] at he
  exact Nat.ne_of_lt hij (h k i j he (by rw [List.getElem?_eq_getElem hj, hk]))

namespace SqlEngine

variable {names : List String} {params bound : List Json}

/-- Values can be bound exactly to as many parameters that are named by the placeholders. -/
theorem exists_bindings_iff (hone : NamedOnce names) :
    (∃ bound, bindings names params = .ok bound) ↔
      ∀ name, name ∈ names ↔ name ∈ placeholders 1 params.length := by
  constructor
  · rintro ⟨bound, h⟩
    obtain ⟨hlen, -, hall⟩ := bindings_eq_ok h
    have hsub : placeholders 1 params.length ⊆ names := by
      intro name hm
      obtain ⟨i, hi, rfl⟩ := mem_placeholders.mp hm
      exact (hall i hi).1
    have hperm := (List.subperm_of_subset (nodup_placeholders _ _) hsub).perm_of_length_le
      (Nat.le_of_eq (by rw [length_placeholders, hlen]))
    exact fun name ↦ hperm.mem_iff.symm
  · intro hnames
    cases h : bindings names params with
    | ok bound => exact ⟨bound, rfl⟩
    | error problem =>
      obtain ⟨cause, -, hc⟩ := bindings_eq_error h
      cases hc with
      | missing hi hmissing =>
        exact absurd ((hnames _).mpr (mem_placeholders.mpr ⟨_, hi, rfl⟩)) hmissing
      | count _ hne =>
        have hnodup := hone.nodup fun name hm ↦ (hnames name).mp hm
        have hperm := (List.perm_ext_iff_of_nodup hnodup (nodup_placeholders _ _)).mpr hnames
        exact absurd (by rw [hperm.length_eq, length_placeholders]) hne

/-- Each parameter has the value at the place that its name tells, whatever its number. -/
theorem getElem?_bindings (hone : NamedOnce names) (h : bindings names params = .ok bound)
    {i j : Nat} (hj : names[j]? = some (placeholder (i + 1))) : bound[j]? = params[i]? := by
  obtain ⟨-, -, hall⟩ := bindings_eq_ok h
  have hmem : placeholder (i + 1) ∈ names := List.mem_of_getElem? hj
  have hnames := (exists_bindings_iff hone).mp ⟨bound, h⟩
  obtain ⟨k, hk, he⟩ := mem_placeholders.mp ((hnames _).mp hmem)
  obtain rfl : i = k := Nat.succ.inj (placeholder_inj he)
  rw [hone (i + 1) j _ hj (List.getElem?_idxOf hmem)]
  exact (hall i hk).2

end SqlEngine

end TabularReport

import Mathlib.Data.List.Nodup
import TabularReport.Proofs.Filter.Contribution
import TabularReport.Proofs.Parameter.Defaults
import TabularReport.Store.Catalog

/-!
# The first violation of declarations

Values are refused for the violation of the declaration that comes first: by its position, and among
those of one position by its place in the list. Sorting the declarations by position does not change
which one this is, and when all positions differ no order of the list does.
-/

namespace TabularReport

private theorem Json.bind_present?_eq_none_iff {o : Option Json} :
    o.bind Json.present? = none ↔ Json.absent o = true := by
  cases o with
  | none => simp [absent]
  | some v => simp [absent, present?]

private theorem findSome?_eq_some_iff_of_pairwise {α β : Type} {R : α → α → Prop} {f : α → Option β}
    {l : List α} {b : β} (hl : l.Pairwise R) (hrefl : ∀ a, R a a)
    (hanti : ∀ a ∈ l, ∀ c ∈ l, R a c → R c a → a = c) :
    l.findSome? f = some b ↔ ∃ a ∈ l, f a = some b ∧ ∀ c ∈ l, f c ≠ none → R a c := by
  have hfirst {d : β} (h : l.findSome? f = some d) :
      ∃ a ∈ l, f a = some d ∧ ∀ c ∈ l, f c ≠ none → R a c := by
    obtain ⟨before, a, after, rfl, ha, hbefore⟩ := List.findSome?_eq_some_iff.mp h
    refine ⟨a, by simp, ha, fun c hc hf ↦ ?_⟩
    rcases List.mem_append.mp hc with hc | hc
    · exact absurd (hbefore c hc) hf
    · rcases List.mem_cons.mp hc with rfl | hc
      · exact hrefl c
      · exact List.rel_of_pairwise_cons (List.pairwise_append.mp hl).2.1 hc
  refine ⟨hfirst, ?_⟩
  rintro ⟨a, hm, ha, hleast⟩
  cases hd : l.findSome? f with
  | none =>
    rw [List.findSome?_eq_none_iff.mp hd a hm] at ha
    cases ha
  | some d =>
    obtain ⟨c, hc, hcd, hcleast⟩ := hfirst hd
    -- Both elements are least, so they are one.
    cases hanti a hm c hc (hleast c hc (by simp [hcd])) (hcleast a hm (by simp [ha]))
    exact hcd.symm.trans ha

namespace ParameterDefinition

/-- How values violate a declaration: they leave out what is required, or hold null for it, or they
hold a value that is refused. -/
inductive Violates (values : Fields) (p : ParameterDefinition) : ValidationError → Prop
  | missing : p.required = true → Json.absent (Fields.get? values p.name) = true →
      Violates values p (.requiredParameterMissing p.name)
  | refused {v : Json} {e : ValidationError} :
      Fields.get? values p.name = some v → v.isNull = false → p.checkValue v = .error e →
      Violates values p e

/-- Whether a declaration, with its place in a list, comes no later than another one: by position,
and among those of one position by place. -/
def NoLater (a b : ParameterDefinition × Nat) : Prop :=
  a.1.position < b.1.position ∨ a.1.position = b.1.position ∧ a.2 ≤ b.2

/-- Whether the declaration that comes first among those that the values violate is violated so. -/
def FirstViolation (definitions : List ParameterDefinition) (values : Fields)
    (e : ValidationError) : Prop :=
  ∃ p i, definitions[i]? = some p ∧ p.Violates values e ∧
    ∀ q j f, definitions[j]? = some q → q.Violates values f → NoLater (p, i) (q, j)

variable {values : Fields} {p : ParameterDefinition} {definitions others : List ParameterDefinition}

private theorem checkValue_eq_error_iff {v : Json} {e : ValidationError} :
    p.checkValue v = .error e ↔ (p.problem? v).map (.invalidParameter p.name) = some e := by
  unfold checkValue
  cases p.problem? v <;> simp

private theorem violation?_eq_some_iff {e : ValidationError} :
    p.violation? values = some e ↔ p.Violates values e := by
  constructor
  · intro h
    unfold violation? at h
    split at h
    · next v hv =>
      obtain ⟨hg, hn⟩ := Json.bind_present?_eq_some_iff.mp hv
      exact .refused hg hn (checkValue_eq_error_iff.mpr h)
    · next hv =>
      split at h
      · next hr =>
        cases h
        exact .missing hr (Json.bind_present?_eq_none_iff.mp hv)
      · cases h
  · rintro (⟨hr, ha⟩ | ⟨hg, hn, he⟩)
    · rw [violation?, Json.bind_present?_eq_none_iff.mpr ha]
      exact if_pos hr
    · rw [violation?, Json.bind_present?_eq_some_iff.mpr ⟨hg, hn⟩]
      exact checkValue_eq_error_iff.mp he

private theorem check_eq_error_iff {e : ValidationError} :
    check definitions values = .error e ↔
      (inOrder definitions).findSome? (·.violation? values) = some e := by
  unfold check
  cases (inOrder definitions).findSome? (·.violation? values) <;> simp

/-- Values are accepted exactly when no violation is found. -/
theorem check_eq_ok_iff_violation? :
    check definitions values = .ok () ↔ ∀ p ∈ definitions, p.violation? values = none := by
  have hnone : check definitions values = .ok () ↔
      (inOrder definitions).findSome? (·.violation? values) = none := by
    unfold check
    cases (inOrder definitions).findSome? (·.violation? values) <;> simp
  rw [hnone, List.findSome?_eq_none_iff]
  exact forall_congr' fun p ↦ imp_congr_left List.mem_mergeSort

private theorem check_eq_ok_iff :
    check definitions values = .ok () ↔ ∀ p ∈ definitions, ∀ e, ¬ p.Violates values e := by
  rw [check_eq_ok_iff_violation?]
  refine forall_congr' fun p ↦ imp_congr_right fun _ ↦ ?_
  rw [Option.eq_none_iff_forall_ne_some]
  exact forall_congr' fun e ↦ not_congr violation?_eq_some_iff

private theorem noLater_iff {a b : ParameterDefinition × Nat} :
    List.zipIdxLE (fun p q ↦ p.position ≤ q.position) a b = true ↔ NoLater a b := by
  unfold List.zipIdxLE NoLater
  grind

private theorem check_eq_error_iff_firstViolation {e : ValidationError} :
    check definitions values = .error e ↔ FirstViolation definitions values e := by
  let le (p q : ParameterDefinition) : Bool := p.position ≤ q.position
  let placed := definitions.zipIdx.mergeSort (List.zipIdxLE le)
  have hsorted : placed.Pairwise NoLater :=
    (List.pairwise_mergeSort (List.zipIdxLE_trans position_trans)
      (List.zipIdxLE_total position_total) _).imp noLater_iff.mp
  have hmem {a : ParameterDefinition × Nat} : a ∈ placed ↔ definitions[a.2]? = some a.1 := by
    rw [List.mem_mergeSort, List.mem_zipIdx_iff_getElem?]
  have hanti : ∀ a ∈ placed, ∀ c ∈ placed, NoLater a c → NoLater c a → a = c := by
    rintro ⟨p, i⟩ ha ⟨q, j⟩ hc hac hca
    have hij : i = j := by
      simp only [NoLater] at hac hca
      omega
    subst hij
    have hsame : some p = some q := (hmem.mp ha).symm.trans (hmem.mp hc)
    rw [Option.some.inj hsame]
  have hfound : (inOrder definitions).findSome? (·.violation? values) =
      placed.findSome? fun a ↦ a.1.violation? values := by
    rw [inOrder, ← List.mergeSort_zipIdx, List.findSome?_map]
    rfl
  rw [check_eq_error_iff, hfound, findSome?_eq_some_iff_of_pairwise hsorted
    (fun a ↦ .inr ⟨rfl, Nat.le_refl _⟩) hanti]
  constructor
  · rintro ⟨⟨p, i⟩, ha, hv, hleast⟩
    refine ⟨p, i, hmem.mp ha, violation?_eq_some_iff.mp hv, fun q j f hq hf ↦ ?_⟩
    exact hleast (q, j) (hmem.mpr hq) (by simp [violation?_eq_some_iff.mpr hf])
  · rintro ⟨p, i, hp, hv, hleast⟩
    refine ⟨(p, i), hmem.mpr hp, violation?_eq_some_iff.mpr hv, fun c hc hf ↦ ?_⟩
    obtain ⟨f, hf⟩ := Option.ne_none_iff_exists'.mp hf
    exact hleast c.1 c.2 f (hmem.mp hc) (violation?_eq_some_iff.mp hf)

private theorem check_inOrder : check (inOrder definitions) values = check definitions values := by
  rw [check, check, inOrder_inOrder]

private theorem inOrder_perm (h : definitions.Perm others)
    (hn : (definitions.map (·.position)).Nodup) :
    inOrder definitions = inOrder others := by
  have hperm : (inOrder definitions).Perm (inOrder others) :=
    ((definitions.mergeSort_perm _).trans h).trans (others.mergeSort_perm _).symm
  refine hperm.eq_of_pairwise (fun a b ha hb hab hba ↦ ?_) (pairwise_inOrder definitions)
    (pairwise_inOrder others)
  have hposition := Nat.le_antisymm (of_decide_eq_true hab) (of_decide_eq_true hba)
  have ha := List.mem_mergeSort.mp ha
  have hb := h.mem_iff.mpr (List.mem_mergeSort.mp hb)
  exact List.inj_on_of_nodup_map hn ha hb hposition

/-- Values are accepted exactly when they violate no declaration, and otherwise refused for the
violation of the declaration that comes first. The result is the same for the sorted declarations,
which a catalog gives to a run, and, when all positions differ, for the declarations in any
order. -/
theorem firstViolation_check (definitions : List ParameterDefinition) (values : Fields) :
    (check definitions values = .ok () ↔ ∀ p ∈ definitions, ∀ e, ¬ p.Violates values e) ∧
      (∀ e, check definitions values = .error e ↔ FirstViolation definitions values e) ∧
      check (inOrder definitions) values = check definitions values ∧
      (∀ (c : Catalog) (id : String) (t : ReportTemplate),
        c.template? id = .ok (some t) → t.parameters = definitions →
        ∃ given, c.parameters id = .ok given ∧ check given values = check definitions values) ∧
      ((definitions.map (·.position)).Nodup →
        ∀ others, definitions.Perm others → check others values = check definitions values) := by
  refine ⟨check_eq_ok_iff, fun e ↦ check_eq_error_iff_firstViolation, check_inOrder, ?_, ?_⟩
  · rintro c id t ht rfl
    refine ⟨inOrder t.parameters, ?_, check_inOrder⟩
    rw [Catalog.parameters, ht]
    rfl
  · intro hn others h
    rw [check, check, inOrder_perm h hn]

/-- The number of a room; no run has to give it. -/
def roomNumber : ParameterDefinition := { name := "room", kind := .number, position := 1 }

/-- The name of a guest, which a run has to give. -/
def guestName : ParameterDefinition :=
  { name := "guest", kind := .text, required := true, position := 1 }

/-- The days of a stay, which a run has to give. -/
def stayDays : ParameterDefinition :=
  { name := "stay", kind := .dateRange, required := true, position := 2 }

/-- A room that is no number is what values are refused for that have no guest and no days either,
although the days are declared first: the room comes before them by position, and before the guest
by place. With the list turned round the guest comes first. -/
theorem firstViolation_bookings :
    check [stayDays, roomNumber, guestName] [("room", .string "attic")] =
        .error (.invalidParameter "room" "expected a number") ∧
      check [guestName, roomNumber, stayDays] [("room", .string "attic")] =
        .error (.requiredParameterMissing "guest") := by
  constructor
  · refine ((firstViolation_check _ _).2.1 _).mpr
      ⟨roomNumber, 1, rfl, .refused rfl rfl rfl, fun q j f hq _ ↦ ?_⟩
    match j with
    | 0 => cases hq; exact .inl (by decide)
    | 1 => cases hq; exact .inr ⟨rfl, Nat.le_refl 1⟩
    | 2 => cases hq; exact .inr ⟨rfl, by decide⟩
  · refine ((firstViolation_check _ _).2.1 _).mpr
      ⟨guestName, 0, rfl, .missing rfl rfl, fun q j f hq _ ↦ ?_⟩
    match j with
    | 0 => cases hq; exact .inr ⟨rfl, Nat.le_refl 0⟩
    | 1 => cases hq; exact .inr ⟨rfl, by decide⟩
    | 2 => cases hq; exact .inl (by decide)

end ParameterDefinition

end TabularReport

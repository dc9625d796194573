import TabularReport.Proofs.Filter.Continuation
import TabularReport.Proofs.Statement.Plan
import TabularReport.Proofs.Statement.RowCondition

/-!
# Successive filters

Filters of a query are written one after another with an `AND` between them, and without
parentheses. An `OR` at the surface of a filter therefore ends the conjunction before it: it is the
last disjunct of a filter and the first one of the next filter that are required together.
-/

namespace TabularReport

/-! ### Values of conditions -/

namespace Formula

/-- Whether a formula has the value that all of its atoms have. -/
def IsSteady {α : Type} (f : Formula α) : Prop := ∀ b, f.eval (fun _ ↦ b) = b

private theorem isSteady_ofOperands {α : Type} (logic : Logic) {fs : List (Formula α)}
    (hne : fs ≠ []) (h : ∀ f ∈ fs, f.IsSteady) : (ofOperands logic fs).IsSteady := by
  intro b
  rw [eval_ofOperands]
  induction fs with
  | nil => exact absurd rfl hne
  | cons f rest ih =>
    have hf := h f List.mem_cons_self b
    by_cases hr : rest = []
    · rw [hr, evalMembers_singleton, hf]
    · rw [evalMembers, hf, ih hr fun e he ↦ h e (List.mem_cons_of_mem f he)]
      cases logic <;> cases b <;> rfl

mutual

private theorem eval_congr {α : Type} {v w : α → Bool} :
    (f : Formula α) → (∀ a ∈ f.atoms, v a = w a) →
    f.eval v = f.eval w
  | .atom a, h => h a (List.mem_singleton_self a)
  | .joined logic ms, h => by rw [eval, eval, evalMembers_congr logic ms h]

private theorem evalMembers_congr {α : Type} {v w : α → Bool} (logic : Logic) :
    (ms : List (Formula α)) →
    (∀ a ∈ atomsOf ms, v a = w a) → evalMembers v logic ms = evalMembers w logic ms
  | [], _ => rfl
  | m :: rest, h => by
    rw [evalMembers, evalMembers, eval_congr m fun a ha ↦ h a (List.mem_append_left _ ha),
      evalMembers_congr logic rest fun a ha ↦ h a (List.mem_append_right _ ha)]

end

end Formula

/-- Whether everything that has been read of a group is steady. -/
def OpenGroup.IsSteady (g : OpenGroup) : Prop := ∀ f ∈ g.disjuncts ++ g.conjuncts, f.IsSteady

namespace OpenGroup

variable {g : OpenGroup} {f : Formula (List Mark)}

private theorem IsSteady.conjunction (hg : g.IsSteady) (hf : f.IsSteady) :
    (Formula.ofOperands .and (g.conjuncts ++ [f])).IsSteady :=
  Formula.isSteady_ofOperands .and (by simp) fun e he ↦ by
    rcases List.mem_append.mp he with he | he
    · exact hg e (List.mem_append_right _ he)
    · exact List.mem_singleton.mp he ▸ hf

private theorem IsSteady.disjuncts (hg : g.IsSteady) (hf : f.IsSteady) :
    ∀ d ∈ g.disjuncts ++ [.ofOperands .and (g.conjuncts ++ [f])], d.IsSteady := by
  intro d hd
  rcases List.mem_append.mp hd with hd | hd
  · exact hg d (List.mem_append_left _ hd)
  · exact List.mem_singleton.mp hd ▸ hg.conjunction hf

private theorem IsSteady.join (hg : g.IsSteady) (hf : f.IsSteady) (logic : Logic) :
    (g.join f logic).IsSteady := by
  intro e he
  cases logic with
  | and =>
    have hm : e ∈ (g.disjuncts ++ g.conjuncts) ++ [f] := by simpa [OpenGroup.join] using he
    rcases List.mem_append.mp hm with hm | hm
    · exact hg e hm
    · exact List.mem_singleton.mp hm ▸ hf
  | or => exact hg.disjuncts hf e (by simpa [OpenGroup.join] using he)

end OpenGroup

/-- Whether everything that has been read of a condition is steady. -/
structure ReadingState.IsSteady (s : ReadingState) : Prop where
  outer : ∀ g ∈ s.outer, g.IsSteady
  group : s.group.IsSteady
  operand : ∀ f, s.operand.formula? = some f → f.IsSteady

namespace ReadingState

variable {s t : ReadingState}

private theorem isSteady_atom {marks : List Mark} {depth : Nat} {ranged : Bool}
    {f : Formula (List Mark)} (h : (Operand.atom marks depth ranged).formula? = some f) :
    f.IsSteady := by
  unfold Operand.formula? at h
  split at h
  · cases h
  · cases h
    exact fun _ ↦ rfl
  · cases h
  · next he => cases he

private theorem IsSteady.step {m : Mark} (h : s.IsSteady) (hs : s.step m = some t) :
    t.IsSteady := by
  have hempty : OpenGroup.IsSteady {} := fun f hf ↦ absurd hf List.not_mem_nil
  obtain ⟨ho, hg, hf⟩ := h
  cases moves_of_step hs with
  | goesOn => exact ⟨ho, hg, fun f ↦ isSteady_atom⟩
  | opens => exact ⟨List.forall_mem_cons.mpr ⟨hg, ho⟩, hempty, fun f he ↦ by cases he⟩
  | joins he => exact ⟨ho, hg.join (hf _ he) _, fun f he ↦ by cases he⟩
  | closes he =>
    obtain ⟨hb, ho⟩ := List.forall_mem_cons.mp ho
    refine ⟨ho, hb, fun f hm ↦ ?_⟩
    cases hm
    exact Formula.isSteady_ofOperands .or (by simp) (hg.disjuncts (hf _ he))

private theorem IsSteady.run {ms : List Mark} (h : s.IsSteady) (hs : s.run ms = some t) :
    t.IsSteady := by
  induction ms generalizing s with
  | nil =>
    cases hs
    exact h
  | cons m rest ih =>
    obtain ⟨u, hu, hrest⟩ := Option.bind_eq_some_iff.mp hs
    exact ih (h.step hu) hrest

end ReadingState

private theorem Text.isSteady_of_disjuncts? {s : String} {ds : List (Formula (List Mark))}
    (h : disjuncts? s = some ds) : ds ≠ [] ∧ ∀ d ∈ ds, d.IsSteady := by
  obtain ⟨ms, -, h⟩ := Option.bind_eq_some_iff.mp h
  obtain ⟨t, ht, h⟩ := Option.bind_eq_some_iff.mp h
  obtain ⟨g, o, f, rfl, hf, rfl⟩ := ReadingState.disjuncts?_eq_some_iff.mp h
  have hfresh : ReadingState.IsSteady {} :=
    ⟨fun g hg ↦ absurd hg List.not_mem_nil, fun f hf ↦ absurd hf List.not_mem_nil,
      fun f hf ↦ by cases hf⟩
  obtain ⟨-, hg, ho⟩ := hfresh.run ht
  exact ⟨by simp, hg.disjuncts (ho f hf)⟩

/-! ### Several conditions one after another -/

namespace Text

/-- Whether a text is a condition. -/
def IsCondition (s : String) : Prop := (disjuncts? s).isSome

instance (s : String) : Decidable (IsCondition s) := inferInstanceAs (Decidable (_ = true))

/-- The values of the disjuncts at the surface of a condition. -/
def disjunctValues (v : List Mark → Bool) (s : String) : List Bool :=
  ((disjuncts? s).getD []).map (·.eval v)

/-- Whether a condition holds. -/
def Holds (v : List Mark → Bool) (s : String) : Prop := true ∈ disjunctValues v s

instance (v : List Mark → Bool) (s : String) : Decidable (Holds v s) :=
  inferInstanceAs (Decidable (true ∈ _))

/-- Whether a condition has an `OR` at its surface. -/
def HasSurfaceOr (s : String) : Prop := 1 < ((disjuncts? s).getD []).length

/-- The atoms of a condition. -/
def atoms (s : String) : List (List Mark) := Formula.atomsOf ((disjuncts? s).getD [])

variable {v : List Mark → Bool} {s : String}

private theorem disjunctValues_ne_nil (h : IsCondition s) (v : List Mark → Bool) :
    disjunctValues v s ≠ [] := by
  obtain ⟨ds, hds⟩ := Option.isSome_iff_exists.mp h
  simpa [disjunctValues, hds] using (isSteady_of_disjuncts? hds).1

private theorem disjunctValues_eq_replicate (h : IsCondition s) {b : Bool}
    (hv : ∀ a ∈ atoms s, v a = b) :
    disjunctValues v s = List.replicate ((disjuncts? s).getD []).length b := by
  obtain ⟨ds, hds⟩ := Option.isSome_iff_exists.mp h
  rw [atoms, hds, Option.getD_some, Formula.atomsOf_eq_flatMap] at hv
  rw [disjunctValues, hds, Option.getD_some]
  refine List.eq_replicate_iff.mpr ⟨List.length_map _, List.forall_mem_map.mpr fun d hd ↦ ?_⟩
  rw [Formula.eval_congr (w := fun _ ↦ b) d fun a ha ↦ hv a (List.mem_flatMap.mpr ⟨d, hd, ha⟩)]
  exact (isSteady_of_disjuncts? hds).2 d hd b

private theorem disjunctValues_and {s t : String} (hs : IsCondition s) (ht : IsCondition t) :
    IsCondition (s ++ " AND " ++ t) ∧ ∀ v, disjunctValues v (s ++ " AND " ++ t) =
      meetDisjuncts (disjunctValues v s) (disjunctValues v t) := by
  obtain ⟨as, has⟩ := Option.isSome_iff_exists.mp hs
  obtain ⟨bs, hbs⟩ := Option.isSome_iff_exists.mp ht
  obtain ⟨ds, hds, hv⟩ := disjuncts?_and has hbs
  refine ⟨Option.isSome_iff_exists.mpr ⟨ds, hds⟩, fun v ↦ ?_⟩
  simpa only [disjunctValues, has, hbs, hds, Option.getD_some] using hv v

private theorem disjunctValues_conditions {ss : List String} (hs : IsCondition s)
    (h : ∀ t ∈ ss, IsCondition t) :
    IsCondition (" AND ".intercalate (s :: ss)) ∧
      ∀ v, disjunctValues v (" AND ".intercalate (s :: ss)) =
        (ss.map (disjunctValues v)).foldl meetDisjuncts (disjunctValues v s) := by
  induction ss generalizing s with
  | nil => simpa using hs
  | cons t rest ih =>
    obtain ⟨ht, hrest⟩ := List.forall_mem_cons.mp h
    obtain ⟨hst, hv⟩ := disjunctValues_and hs ht
    obtain ⟨hc, hw⟩ := ih hst hrest
    have hj : " AND ".intercalate ((s ++ " AND " ++ t) :: rest) =
        " AND ".intercalate (s :: t :: rest) := by
      rw [String.intercalate_cons_append, String.intercalate_cons_cons]
    rw [hj] at hc hw
    exact ⟨hc, fun v ↦ by rw [hw, hv, List.map_cons, List.foldl_cons]⟩

end Text

/-! ### Disjuncts next to an `AND` -/

section Meet

variable {as bs : List Bool}

private theorem exists_meetDisjuncts (ha : as ≠ []) (hb : bs ≠ []) :
    ∃ before a b after, as = before ++ [a] ∧ bs = b :: after ∧
      meetDisjuncts as bs = before ++ (a && b) :: after := by
  obtain ⟨before, a, rfl⟩ := (List.eq_nil_or_concat as).resolve_left ha
  obtain ⟨b, after, rfl⟩ := List.exists_cons_of_ne_nil hb
  rw [List.concat_eq_append]
  exact ⟨before, a, b, after, rfl, rfl, meetDisjuncts_append before a b after⟩

private theorem true_mem_meetDisjuncts (ha : true ∈ as) (hb : true ∈ bs) :
    true ∈ meetDisjuncts as bs := by
  obtain ⟨before, a, b, after, rfl, rfl, hm⟩ :=
    exists_meetDisjuncts (List.ne_nil_of_mem ha) (List.ne_nil_of_mem hb)
  rw [hm]
  cases a <;> cases b <;> simp_all

private theorem true_mem_meetDisjuncts_right (as : List Bool) (b : Bool) (h : true ∈ bs) :
    true ∈ meetDisjuncts as (b :: bs) := by
  by_cases ha : as = []
  · subst ha
    exact List.mem_cons_of_mem b h
  · obtain ⟨before, a, b, after, rfl, he, hm⟩ := exists_meetDisjuncts ha (List.cons_ne_nil b bs)
    cases he
    rw [hm]
    simp [h]

private theorem true_mem_dropLast_meetDisjuncts (h : true ∈ as.dropLast) (hb : bs ≠ []) :
    true ∈ (meetDisjuncts as bs).dropLast := by
  have ha : as ≠ [] := by
    rintro rfl
    cases h
  obtain ⟨before, a, b, after, rfl, rfl, hm⟩ := exists_meetDisjuncts ha hb
  rw [List.dropLast_concat] at h
  rw [hm, List.dropLast_append_of_ne_nil (List.cons_ne_nil _ _)]
  exact List.mem_append_left _ h

-- True disjuncts meet others that are true in true ones, the first of which is not the last one if
-- there is another one.
private theorem meetDisjuncts_of_forall_true (ha : ∀ a ∈ as, a = true) (hb : ∀ b ∈ bs, b = true)
    (hne : bs ≠ []) :
    (∀ c ∈ meetDisjuncts as bs, c = true) ∧
      (1 < bs.length → true ∈ (meetDisjuncts as bs).dropLast) := by
  by_cases he : as = []
  · subst he
    refine ⟨hb, fun hl ↦ ?_⟩
    match bs, hl with
    | b :: c :: rest, _ => simpa [meetDisjuncts] using .inl (hb b List.mem_cons_self)
  · obtain ⟨before, a, b, after, rfl, rfl, hm⟩ := exists_meetDisjuncts he hne
    have hab : (a && b) = true := by
      rw [ha a (by simp), hb b List.mem_cons_self]
      rfl
    rw [hm, hab]
    refine ⟨fun c hc ↦ ?_, fun hl ↦ ?_⟩
    · rcases List.mem_append.mp hc with hc | hc
      · exact ha c (List.mem_append_left _ hc)
      · rcases List.mem_cons.mp hc with rfl | hc
        · rfl
        · exact hb c (List.mem_cons_of_mem b hc)
    · match after, hl with
      | c :: rest, _ => simp [List.dropLast_append_of_ne_nil]

private theorem true_mem_foldl_meetDisjuncts {parts : List (List Bool)} (h : true ∈ as.dropLast)
    (hne : ∀ p ∈ parts, p ≠ []) : true ∈ parts.foldl meetDisjuncts as := by
  induction parts generalizing as with
  | nil => exact List.dropLast_subset as h
  | cons p rest ih =>
    obtain ⟨hp, hrest⟩ := List.forall_mem_cons.mp hne
    exact ih (true_mem_dropLast_meetDisjuncts h hp) hrest

private theorem true_mem_foldl_of_forall {parts : List (List Bool)} (h : true ∈ as)
    (hp : ∀ p ∈ parts, true ∈ p) : true ∈ parts.foldl meetDisjuncts as := by
  induction parts generalizing as with
  | nil => exact h
  | cons p rest ih =>
    obtain ⟨hp, hrest⟩ := List.forall_mem_cons.mp hp
    exact ih (true_mem_meetDisjuncts h hp) hrest

private theorem forall_foldl_meetDisjuncts {parts : List (List Bool)} (h : ∀ a ∈ as, a = true)
    (hp : ∀ p ∈ parts, p ≠ [] ∧ ∀ b ∈ p, b = true) :
    ∀ c ∈ parts.foldl meetDisjuncts as, c = true := by
  induction parts generalizing as with
  | nil => exact h
  | cons p rest ih =>
    obtain ⟨hp, hrest⟩ := List.forall_mem_cons.mp hp
    exact ih (meetDisjuncts_of_forall_true h hp.2 hp.1).1 hrest

private theorem foldl_meetDisjuncts_singletons (a : Bool) (bs : List Bool) :
    (bs.map fun b ↦ [b]).foldl meetDisjuncts [a] = [a && bs.all id] := by
  induction bs generalizing a with
  | nil => simp
  | cons b rest ih =>
    rw [List.map_cons, List.foldl_cons]
    exact (ih (a && b)).trans (by simp [Bool.and_assoc])

end Meet

namespace Text

variable {v : List Mark → Bool} {ss : List String}

private theorem disjunctValues_eq_singleton {s : String} (hs : IsCondition s) (h : ¬ HasSurfaceOr s)
    (v : List Mark → Bool) : disjunctValues v s = [decide (Holds v s)] := by
  have hl : (disjunctValues v s).length = 1 := by
    have hpos := List.length_pos_iff.mpr (disjunctValues_ne_nil hs v)
    rw [disjunctValues, List.length_map] at hpos ⊢
    unfold HasSurfaceOr at h
    omega
  obtain ⟨b, hb⟩ := List.length_eq_one_iff.mp hl
  have hdecide : decide (Holds v s) = b := by
    rw [Bool.eq_iff_iff, decide_eq_true_iff, Holds, hb, List.mem_singleton, eq_comm]
  rw [hb, hdecide]

private theorem disjunctValues_intercalate (hne : ss ≠ []) (h : ∀ s ∈ ss, IsCondition s) :
    IsCondition (" AND ".intercalate ss) ∧ ∀ v, disjunctValues v (" AND ".intercalate ss) =
      (ss.map (disjunctValues v)).foldl meetDisjuncts [] := by
  cases ss with
  | nil => exact absurd rfl hne
  | cons s rest =>
    obtain ⟨hs, hrest⟩ := List.forall_mem_cons.mp h
    exact disjunctValues_conditions hs hrest

private theorem holds_intercalate (hne : ss ≠ []) (h : ∀ s ∈ ss, IsCondition s)
    (hv : ∀ s ∈ ss, Holds v s) : Holds v (" AND ".intercalate ss) := by
  rw [Holds, (disjunctValues_intercalate hne h).2]
  cases ss with
  | nil => exact absurd rfl hne
  | cons s rest =>
    obtain ⟨hs, hrest⟩ := List.forall_mem_cons.mp hv
    rw [List.map_cons, List.foldl_cons]
    exact true_mem_foldl_of_forall hs (List.forall_mem_map.mpr hrest)

private theorem holds_intercalate_iff (hne : ss ≠ []) (h : ∀ s ∈ ss, IsCondition s)
    (hor : ∀ s ∈ ss, ¬ HasSurfaceOr s) :
    Holds v (" AND ".intercalate ss) ↔ ∀ s ∈ ss, Holds v s := by
  have hsingle : ss.map (disjunctValues v) =
      (ss.map fun s ↦ decide (Holds v s)).map fun b ↦ [b] := by
    rw [List.map_map]
    exact List.map_congr_left fun s hs ↦ disjunctValues_eq_singleton (h s hs) (hor s hs) v
  rw [Holds, (disjunctValues_intercalate hne h).2, hsingle]
  cases ss with
  | nil => exact absurd rfl hne
  | cons s rest =>
    rw [List.map_cons, List.map_cons, List.foldl_cons]
    have hm : ((rest.map fun t ↦ decide (Holds v t)).map fun b ↦ [b]).foldl meetDisjuncts
        [decide (Holds v s)] = [decide (Holds v s) && _] := foldl_meetDisjuncts_singletons _ _
    have hfirst : meetDisjuncts [] [decide (Holds v s)] = [decide (Holds v s)] := rfl
    rw [hfirst, hm]
    simp

/-- Whether two conditions have no atom in common. -/
def Apart (s t : String) : Prop := ∀ a ∈ atoms s, a ∉ atoms t

instance (s t : String) : Decidable (Apart s t) := inferInstanceAs (Decidable (∀ _ ∈ _, _))

private theorem Apart.symm {s t : String} (h : Apart s t) : Apart t s := fun a ha hs ↦ h a hs ha

-- Conditions that have no atom in common are not all required where one of several has an `OR` at
-- its surface: the text can hold where one of them does not.
private theorem exists_holds_intercalate (h : ∀ s ∈ ss, IsCondition s) (hapart : ss.Pairwise Apart)
    (hl : 1 < ss.length) {s : String} (hs : s ∈ ss) (hor : HasSurfaceOr s) :
    ∃ v, Holds v (" AND ".intercalate ss) ∧ ∃ t ∈ ss, ¬ Holds v t := by
  have hne : ss ≠ [] := List.ne_nil_of_mem hs
  -- All atoms are true but those of one condition, which does not hold.
  have hfalse {t : String} (ht : t ∈ ss) : ¬ Holds (fun a ↦ decide (a ∉ atoms t)) t := by
    rw [Holds, disjunctValues_eq_replicate (b := false) (h t ht) (by simp)]
    simp
  have htrue {r t : String} (hr : r ∈ ss) (hrt : Apart r t) :
      disjunctValues (fun a ↦ decide (a ∉ atoms t)) r =
        List.replicate ((disjuncts? r).getD []).length true :=
    disjunctValues_eq_replicate (h r hr) fun a ha ↦ decide_eq_true (hrt a ha)
  have hall {r t : String} (hr : r ∈ ss) (hrt : Apart r t) :
      ∀ b ∈ disjunctValues (fun a ↦ decide (a ∉ atoms t)) r, b = true := by
    rw [htrue hr hrt]
    exact fun b ↦ List.eq_of_mem_replicate
  obtain ⟨before, after, rfl⟩ := List.append_of_mem hs
  obtain ⟨hbefore, hmiddle, hcross⟩ := List.pairwise_append.mp hapart
  cases after with
  | cons t after =>
    have hst : Apart s t := (List.pairwise_cons.mp hmiddle).1 t List.mem_cons_self
    refine ⟨_, ?_, t, by simp, hfalse (by simp)⟩
    rw [Holds, (disjunctValues_intercalate hne h).2, List.map_append, List.map_cons,
      List.foldl_append, List.foldl_cons]
    -- A disjunct before the last one stays: what comes before it is true, what follows is not met.
    refine true_mem_foldl_meetDisjuncts ?_ (List.forall_mem_map.mpr fun r hr ↦
      disjunctValues_ne_nil (h r (by simp [List.mem_cons.mp hr])) _)
    refine (meetDisjuncts_of_forall_true ?_ (hall hs hst) (disjunctValues_ne_nil (h s hs) _)).2 ?_
    · refine forall_foldl_meetDisjuncts (by simp) (List.forall_mem_map.mpr fun r hr ↦ ?_)
      have hr' : r ∈ before ++ s :: t :: after := List.mem_append_left _ hr
      exact ⟨disjunctValues_ne_nil (h r hr') _, hall hr' (hcross r hr t (by simp))⟩
    · rwa [htrue hs hst, List.length_replicate]
  | nil =>
    obtain ⟨t, before, rfl⟩ := List.exists_cons_of_ne_nil (l := before) (by
      rintro rfl
      simp at hl)
    have hst : Apart s t := (hcross t List.mem_cons_self s List.mem_cons_self).symm
    refine ⟨_, ?_, t, by simp, hfalse (by simp)⟩
    rw [Holds, (disjunctValues_intercalate hne h).2, List.map_append, List.foldl_append,
      List.map_singleton, List.foldl_cons, List.foldl_nil, htrue hs hst]
    -- A disjunct after the first one stays: nothing follows the last condition.
    obtain ⟨n, hn⟩ : ∃ n, ((disjuncts? s).getD []).length = n + 2 :=
      ⟨_, (Nat.sub_add_cancel hor).symm⟩
    rw [hn, List.replicate_succ]
    exact true_mem_meetDisjuncts_right _ true (by simp)

end Text

/-! ### Filters of a query -/

private theorem Text.IsCondition.ne_empty {s : String} (h : IsCondition s) : s ≠ "" := by
  rintro rfl
  revert h
  decide

private theorem Text.unlessEmpty_eq_some_iff {s w : String} :
    unlessEmpty s = some w ↔ s ≠ "" ∧ w = s := by
  by_cases hs : s = ""
  · simp [unlessEmpty, hs]
  · simp [unlessEmpty_of_ne hs, hs, eq_comm]

namespace Query

/-- A query with further filters. -/
def filterAll (q : Query) (filters : List String) : Query := filters.foldl filter q

/-- What the filters of a query require: its condition, if it has one, and those that are not empty.
-/
def required (q : Query) (filters : List String) : List String :=
  q.condition.toList ++ filters.filter (· ≠ "")

private theorem filter_empty (q : Query) : q.filter "" = q := rfl

private theorem filterAll_filter (q : Query) (filters : List String) :
    q.filterAll (filters.filter (· ≠ "")) = q.filterAll filters := by
  induction filters generalizing q with
  | nil => rfl
  | cons s rest ih =>
    by_cases hs : s = ""
    · subst hs
      exact (ih q).trans (by rw [filterAll, filterAll, List.foldl_cons, filter_empty])
    · rw [List.filter_cons_of_pos (by simpa using hs), filterAll, List.foldl_cons]
      exact ih (q.filter s)

private theorem filterAll_eq {q : Query} (filters : List String) (hq : ∀ s ∈ q.condition, s ≠ "") :
    q.filterAll filters =
      { q with condition := Text.unlessEmpty (" AND ".intercalate (q.required filters)) } := by
  have hne : ∀ s ∈ filters.filter (· ≠ ""), s ≠ "" := fun s hs ↦ by
    simpa using (List.mem_filter.mp hs).2
  rw [← filterAll_filter, filterAll, required]
  cases hc : q.condition with
  | none => exact foldl_filter hne q hc
  | some before =>
    have hb : before ≠ "" := hq before hc
    have hself : { q with condition := some before } = q := by
      cases q
      cases hc
      rfl
    have hj : " AND ".intercalate (before :: filters.filter (· ≠ "")) ≠ "" := by
      rw [ne_eq, Text.intercalate_eq_empty_iff (List.forall_mem_cons.mpr ⟨hb, hne⟩)]
      exact List.cons_ne_nil _ _
    have hf := foldl_filter_some hne q before
    rw [hself] at hf
    rw [hf, Option.toList_some, List.singleton_append, Text.unlessEmpty_of_ne hj]

/-- What further filters make of a query whose condition on rows, if it has one, is a condition. -/
structure FilteredBy (q : Query) (filters : List String) : Prop where
  /-- Only the condition on rows changes. -/
  others : q.filterAll filters = { q with condition := (q.filterAll filters).condition }
  /-- Empty filters change nothing. -/
  ignored : q.filterAll filters = q.filterAll (filters.filter (· ≠ ""))
  /-- There is no condition on rows exactly when nothing is required. -/
  omitted : (q.filterAll filters).condition = none ↔ q.condition = none ∧ ∀ s ∈ filters, s = ""
  /-- The condition is written after those of the common table expressions. -/
  written : Token.conditions (q.filterAll filters).tokens =
    cteConditions q.ctes ++ (q.filterAll filters).condition.toList
  /-- The condition has the disjuncts of what is required, those next to an `AND` together. -/
  read : ∀ w ∈ (q.filterAll filters).condition, Text.IsCondition w ∧ ∀ v,
    Text.disjunctValues v w =
      ((q.required filters).map (Text.disjunctValues v)).foldl meetDisjuncts []
  /-- It holds where all that is required holds. -/
  implied : ∀ w ∈ (q.filterAll filters).condition, ∀ v,
    (∀ s ∈ q.required filters, Text.Holds v s) → Text.Holds v w
  /-- It holds only there, if what is required is one condition or has no `OR` at its surface. -/
  conjoined : (q.required filters).length ≤ 1 ∨
      (∀ s ∈ q.required filters, ¬ Text.HasSurfaceOr s) →
    ∀ w ∈ (q.filterAll filters).condition, ∀ v, Text.Holds v w ↔
      ∀ s ∈ q.required filters, Text.Holds v s
  /-- Otherwise it can hold elsewhere, if no atom is required twice. -/
  widened : 1 < (q.required filters).length →
    (∃ s ∈ q.required filters, Text.HasSurfaceOr s) →
    (q.required filters).Pairwise Text.Apart →
    ∀ w ∈ (q.filterAll filters).condition, ∃ v, Text.Holds v w ∧
      ∃ s ∈ q.required filters, ¬ Text.Holds v s

/-- Filters that are conditions are required one after another. -/
theorem filteredBy_of_isCondition {q : Query} {filters : List String}
    (hq : ∀ s ∈ q.condition, Text.IsCondition s)
    (hf : ∀ s ∈ filters, s ≠ "" → Text.IsCondition s) : q.FilteredBy filters := by
  have hall : ∀ s ∈ q.required filters, Text.IsCondition s := by
    intro s hs
    rcases List.mem_append.mp hs with hs | hs
    · exact hq s (Option.mem_toList.mp hs)
    · obtain ⟨hm, hne⟩ := List.mem_filter.mp hs
      exact hf s hm (by simpa using hne)
  have heq := filterAll_eq filters fun s hs ↦ (hq s hs).ne_empty
  have hempty := Text.intercalate_eq_empty_iff (s := " AND ") fun s hs ↦ (hall s hs).ne_empty
  have hcondition : (q.filterAll filters).condition =
      Text.unlessEmpty (" AND ".intercalate (q.required filters)) := by rw [heq]
  have hmem : ∀ w ∈ (q.filterAll filters).condition,
      q.required filters ≠ [] ∧ w = " AND ".intercalate (q.required filters) := by
    intro w hw
    obtain ⟨hne, rfl⟩ := Text.unlessEmpty_eq_some_iff.mp (hcondition ▸ hw)
    exact ⟨fun hn ↦ hne (hempty.mpr hn), rfl⟩
  exact
    { others := by rw [hcondition, heq]
      ignored := (filterAll_filter q filters).symm
      omitted := by
        have hnil : q.required filters = [] ↔ q.condition = none ∧ ∀ s ∈ filters, s = "" := by
          simp [required]
        rw [← hnil, ← hempty, Option.eq_none_iff_forall_ne_some, hcondition]
        simp [Text.unlessEmpty_eq_some_iff]
      written := by
        obtain ⟨_, _, _, _, _, _, _, _, _⟩ := q
        rw [conditions_tokens, heq, conditions]
      read := fun w hw ↦ by
        obtain ⟨hne, rfl⟩ := hmem w hw
        exact Text.disjunctValues_intercalate hne hall
      implied := fun w hw v hv ↦ by
        obtain ⟨hne, rfl⟩ := hmem w hw
        exact Text.holds_intercalate hne hall hv
      conjoined := fun hs w hw v ↦ by
        obtain ⟨hne, rfl⟩ := hmem w hw
        rcases hs with hl | hor
        · obtain ⟨s, hs⟩ := List.length_eq_one_iff.mp
            (Nat.le_antisymm hl (List.length_pos_iff.mpr hne))
          simp [hs]
        · exact Text.holds_intercalate_iff hne hall hor
      widened := fun hl ⟨s, hs, hor⟩ hapart w hw ↦ by
        obtain ⟨-, rfl⟩ := hmem w hw
        exact Text.exists_holds_intercalate hall hapart hl hs hor }

/-- Orders that are in one of two states. -/
def openOrders : Query :=
  { items := [{ expr := .column none "id" }]
    source := some { table := "orders" }
    condition := some "state IN ('open', 'held or due')" }

/-- A filter with an `OR` at its surface beside others, and an empty one. -/
theorem filteredBy_openOrders :
    openOrders.FilteredBy ["", "total BETWEEN 1 AND 9 OR (urgent = 1 AND NOT paid = 1)"] ∧
      openOrders.required ["", "total BETWEEN 1 AND 9 OR (urgent = 1 AND NOT paid = 1)"] =
        ["state IN ('open', 'held or due')",
          "total BETWEEN 1 AND 9 OR (urgent = 1 AND NOT paid = 1)"] ∧
      Text.HasSurfaceOr "total BETWEEN 1 AND 9 OR (urgent = 1 AND NOT paid = 1)" ∧
      ¬ Text.HasSurfaceOr "state IN ('open', 'held or due')" :=
  ⟨filteredBy_of_isCondition (by decide +kernel) (by decide +kernel), by decide +kernel,
    by unfold Text.HasSurfaceOr; decide +kernel, by unfold Text.HasSurfaceOr; decide +kernel⟩

/-- After a filter by two states and one by a customer, orders in the first state are found whoever
their customer is. -/
theorem not_conjoined_states :
    ∃ v, (∃ w, ((({ source := some { table := "orders" } } : Query).filter
        "state = 'open' OR state = 'held'").filter "customer = 7").condition = some w ∧
          Text.Holds v w) ∧ ¬ Text.Holds v "customer = 7" := by
  refine ⟨fun a ↦ a != Mark.ofText "customer = 7", ⟨_, rfl, ?_⟩, ?_⟩
  · decide +kernel
  · decide +kernel

end Query

end TabularReport

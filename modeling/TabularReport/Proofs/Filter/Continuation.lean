import TabularReport.Proofs.Filter.Meaning
import TabularReport.Proofs.Filter.Quotation

/-!
# Conditions after other conditions

A condition is read in the same way whatever stands before it. Where it follows an `AND`, only its
first disjunct counts among the conjuncts before it: an `OR` at its surface ends them.
-/

namespace TabularReport

/-- How a mark is read: an atom goes on, a group is opened, an operand ends before a connective, or
a group is closed. Nothing of this depends on what has been read of the groups. -/
inductive ReadingState.Moves (m : Mark) : ReadingState → ReadingState → Prop
  | goesOn {outer : List OpenGroup} {g : OpenGroup} {o : Operand} {marks : List Mark} {depth : Nat}
      {ranged : Bool} :
      (∀ outer g, step ⟨outer, g, o⟩ m = some ⟨outer, g, .atom marks depth ranged⟩) →
      Moves m ⟨outer, g, o⟩ ⟨outer, g, .atom marks depth ranged⟩
  | opens {outer : List OpenGroup} {g : OpenGroup} {o : Operand} :
      (∀ outer g, step ⟨outer, g, o⟩ m = some ⟨g :: outer, {}, .missing⟩) →
      Moves m ⟨outer, g, o⟩ ⟨g :: outer, {}, .missing⟩
  | joins {outer : List OpenGroup} {g : OpenGroup} {o : Operand} {f : Formula (List Mark)}
      {logic : Logic} :
      o.formula? = some f →
      (∀ outer g, step ⟨outer, g, o⟩ m = some ⟨outer, g.join f logic, .missing⟩) →
      Moves m ⟨outer, g, o⟩ ⟨outer, g.join f logic, .missing⟩
  | closes {outer : List OpenGroup} {before g : OpenGroup} {o : Operand} {f : Formula (List Mark)} :
      o.formula? = some f →
      (∀ outer before g, step ⟨before :: outer, g, o⟩ m =
        some ⟨outer, before, .group (g.close f)⟩) →
      Moves m ⟨before :: outer, g, o⟩ ⟨outer, before, .group (g.close f)⟩

namespace ReadingState

variable {s t : ReadingState} {m : Mark}

private theorem moves_connect {outer : List OpenGroup} {g : OpenGroup} {o : Operand} (logic : Logic)
    (hs : ∀ outer g, step ⟨outer, g, o⟩ m = connect ⟨outer, g, o⟩ logic)
    (h : connect ⟨outer, g, o⟩ logic = some t) : Moves m ⟨outer, g, o⟩ t := by
  obtain ⟨f, hf, rfl⟩ := Option.map_eq_some_iff.mp h
  exact .joins hf fun outer g ↦ by rw [hs, connect, hf, Option.map_some]

private theorem moves_word {outer : List OpenGroup} {g : OpenGroup} {o : Operand} {w : List Char}
    {n : Option (List Mark × Bool)}
    (hs : ∀ outer g, step ⟨outer, g, o⟩ (.word w) =
      if Mark.isKeyword "and" w then connect ⟨outer, g, o⟩ .and
      else if Mark.isKeyword "or" w then connect ⟨outer, g, o⟩ .or
      else n.map fun p ↦ ⟨outer, g, .atom p.1 0 p.2⟩)
    (h : step ⟨outer, g, o⟩ (.word w) = some t) : Moves (.word w) ⟨outer, g, o⟩ t := by
  by_cases ha : Mark.isKeyword "and" w = true
  · exact moves_connect .and (fun outer g ↦ by rw [hs, if_pos ha]) (by rwa [hs, if_pos ha] at h)
  · by_cases ho : Mark.isKeyword "or" w = true
    · exact moves_connect .or (fun outer g ↦ by rw [hs, if_neg ha, if_pos ho])
        (by rwa [hs, if_neg ha, if_pos ho] at h)
    · rw [hs, if_neg ha, if_neg ho] at h
      obtain ⟨p, rfl, rfl⟩ := Option.map_eq_some_iff.mp h
      exact .goesOn fun outer g ↦ by rw [hs, if_neg ha, if_neg ho, Option.map_some]

private theorem moves_closing {outer : List OpenGroup} {g : OpenGroup} {o : Operand}
    (hs : ∀ outer g, step ⟨outer, g, o⟩ .closing =
      match outer with
      | [] => none
      | before :: outer => o.formula?.map fun f ↦ ⟨outer, before, .group (g.close f)⟩)
    (h : step ⟨outer, g, o⟩ .closing = some t) : Moves .closing ⟨outer, g, o⟩ t := by
  rw [hs] at h
  cases outer with
  | nil => cases h
  | cons before outer =>
    obtain ⟨f, hf, rfl⟩ := Option.map_eq_some_iff.mp h
    exact .closes hf fun outer before g ↦ by simp only [hs, hf, Option.map_some]

/-- What reading a mark can do. -/
theorem moves_of_step (h : s.step m = some t) : Moves m s t := by
  obtain ⟨outer, g, o⟩ := s
  cases m with
  | opening =>
    cases o with
    | missing =>
      cases h
      exact .opens fun _ _ ↦ rfl
    | atom marks depth ranged =>
      cases h
      exact .goesOn fun _ _ ↦ rfl
    | group f => cases h
  | closing =>
    cases o with
    | missing => exact moves_closing (fun outer _ ↦ by cases outer <;> rfl) h
    | group f => exact moves_closing (fun outer _ ↦ by cases outer <;> rfl) h
    | atom marks depth ranged =>
      cases depth with
      | zero => exact moves_closing (fun outer _ ↦ by cases outer <;> rfl) h
      | succ depth =>
        cases h
        exact .goesOn fun _ _ ↦ rfl
  | word w =>
    cases o with
    | missing =>
      exact moves_word (n := some ([.word w], Mark.isKeyword "between" w)) (fun _ _ ↦ rfl) h
    | group f => exact moves_word (n := none) (fun _ _ ↦ rfl) h
    | atom marks depth ranged =>
      cases depth with
      | zero =>
        cases ranged with
        | false =>
          exact moves_word (n := some (marks ++ [.word w], Mark.isKeyword "between" w))
            (fun _ _ ↦ rfl) h
        | true =>
          cases h
          exact .goesOn fun _ _ ↦ rfl
      | succ depth =>
        cases h
        exact .goesOn fun _ _ ↦ rfl

end ReadingState

/-! ### Going on from a group -/

/-- A group `c` that has been read after a group `g` in the way in which `b` is read by itself. The
conjuncts of `g` belong to the first conjunction after them. -/
inductive OpenGroup.GoesOn (g b : OpenGroup) : OpenGroup → Prop
  | conjunction : b.disjuncts = [] → GoesOn g b ⟨g.disjuncts, g.conjuncts ++ b.conjuncts⟩
  | disjunction {d d' : Formula (List Mark)} {ds : List (Formula (List Mark))} :
      b.disjuncts = d :: ds →
      (∀ v, d'.eval v = (Formula.evalMembers v .and g.conjuncts && d.eval v)) →
      GoesOn g b ⟨g.disjuncts ++ d' :: ds, b.conjuncts⟩

/-- A state `u` that has been read after a group in the way in which `s` is read by itself. -/
inductive ReadingState.GoesOn (g : OpenGroup) : ReadingState → ReadingState → Prop
  | outermost {b c : OpenGroup} {o : Operand} :
      g.GoesOn b c → GoesOn g ⟨[], b, o⟩ ⟨[], c, o⟩
  | inside {l : List OpenGroup} {b c h : OpenGroup} {o : Operand} :
      g.GoesOn b c → GoesOn g ⟨l ++ [b], h, o⟩ ⟨l ++ [c], h, o⟩

private theorem Formula.eval_conjunction (v : List Mark → Bool) (fs : List (Formula (List Mark)))
    (f : Formula (List Mark)) :
    (ofOperands .and (fs ++ [f])).eval v = (evalMembers v .and fs && f.eval v) := by
  rw [eval_ofOperands, evalMembers_append, evalMembers_singleton]
  rfl

private theorem OpenGroup.GoesOn.join {g b c : OpenGroup} (h : g.GoesOn b c)
    (f : Formula (List Mark)) (logic : Logic) : g.GoesOn (b.join f logic) (c.join f logic) := by
  cases h with
  | conjunction hb =>
    cases logic with
    | and =>
      have hs : OpenGroup.join ⟨g.disjuncts, g.conjuncts ++ b.conjuncts⟩ f .and =
          ⟨g.disjuncts, g.conjuncts ++ (b.join f .and).conjuncts⟩ := by
        simp [OpenGroup.join]
      rw [hs]
      exact .conjunction hb
    | or =>
      have hd : (b.join f .or).disjuncts = [.ofOperands .and (b.conjuncts ++ [f])] := by
        simp [OpenGroup.join, hb]
      refine .disjunction hd fun v ↦ ?_
      rw [Formula.eval_conjunction, Formula.eval_conjunction, Formula.evalMembers_append]
      exact Bool.and_assoc _ _ _
  | @disjunction d d' ds hb hd =>
    cases logic with
    | and => exact .disjunction hb hd
    | or =>
      have hs : OpenGroup.join ⟨g.disjuncts ++ d' :: ds, b.conjuncts⟩ f .or =
          ⟨g.disjuncts ++ d' :: (ds ++ [.ofOperands .and (b.conjuncts ++ [f])]),
            (b.join f .or).conjuncts⟩ := by
        simp [OpenGroup.join]
      rw [hs]
      exact .disjunction (by simp [OpenGroup.join, hb]) hd

namespace ReadingState

variable {g : OpenGroup} {s t u : ReadingState}

private theorem GoesOn.step {m : Mark} (h : GoesOn g s u) (hs : s.step m = some t) :
    ∃ w, u.step m = some w ∧ GoesOn g t w := by
  cases h with
  | @outermost b c o hb =>
    cases moves_of_step hs with
    | goesOn hm => exact ⟨_, hm _ _, .outermost hb⟩
    | opens hm => exact ⟨_, hm _ _, .inside (l := []) hb⟩
    | joins hf hm => exact ⟨_, hm _ _, .outermost (hb.join _ _)⟩
  | @inside inner b c h o hb =>
    generalize he : inner ++ [b] = outer at hs
    cases moves_of_step hs with
    | goesOn hm => exact ⟨_, hm _ _, he ▸ .inside hb⟩
    | opens hm => exact ⟨_, hm _ _, he ▸ .inside (l := h :: inner) hb⟩
    | joins hf hm => exact ⟨_, hm _ _, he ▸ .inside hb⟩
    | closes hf hm =>
      -- The group around is the outermost one, or lies inside of it.
      cases inner with
      | nil =>
        obtain ⟨rfl, rfl⟩ := List.cons.inj he
        exact ⟨_, hm _ _ _, .outermost hb⟩
      | cons before inner =>
        obtain ⟨rfl, rfl⟩ := List.cons.inj he
        exact ⟨_, hm _ _ _, .inside hb⟩

private theorem GoesOn.run {ms : List Mark} (h : GoesOn g s u) (hs : s.run ms = some t) :
    ∃ w, u.run ms = some w ∧ GoesOn g t w := by
  induction ms generalizing s u with
  | nil =>
    cases hs
    exact ⟨u, rfl, h⟩
  | cons m rest ih =>
    obtain ⟨s', hstep, hrest⟩ := Option.bind_eq_some_iff.mp hs
    obtain ⟨u', hu, hg⟩ := h.step hstep
    obtain ⟨w, hw, hg⟩ := ih hg hrest
    exact ⟨w, by rw [ReadingState.run, hu, Option.bind_some, hw], hg⟩

private theorem GoesOn.outermost_of_nil {b : OpenGroup} {o : Operand} (h : GoesOn g ⟨[], b, o⟩ u) :
    ∃ c, u = ⟨[], c, o⟩ ∧ g.GoesOn b c := by
  generalize hs : (⟨[], b, o⟩ : ReadingState) = s at h
  cases h with
  | outermost hc =>
    cases hs
    exact ⟨_, rfl, hc⟩
  | inside => simp at hs

/-- The disjuncts that have been read when no group is open and the last operand is complete. -/
def disjuncts? (s : ReadingState) : Option (List (Formula (List Mark))) :=
  if s.outer.isEmpty then
    s.operand.formula?.map fun f ↦
      s.group.disjuncts ++ [.ofOperands .and (s.group.conjuncts ++ [f])]
  else none

/-- What has been read of a condition with disjuncts. -/
theorem disjuncts?_eq_some_iff {ds : List (Formula (List Mark))} :
    s.disjuncts? = some ds ↔ ∃ g o f, s = ⟨[], g, o⟩ ∧ o.formula? = some f ∧
      ds = g.disjuncts ++ [.ofOperands .and (g.conjuncts ++ [f])] := by
  obtain ⟨outer, g, o⟩ := s
  cases outer with
  | nil =>
    rw [disjuncts?, if_pos (by rfl), Option.map_eq_some_iff]
    constructor
    · rintro ⟨f, hf, rfl⟩
      exact ⟨g, o, f, rfl, hf, rfl⟩
    · rintro ⟨g', o', f, he, hf, rfl⟩
      cases he
      exact ⟨f, hf, rfl⟩
  | cons before outer =>
    refine iff_of_false (by simp [disjuncts?]) ?_
    rintro ⟨g', o', f, he, -⟩
    cases he

end ReadingState

/-! ### Conditions with an `AND` between them -/

/-- The disjuncts at the surface of a condition; nothing when a text is no condition. -/
def Text.disjuncts? (s : String) : Option (List (Formula (List Mark))) :=
  (Mark.ofQuoted? s).bind fun ms ↦ (ReadingState.run {} ms).bind ReadingState.disjuncts?

/-- The values of disjuncts of two conditions with an `AND` between them, which requires the last
disjunct of the first condition together with the first one of the second condition. -/
def meetDisjuncts : List Bool → List Bool → List Bool
  | [a], b :: bs => (a && b) :: bs
  | a :: as, bs => a :: meetDisjuncts as bs
  | [], bs => bs

/-- The last of some disjuncts is met by the first of the others. -/
theorem meetDisjuncts_append (as : List Bool) (a b : Bool) (bs : List Bool) :
    meetDisjuncts (as ++ [a]) (b :: bs) = as ++ (a && b) :: bs := by
  induction as with
  | nil => rfl
  | cons c as ih =>
    cases as with
    | nil => rfl
    | cons d as => exact congrArg (c :: ·) ih

/-- Two conditions with an `AND` between them are a condition, whose conjunction is that of the
disjuncts next to the `AND`. -/
theorem Text.disjuncts?_and {s t : String} {as bs : List (Formula (List Mark))}
    (hs : disjuncts? s = some as) (ht : disjuncts? t = some bs) :
    ∃ ds, disjuncts? (s ++ " AND " ++ t) = some ds ∧
      ∀ v, ds.map (·.eval v) = meetDisjuncts (as.map (·.eval v)) (bs.map (·.eval v)) := by
  obtain ⟨ms, hms, hs⟩ := Option.bind_eq_some_iff.mp hs
  obtain ⟨σ, hσ, hs⟩ := Option.bind_eq_some_iff.mp hs
  obtain ⟨g, o, f, rfl, hf, rfl⟩ := ReadingState.disjuncts?_eq_some_iff.mp hs
  obtain ⟨ns, hns, ht⟩ := Option.bind_eq_some_iff.mp ht
  obtain ⟨τ, hτ, ht⟩ := Option.bind_eq_some_iff.mp ht
  obtain ⟨b, p, e, rfl, he, rfl⟩ := ReadingState.disjuncts?_eq_some_iff.mp ht
  -- The second condition is read on from the group that the first one has been joined to.
  have hfresh : ReadingState.GoesOn (g.join f .and) {} ⟨[], g.join f .and, .missing⟩ := by
    have hc := OpenGroup.GoesOn.conjunction (g := g.join f .and) (b := {}) rfl
    rw [List.append_nil] at hc
    exact .outermost hc
  obtain ⟨w, hw, hgoes⟩ := hfresh.run hτ
  have hand : Mark.ofQuoted? "AND" = some [.word Logic.and.keyword.toList] := by decide
  have hmarks : Mark.ofQuoted? (s ++ " AND " ++ t) =
      some (ms ++ .word Logic.and.keyword.toList :: ns) := by
    have hsep : " AND " = " " ++ ("AND" ++ " ") := by decide
    rw [hsep, String.append_assoc, String.append_assoc, String.append_assoc]
    exact Mark.ofQuoted?_append_blank hms (Mark.ofQuoted?_append_blank hand hns)
  have hrun : ReadingState.run {} (ms ++ .word Logic.and.keyword.toList :: ns) = some w := by
    rw [ReadingState.run_append, hσ, Option.bind_some, ReadingState.run,
      ReadingState.step_connective hf, Option.bind_some, hw]
  have hread {ds : List (Formula (List Mark))} (hds : w.disjuncts? = some ds) :
      disjuncts? (s ++ " AND " ++ t) = some ds := by
    rw [disjuncts?, hmarks, Option.bind_some, hrun, Option.bind_some, hds]
  obtain ⟨c, rfl, hc⟩ := hgoes.outermost_of_nil
  refine ⟨_, hread (ReadingState.disjuncts?_eq_some_iff.mpr ⟨_, _, _, rfl, he, rfl⟩), fun v ↦ ?_⟩
  have hg : (Formula.ofOperands .and (g.conjuncts ++ [f])).eval v =
      Formula.evalMembers v .and (g.join f .and).conjuncts := Formula.eval_ofOperands v _ _
  cases hc with
  | conjunction hb =>
    simp only [hb, List.nil_append, List.map_append, List.map_cons, List.map_nil,
      meetDisjuncts_append, hg, Formula.eval_conjunction, Formula.evalMembers_append]
    simp only [OpenGroup.join, Logic.combine, Bool.and_assoc]
  | @disjunction d d' ds hb hd =>
    simp only [hb, List.cons_append, List.map_append, List.map_cons, List.map_nil,
      meetDisjuncts_append, hg, hd, List.append_assoc]
    rfl

end TabularReport

import TabularReport.Document.Reader
import TabularReport.Proofs.Statement.Independence

/-!
# Readers that agree

Two readers agree up to a relation when they refuse the same sources, with the same error, and yield
related values of all others. Readers of records agree when their fields do.
-/

namespace TabularReport

/-- Results in a relation, whose errors are renamed the same way, are in the relation. -/
theorem SameOutcome.mapError {ε δ α : Type} {R : α → α → Prop} {x y : Except ε α}
    (h : SameOutcome R x y) (f : ε → δ) : SameOutcome R (x.mapError f) (y.mapError f) := by
  cases h with
  | error e => exact .error _
  | ok hr => exact .ok hr

private theorem SameOutcome.refl {ε α : Type} {R : α → α → Prop} (h : ∀ a, R a a) (x : Except ε α) :
    SameOutcome R x x := by
  cases x with
  | error e => exact .error e
  | ok a => exact .ok (h a)

/-- Two readers of the same sources whose values are in a relation. -/
def Reader.Agree {α : Type} (R : α → α → Prop) (r r' : Reader α) : Prop :=
  ∀ o s, SameOutcome R (r o s) (r' o s)

namespace RecordReader

variable {α β : Type}

/-- Two readers of the same fields whose values are in a relation. -/
structure Agree (R : α → α → Prop) (x y : RecordReader α) : Prop where
  keys : x.keys = y.keys
  width : x.width = y.width
  run : ∀ o i form, SameOutcome R (x.run o i form) (y.run o i form)

/-- The fields of two readers, taken together, agree when each of them does. -/
theorem Agree.seq {R : α → α → Prop} {S : β → β → Prop} {f g : RecordReader (α → β)}
    {x y : RecordReader α} (hf : Agree (fun h k ↦ ∀ a b, R a b → S (h a) (k b)) f g)
    (hx : Agree R x y) : Agree S (f <*> x) (g <*> y) where
  keys := congrArg₂ (· ++ ·) hf.keys hx.keys
  width := congrArg₂ (· + ·) hf.width hx.width
  run o i form := by
    have hrun := hf.run o i form
    have hrun' := hx.run o (i + f.width) form
    change SameOutcome S ((combine f x).run o i form) ((combine g y).run o i form)
    simp only [combine, ← hf.width]
    generalize f.run o i form = u, g.run o i form = v at hrun ⊢
    generalize x.run o (i + f.width) form = a, y.run o (i + f.width) form = b at hrun' ⊢
    cases hrun <;> cases hrun'
    · exact .error _
    · exact .error _
    · exact .error _
    · next hS _ _ hR => exact .ok (hS _ _ hR)

private theorem Agree.pure {R : α → α → Prop} {a b : α} (h : R a b) :
    Agree R (pure a : RecordReader α) (pure b) :=
  ⟨rfl, rfl, fun _ _ _ ↦ .ok h⟩

/-- A field that is read the same way keeps the agreement of those before it. -/
theorem Agree.seq_same {S : β → β → Prop} {f g : RecordReader (α → β)}
    (h : Agree (fun h k ↦ ∀ a, S (h a) (k a)) f g) (x : RecordReader α) :
    Agree S (f <*> x) (g <*> x) := by
  have hf : Agree (fun (h k : α → β) ↦ ∀ a b, a = b → S (h a) (k b)) f g :=
    ⟨h.keys, h.width, fun o i form ↦ by
      have hrun := h.run o i form
      generalize f.run o i form = u, g.run o i form = v at hrun ⊢
      cases hrun with
      | error e => exact .error e
      | ok hS => exact .ok fun a _ hab ↦ hab ▸ hS a⟩
  exact hf.seq ⟨rfl, rfl, fun _ _ _ ↦ .refl (fun _ ↦ rfl) _⟩

/-- A field whose values are mapped agrees with itself mapped to related ones. -/
theorem Agree.map {S : β → β → Prop} {f g : α → β} (h : ∀ a, S (f a) (g a)) (x : RecordReader α) :
    Agree S (f <$> x) (g <$> x) :=
  (Agree.pure (a := f) (b := g) h).seq_same x

/-- A field that may be left out is refused for the same reasons whatever its default is. -/
theorem agree_defaulted (name : String) (r : Reader α) (a b : α) :
    Agree (fun _ _ ↦ True) (defaulted name r a) (defaulted name r b) where
  keys := rfl
  width := rfl
  run o i form := by
    have hrefl {ε : Type} (x : Except ε α) : SameOutcome (fun _ _ ↦ True) x x :=
      .refl (fun _ ↦ trivial) x
    unfold defaulted fieldWith
    cases form with
    | positional items stop =>
      dsimp only
      cases items[i]? with
      | some s => exact hrefl _
      | none =>
        cases stop with
        | some cause => exact .error _
        | none => exact .ok trivial
    | keyed entries =>
      dsimp only
      rcases occurrences [name] entries with _ | ⟨⟨place, s⟩, _ | ⟨⟨again, _⟩, _⟩⟩
      · exact .ok trivial
      · exact hrefl _
      · exact hrefl _

/-- The fields of two records are read from an object with the same outcome when they agree. -/
theorem Agree.reader {R : α → α → Prop} {x y : RecordReader α} (h : Agree R x y) (what : String)
    (strict : Bool) : Reader.Agree R (x.reader what strict) (y.reader what strict) := by
  intro o s
  have hitems (items : List Source) (stop : Option Malformed) :
      SameOutcome R (x.readItems what o items stop) (y.readItems what o items stop) := by
    have hrun := h.run o 0 (.positional items stop)
    unfold readItems
    rw [← h.width]
    generalize x.run o 0 _ = u, y.run o 0 _ = v at hrun ⊢
    cases hrun with
    | error e =>
      obtain ⟨place, cause⟩ := e
      cases cause <;> exact .error _
    | ok hR =>
      dsimp only
      cases surplus o x.width items.length stop with
      | some e => exact .error e
      | none => exact .ok hR
  have hentries (entries : List (String × Source)) (stop : Option Malformed) :
      SameOutcome R (x.readEntries strict o entries stop)
        (y.readEntries strict o entries stop) := by
    have hrun := h.run o 0 (.keyed entries)
    unfold readEntries
    rw [← h.keys]
    generalize x.run o 0 _ = u, y.run o 0 _ = v at hrun ⊢
    cases hrun with
    | error e => exact .error _
    | ok hR =>
      dsimp only
      generalize [] ++ (strayEntry x.keys strict entries).toList ++ _ = errors
      cases errors with
      | cons e more => exact .error _
      | nil => exact .ok hR
  cases s with
  | array items stop => exact hitems items stop
  | object entries stop => exact hentries entries stop
  | _ => exact .error _

end RecordReader

/-- Readers that agree on the parts of documents agree on whole texts. -/
theorem Reader.Agree.ofText {α : Type} {R : α → α → Prop} {r r' : Reader α} (h : r.Agree R r')
    (text : String) : SameOutcome R (r.ofText text) (r'.ofText text) := by
  unfold Reader.ofText
  rcases Source.ofText text with ⟨s, more⟩
  have hs := h .text s
  dsimp only
  generalize r .text s = u, r' .text s = v at hs ⊢
  cases hs with
  | error e => exact .error e
  | ok hR =>
    cases more with
    | true => exact .error _
    | false => exact .ok hR

end TabularReport

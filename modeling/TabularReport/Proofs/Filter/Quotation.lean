import TabularReport.Proofs.Filter.Reading

/-!
# Marks of texts with quotations

What stands in quotes is part of a word, blanks and parentheses included. A text that leaves a
quotation open, begins a comment or distinguishes cases has no marks: what follows it, or the
connectives in it, would be read in another way.
-/

namespace TabularReport

open Text

namespace Mark

/-- The character that ends what a character begins to quote. -/
def quoteEnd? (c : Char) : Option Char :=
  if c = '[' then some ']'
  else if c = '\'' ∨ c = '"' ∨ c = '\x60' then some c
  else none

/-- Whether a text begins with a comment. -/
def startsComment (cs : List Char) : Bool :=
  ['-', '-'].isPrefixOf cs || ['/', '*'].isPrefixOf cs

/-- The marks of a text in which a quotation is open up to a given character; nothing when a
quotation is never ended or a comment begins. -/
def scan : Option Char → List Char → Option (List Mark)
  | none, [] => some []
  | some _, [] => none
  | some q, c :: rest =>
    let q' := if c = q then none else some q
    (scan q' rest).map (extend c (q'.isSome || startsWord rest))
  | none, c :: rest =>
    if startsComment (c :: rest) then none
    else if isBlank c then scan none rest
    else if c = '(' then (scan none rest).map (.opening :: ·)
    else if c = ')' then (scan none rest).map (.closing :: ·)
    else (scan (quoteEnd? c) rest).map (extend c ((quoteEnd? c).isSome || startsWord rest))

/-- Whether a mark is the word that begins a distinction of cases. -/
def isCase : Mark → Bool
  | .word w => isKeyword "case" w
  | _ => false

/-- The marks of a text, of which quotations are parts of words. -/
def ofQuoted? (s : String) : Option (List Mark) :=
  (scan none s.toList).filter fun ms ↦ !ms.any isCase

variable {q : Option Char} {cs a : List Char} {ms : List Mark}

private theorem exists_word_of_scan (hw : (q.isSome || startsWord cs) = true)
    (h : scan q cs = some ms) : ∃ w rest, ms = .word w :: rest := by
  have hextend (c : Char) (joined : Bool) (more : List Mark) :
      ∃ w rest, extend c joined more = .word w :: rest := by
    unfold extend
    split
    · split <;> exact ⟨_, _, rfl⟩
    · exact ⟨_, _, rfl⟩
  cases cs with
  | nil =>
    cases q with
    | none => cases hw
    | some q => cases h
  | cons c rest =>
    cases q with
    | some q =>
      obtain ⟨more, -, rfl⟩ := Option.map_eq_some_iff.mp h
      exact hextend _ _ _
    | none =>
      have hc : isWordChar c = true := hw
      simp only [isWordChar, Bool.and_eq_true, Bool.not_eq_true', bne_iff_ne] at hc
      obtain ⟨⟨hb, ho⟩, hp⟩ := hc
      rw [scan, hb, if_neg (c := (false = true)) (by simp), if_neg ho, if_neg hp] at h
      split at h
      · cases h
      · obtain ⟨more, -, rfl⟩ := Option.map_eq_some_iff.mp h
        exact hextend _ _ _

private theorem extend_append (c : Char) {joined : Bool}
    (h : joined = true → ∃ w rest, ms = .word w :: rest) (more : List Mark) :
    extend c joined (ms ++ more) = extend c joined ms ++ more := by
  cases joined with
  | false => rw [extend_false, extend_false, List.cons_append]
  | true =>
    obtain ⟨w, rest, rfl⟩ := h rfl
    rfl

private theorem starts_append_blank (cs b : List Char) :
    startsWord (cs ++ ' ' :: b) = startsWord cs ∧
      startsComment (cs ++ ' ' :: b) = startsComment cs := by
  cases cs with
  | nil => exact ⟨rfl, rfl⟩
  | cons c rest =>
    refine ⟨rfl, ?_⟩
    cases rest with
    | nil => simp [startsComment, List.isPrefixOf]
    | cons d more => simp [startsComment, List.isPrefixOf]

private theorem scan_append_blank (h : scan q a = some ms) (b : List Char) :
    scan q (a ++ ' ' :: b) = (scan none b).map (ms ++ ·) := by
  induction a generalizing q ms with
  | nil =>
    cases q with
    | some q => cases h
    | none =>
      cases h
      have hs : scan none (' ' :: b) = scan none b := by
        have hc : startsComment (' ' :: b) = false := rfl
        rw [scan, hc, if_neg (by simp), if_pos (by decide)]
      simp [hs]
  | cons c rest ih =>
    obtain ⟨hword, hcomment⟩ := starts_append_blank rest b
    -- A character that belongs to a word is put before the marks of what follows.
    have hput {q' : Option Char} {joined : Bool} (hj : joined = (q'.isSome || startsWord rest))
        (hm : (scan q' rest).map (extend c joined) = some ms) :
        (scan q' (rest ++ ' ' :: b)).map (extend c joined) =
          (scan none b).map (ms ++ ·) := by
      obtain ⟨more, hmore, rfl⟩ := Option.map_eq_some_iff.mp hm
      have hfirst : joined = true → ∃ w rest, more = .word w :: rest := fun ht ↦
        exists_word_of_scan (hj ▸ ht) hmore
      rw [ih hmore, Option.map_map]
      exact congrArg (Option.map · (scan none b)) (funext fun ns ↦ extend_append c hfirst ns)
    have hkeep {m : Mark} (hm : (scan none rest).map (m :: ·) = some ms) :
        (scan none (rest ++ ' ' :: b)).map (m :: ·) = (scan none b).map (ms ++ ·) := by
      obtain ⟨more, hmore, rfl⟩ := Option.map_eq_some_iff.mp hm
      rw [ih hmore, Option.map_map]
      rfl
    cases q with
    | some q =>
      rw [List.cons_append, scan, hword]
      exact hput rfl h
    | none =>
      have hc := (starts_append_blank (c :: rest) b).2
      rw [List.cons_append] at hc
      rw [List.cons_append, scan, hc, hword]
      rw [scan] at h
      split at h
      · cases h
      · next hnc =>
        rw [if_neg hnc]
        split at h
        · next hb => rw [if_pos hb, ih h]
        · next hb =>
          rw [if_neg hb]
          split at h
          · next ho => rw [if_pos ho, hkeep h]
          · next ho =>
            rw [if_neg ho]
            split at h
            · next hp => rw [if_pos hp, hkeep h]
            · next hp => rw [if_neg hp, hput rfl h]

/-- The marks of two texts with a blank between them. -/
theorem ofQuoted?_append_blank {s t : String} {ms ns : List Mark} (hs : ofQuoted? s = some ms)
    (ht : ofQuoted? t = some ns) : ofQuoted? (s ++ (" " ++ t)) = some (ms ++ ns) := by
  obtain ⟨hm, hmc⟩ := Option.filter_eq_some_iff.mp hs
  obtain ⟨hn, hnc⟩ := Option.filter_eq_some_iff.mp ht
  have hl : (s ++ (" " ++ t)).toList = s.toList ++ ' ' :: t.toList := by
    rw [String.toList_append, String.toList_append]
    rfl
  rw [ofQuoted?, hl, scan_append_blank hm, hn]
  refine Option.filter_eq_some_iff.mpr ⟨rfl, ?_⟩
  simp only [Bool.not_eq_true'] at hmc hnc ⊢
  rw [List.any_append, hmc, hnc]
  rfl

end Mark

end TabularReport

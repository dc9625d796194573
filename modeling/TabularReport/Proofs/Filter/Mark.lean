import TabularReport.Text.Basic

/-!
# Marks

A condition is written with parentheses and words. A parenthesis is a word of its own, blanks
separate words and do not count otherwise.
-/

namespace TabularReport

open Text

/-- A parenthesis or word of a condition. -/
inductive Mark where
  | opening
  | closing
  | word (chars : List Char)
deriving DecidableEq

namespace Mark

/-- Whether a character belongs to a word. -/
def isWordChar (c : Char) : Bool := !isBlank c && c != '(' && c != ')'

/-- Whether a text begins with a word. -/
def startsWord (cs : List Char) : Bool := cs.head?.any isWordChar

/-- A character before marks, as part of their first word or as a word of its own. -/
def extend (c : Char) (joined : Bool) : List Mark → List Mark
  | .word w :: rest => if joined then .word (c :: w) :: rest else .word [c] :: .word w :: rest
  | ms => .word [c] :: ms

/-- The marks of a text. -/
def ofChars : List Char → List Mark
  | [] => []
  | c :: rest =>
    if isBlank c then ofChars rest
    else if c = '(' then .opening :: ofChars rest
    else if c = ')' then .closing :: ofChars rest
    else extend c (startsWord rest) (ofChars rest)

/-- The marks of a text. -/
def ofText (s : String) : List Mark := ofChars s.toList

/-- Whether a word is a keyword; letter case does not count. -/
def isKeyword (keyword : String) (w : List Char) : Bool := w.map Char.toLower == keyword.toList

/-- Whether a word connects operands or opens a range. -/
def isConnective (w : List Char) : Bool :=
  isKeyword "and" w || isKeyword "or" w || isKeyword "between" w

/-- Whether a mark is a word that is no connective. -/
def isPlain : Mark → Bool
  | .word w => !isConnective w
  | _ => false

/-- A character that is no part of the next word is a word of its own. -/
theorem extend_false (c : Char) (ms : List Mark) : extend c false ms = .word [c] :: ms := by
  unfold extend
  split <;> rfl

private theorem exists_word {cs : List Char} (h : startsWord cs = true) :
    ∃ w rest, ofChars cs = .word w :: rest := by
  cases cs with
  | nil => cases h
  | cons c rest =>
    have hw : isWordChar c = true := h
    simp only [isWordChar, Bool.and_eq_true, Bool.not_eq_true', bne_iff_ne] at hw
    obtain ⟨⟨hb, ho⟩, hc⟩ := hw
    rw [ofChars, hb, if_neg (by simp), if_neg ho, if_neg hc]
    unfold extend
    split
    · split <;> exact ⟨_, _, rfl⟩
    · exact ⟨_, _, rfl⟩

/-- The marks of two texts, of which the second one does not begin with a word. -/
theorem ofChars_append (a : List Char) {b : List Char} (h : startsWord b = false) :
    ofChars (a ++ b) = ofChars a ++ ofChars b := by
  induction a with
  | nil => rfl
  | cons c rest ih =>
    rw [List.cons_append, ofChars, ofChars, ih]
    split
    · rfl
    · split
      · rfl
      · split
        · rfl
        -- Whether the character joins the word after it depends on the character next to it,
        -- which is the first one of the second text when the first text ends here.
        · cases rest with
          | nil =>
            have hb : startsWord ([] ++ b) = false := h
            rw [hb, extend_false, startsWord, List.head?_nil, Option.any_none, extend_false]
            rfl
          | cons d more =>
            have hd : startsWord (d :: more ++ b) = startsWord (d :: more) := rfl
            rw [hd]
            cases hs : startsWord (d :: more) with
            | true =>
              obtain ⟨w, ms, hw⟩ := exists_word hs
              rw [hw]
              rfl
            | false =>
              rw [extend_false, extend_false]
              rfl

/-- Characters of a word are a single mark. -/
theorem ofChars_word {w : List Char} (hne : w ≠ []) (hw : ∀ c ∈ w, isWordChar c = true) :
    ofChars w = [.word w] := by
  induction w with
  | nil => exact absurd rfl hne
  | cons c rest ih =>
    have hc := hw c List.mem_cons_self
    have hr := fun d hd ↦ hw d (List.mem_cons_of_mem c hd)
    simp only [isWordChar, Bool.and_eq_true, Bool.not_eq_true', bne_iff_ne] at hc
    obtain ⟨⟨hb, ho⟩, hp⟩ := hc
    rw [ofChars, hb, if_neg (by simp), if_neg ho, if_neg hp]
    cases rest with
    | nil => rfl
    | cons d more =>
      have hs : startsWord (d :: more) = true := hr d List.mem_cons_self
      rw [ih (List.cons_ne_nil d more) hr, hs]
      rfl

private theorem mem_of_word_extend {c : Char} {joined : Bool} {ms : List Mark} {w : List Char}
    (h : .word w ∈ extend c joined ms) : ∀ e ∈ w, e = c ∨ ∃ v, .word v ∈ ms ∧ e ∈ v := by
  intro e he
  have hfirst (h : .word w ∈ .word [c] :: ms) : e = c ∨ ∃ v, .word v ∈ ms ∧ e ∈ v := by
    rcases List.mem_cons.mp h with hw | hw
    · cases hw
      exact .inl (List.mem_singleton.mp he)
    · exact .inr ⟨w, hw, he⟩
  unfold extend at h
  split at h
  · next v more =>
    split at h
    · rcases List.mem_cons.mp h with hw | hw
      · cases hw
        exact (List.mem_cons.mp he).imp_right fun hv ↦ ⟨v, List.mem_cons_self, hv⟩
      · exact .inr ⟨w, List.mem_cons_of_mem _ hw, he⟩
    · exact hfirst h
  · exact hfirst h

/-- The words of a text have characters of the text. -/
theorem mem_of_word {cs w : List Char} (h : .word w ∈ ofChars cs) : ∀ c ∈ w, c ∈ cs := by
  induction cs generalizing w with
  | nil => cases h
  | cons d rest ih =>
    intro c hc
    unfold ofChars at h
    split at h
    · exact List.mem_cons_of_mem d (ih h c hc)
    · split at h
      · exact List.mem_cons_of_mem d (ih (by simpa using h) c hc)
      · split at h
        · exact List.mem_cons_of_mem d (ih (by simpa using h) c hc)
        · rcases mem_of_word_extend h c hc with rfl | ⟨v, hv, hm⟩
          · exact List.mem_cons_self
          · exact List.mem_cons_of_mem d (ih hv c hm)

/-- A text without parentheses has words alone. -/
theorem ofChars_words {cs : List Char} (h : '(' ∉ cs ∧ ')' ∉ cs) :
    ∃ ws : List (List Char), ofChars cs = ws.map .word := by
  induction cs with
  | nil => exact ⟨[], rfl⟩
  | cons c rest ih =>
    simp only [List.mem_cons, not_or] at h
    obtain ⟨ws, hws⟩ := ih ⟨h.1.2, h.2.2⟩
    rw [ofChars, if_neg (Ne.symm h.1.1), if_neg (Ne.symm h.2.1), hws]
    split
    · exact ⟨ws, rfl⟩
    · cases startsWord rest with
      | false => exact ⟨[c] :: ws, extend_false c _⟩
      | true =>
        cases ws with
        | nil => exact ⟨[[c]], rfl⟩
        | cons w ws => exact ⟨(c :: w) :: ws, rfl⟩

/-- A blank separates the marks before it from those after it. -/
theorem ofText_append_blank (a b : String) : ofText (a ++ (" " ++ b)) = ofText a ++ ofText b := by
  have hb : startsWord (" " ++ b).toList = false := by
    rw [String.toList_append]
    rfl
  have hs : ofChars (" " ++ b).toList = ofChars b.toList := by
    rw [String.toList_append]
    rfl
  rw [ofText, String.toList_append, ofChars_append _ hb, hs]
  rfl

/-- A text in parentheses has the marks of the parentheses around its own. -/
theorem ofText_parenthesized (s : String) :
    ofText ("(" ++ s ++ ")") = .opening :: (ofText s ++ [.closing]) := by
  have hc : ofChars (s.toList ++ [')']) = ofChars s.toList ++ [.closing] := ofChars_append _ rfl
  rw [ofText, String.toList_append, String.toList_append, List.append_assoc]
  exact congrArg (.opening :: ·) hc

/-- A word that is no connective is none of the keywords. -/
theorem isKeyword_eq_false {w : List Char} (h : isConnective w = false) :
    isKeyword "and" w = false ∧ isKeyword "or" w = false ∧ isKeyword "between" w = false := by
  simpa [isConnective, and_assoc] using h

end Mark

end TabularReport

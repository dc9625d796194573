import TabularReport.Proofs.Filter.Column

/-!
# The surface of a condition

What stands in quotes or in parentheses is below the surface of a text. A connective counts for a
condition as a whole only when it is at the surface.
-/

namespace TabularReport

/-- Where in a text something stands: in which quotes, and in how many parentheses. -/
structure Nesting where
  quote : Option Char := none
  depth : Nat := 0
deriving DecidableEq

namespace Nesting

/-- Whether a character begins or ends a quotation. -/
def isQuote (c : Char) : Bool := c == '\'' || c == '"'

/-- Whether a character belongs to a word. Words may be qualified, and placeholders are words. -/
def isWordPart (c : Char) : Bool :=
  Identifier.isPart c || c == '.' || c == '$' || 127 < c.toNat

/-- Whether something stands outside of all quotes and parentheses. -/
def isSurface (n : Nesting) : Bool := n.quote.isNone && n.depth == 0

/-- The nesting after a character. -/
def step (n : Nesting) (c : Char) : Nesting :=
  match n.quote with
  | some q => if c = q then { n with quote := none } else n
  | none =>
    if isQuote c then { n with quote := some c }
    else if c = '(' then { n with depth := n.depth + 1 }
    else if c = ')' then { n with depth := n.depth - 1 }
    else n

/-- A text in which only the words at the surface are left, and blanks for all else. -/
def surface (n : Nesting) : List Char → List Char
  | [] => []
  | c :: rest => (if n.isSurface && isWordPart c then c else ' ') :: (n.step c).surface rest

/-- Whether a text ends what is open before it, and nothing else that it has not begun. -/
def closes (n : Nesting) : List Char → Bool
  | [] => n.isSurface
  | c :: rest => !(n.isSurface && c == ')') && (n.step c).closes rest

/-- One more pair of parentheses around. -/
def deeper (n : Nesting) : Nesting := { n with depth := n.depth + 1 }

private theorem isSurface_iff {n : Nesting} : n.isSurface = true ↔ n = {} := by
  obtain ⟨q, d⟩ := n
  simp [isSurface]

private theorem step_deeper {n : Nesting} {c : Char} (h : (n.isSurface && c == ')') = false) :
    n.deeper.step c = (n.step c).deeper := by
  obtain ⟨q, d⟩ := n
  cases q with
  | some q =>
    simp only [step, deeper]
    split <;> rfl
  | none =>
    simp only [step, deeper]
    split
    · rfl
    · split
      · rfl
      · split
        · next hc =>
          have hd : d ≠ 0 := by
            rintro rfl
            simp [isSurface, hc] at h
          have hp : d + 1 - 1 = d - 1 + 1 := by omega
          rw [hp]
        · rfl

variable {n : Nesting} {a b : List Char}

private theorem closes_append (h : n.closes a = true) (b : List Char) :
    n.closes (a ++ b) = closes {} b ∧ n.surface (a ++ b) = n.surface a ++ surface {} b := by
  induction a generalizing n with
  | nil =>
    rw [isSurface_iff.mp h]
    exact ⟨rfl, rfl⟩
  | cons c rest ih =>
    rw [closes, Bool.and_eq_true] at h
    obtain ⟨hc, hs⟩ := ih h.2
    rw [List.cons_append, closes, h.1, Bool.true_and, surface, surface, hc, hs]
    exact ⟨rfl, rfl⟩

private theorem closes_deeper (h : n.closes a = true) (b : List Char) :
    n.deeper.closes (a ++ ')' :: b) = closes {} b ∧
      n.deeper.surface (a ++ ')' :: b) = List.replicate (a.length + 1) ' ' ++ surface {} b := by
  have hd (n : Nesting) : n.deeper.isSurface = false := by
    simp [deeper, isSurface]
  induction a generalizing n with
  | nil =>
    rw [isSurface_iff.mp h]
    exact ⟨rfl, rfl⟩
  | cons c rest ih =>
    rw [closes, Bool.and_eq_true, Bool.not_eq_true'] at h
    obtain ⟨hc, hs⟩ := ih h.2
    rw [List.cons_append, closes, surface, hd, step_deeper h.1, hc, hs]
    exact ⟨rfl, rfl⟩

private theorem closes_of_isWordPart (h : ∀ c ∈ a, isWordPart c = true) :
    closes {} a = true ∧ surface {} a = a := by
  induction a with
  | nil => exact ⟨rfl, rfl⟩
  | cons c rest ih =>
    have hc := h c List.mem_cons_self
    have hn : ∀ d ∈ ['(', ')', '\'', '"'], c ≠ d := by
      rintro d hd rfl
      simp only [List.mem_cons, List.not_mem_nil, or_false] at hd
      rcases hd with rfl | rfl | rfl | rfl <;> revert hc <;> decide
    have hq : isQuote c = false := by
      simp [isQuote, hn '\'' (by decide), hn '"' (by decide)]
    have hs : step {} c = {} := by
      simp [step, hq, hn '(' (by decide), hn ')' (by decide)]
    obtain ⟨hr, hv⟩ := ih fun d hd ↦ h d (List.mem_cons_of_mem c hd)
    rw [closes, surface, hs, hr, hv, hc]
    simp [isSurface, hn ')' (by decide)]

/-- A text without quotes and parentheses closes itself. -/
theorem closes_of_plain (h : ∀ c ∈ a, c ∉ ['(', ')', '\'', '"']) : closes {} a = true := by
  induction a with
  | nil => rfl
  | cons c rest ih =>
    have hc := h c List.mem_cons_self
    simp only [List.mem_cons, List.not_mem_nil, or_false, not_or] at hc
    obtain ⟨ho, hp, hs, hd⟩ := hc
    have he : step {} c = {} := by simp [step, isQuote, hs, hd, ho, hp]
    rw [closes, he, ih fun d hm ↦ h d (List.mem_cons_of_mem c hm)]
    simp [hp]

/-- What is left at the surface of a text are characters of the text, and blanks. -/
theorem mem_of_mem_surface {n : Nesting} {cs : List Char} {c : Char}
    (h : c ∈ n.surface cs) : c = ' ' ∨ c ∈ cs := by
  induction cs generalizing n with
  | nil => cases h
  | cons d rest ih =>
    rw [surface] at h
    rcases List.mem_cons.mp h with rfl | h
    · split
      · exact .inr List.mem_cons_self
      · exact .inl rfl
    · exact (ih h).imp_right (List.mem_cons_of_mem d)

/-- The words at the surface of a text. -/
def words (cs : List Char) : List Mark := Mark.ofChars (surface {} cs)

private theorem words_append_blank (h : closes {} a = true) (b : List Char) :
    words (a ++ ' ' :: b) = words a ++ words b := by
  rw [words, (closes_append h _).2, Mark.ofChars_append _ rfl]
  rfl

private theorem ofChars_replicate (k : Nat) (cs : List Char) :
    Mark.ofChars (List.replicate k ' ' ++ cs) = Mark.ofChars cs := by
  induction k with
  | zero => rfl
  | succ k ih =>
    rw [List.replicate_succ, List.cons_append, Mark.ofChars, if_pos (by decide), ih]

private theorem words_append_call (ha : closes {} a = true) {argument : List Char}
    (hi : closes {} argument = true) (b : List Char) :
    closes {} (a ++ '(' :: (argument ++ ')' :: b)) = closes {} b ∧
      words (a ++ '(' :: (argument ++ ')' :: b)) = words a ++ words b := by
  obtain ⟨hc, hs⟩ := closes_append ha ('(' :: (argument ++ ')' :: b))
  obtain ⟨hd, hv⟩ := closes_deeper hi b
  constructor
  · rw [hc]
    exact hd
  · have hv' : surface {} ('(' :: (argument ++ ')' :: b)) =
        List.replicate (argument.length + 2) ' ' ++ surface {} b := congrArg (' ' :: ·) hv
    rw [words, hs, hv', Mark.ofChars_append _ rfl, ofChars_replicate]
    rfl

end Nesting

open Nesting

/-- Whether a mark is the word `OR`. -/
def Mark.isOr : Mark → Bool
  | .word w => isKeyword "or" w
  | _ => false

/-- Whether a text ends all quotations and closes all parentheses that it has begun. -/
def Text.isClosed (s : String) : Bool := closes {} s.toList

/-- Whether a text has an `OR` outside of quotes and parentheses. -/
def Text.exposesOr (s : String) : Bool := (words s.toList).any Mark.isOr

namespace Text

variable {a b s : String}

/-- A closed text before a blank and another text. -/
theorem exposesOr_append_blank (h : isClosed a = true) (b : String) :
    isClosed (a ++ (" " ++ b)) = isClosed b ∧
      exposesOr (a ++ (" " ++ b)) = (exposesOr a || exposesOr b) := by
  have ht : (a ++ (" " ++ b)).toList = a.toList ++ ' ' :: b.toList := by
    rw [String.toList_append, String.toList_append]
    rfl
  constructor
  · rw [isClosed, ht, (closes_append h _).1]
    rfl
  · rw [exposesOr, ht, words_append_blank h, List.any_append]
    rfl

/-- A closed text in parentheses is closed and exposes nothing. -/
theorem exposesOr_parenthesized (h : isClosed s = true) :
    isClosed ("(" ++ s ++ ")") = true ∧ exposesOr ("(" ++ s ++ ")") = false := by
  have ht : ("(" ++ s ++ ")").toList = [] ++ '(' :: (s.toList ++ ')' :: []) := by
    rw [String.toList_append, String.toList_append]
    rfl
  obtain ⟨hc, hw⟩ := words_append_call (a := []) rfl h []
  constructor
  · rw [isClosed, ht, hc]
    rfl
  · rw [exposesOr, ht, hw]
    rfl

end Text

private theorem Mark.IsName.words_eq {w : List Char} (h : Mark.IsName w) :
    closes {} w = true ∧ words w = [.word w] := by
  have hp : ∀ c ∈ w, isWordPart c = true := by
    intro c hc
    rcases h.parts c hc with hp | rfl
    · rw [Identifier.isFoldedPart, Bool.or_eq_true] at hp
      rcases hp with hp | hp
      · simp [isWordPart, hp]
      · have hn : 127 < c.toNat := by
          simp only [Identifier.isFoldedLetter, Bool.or_eq_true, beq_iff_eq] at hp
          omega
        simp [isWordPart, hn]
    · decide
  obtain ⟨hc, hs⟩ := closes_of_isWordPart hp
  exact ⟨hc, by rw [words, hs, Mark.ofChars_word h.nonempty h.isWordChar]⟩

/-- A column with plain names is closed, and its words are no connectives. -/
theorem Mark.IsColumn.words_eq {cs : List Char} (h : Mark.IsColumn cs) :
    closes {} cs = true ∧ ∀ m ∈ words cs, m.isPlain = true := by
  induction h with
  | nil => exact ⟨rfl, fun m hm ↦ absurd hm List.not_mem_nil⟩
  | name hw =>
    obtain ⟨hc, hs⟩ := hw.words_eq
    refine ⟨hc, ?_⟩
    simp [hs, Mark.isPlain, hw.plain]
  | @call w argument rest hw ha _ ih =>
    obtain ⟨hc, hs⟩ := hw.words_eq
    have hi : closes {} argument = true := closes_of_plain fun c hm hp ↦ ha.not_mem hp hm
    obtain ⟨hd, hv⟩ := words_append_call hc hi rest
    rw [hd, hv]
    refine ⟨ih.1, ?_⟩
    simpa [hs, Mark.isPlain, hw.plain] using ih.2

end TabularReport

import TabularReport.Proofs.Statement.Composition

/-!
# The marks of parameters

A parameter stands in a statement as a question mark, with a number or alone, or as a name after a
colon, an at sign, a dollar sign or a number sign. Inside of quotations and comments these signs
mean nothing. A statement ends at a semicolon outside of quotations and comments and at a null
character anywhere; what follows does not belong to it. A text is read character by character, and
what a character means depends on the state that the reading has come to.
-/

namespace TabularReport.Sql

open Text Placeholder

/-- The state that the reading of a statement has come to. -/
inductive ScanState where
  | plain
  /-- Inside of a name, a keyword or a number. -/
  | word
  /-- After a hyphen. -/
  | hyphen
  /-- After a stroke. -/
  | stroke
  /-- Inside of a mark, after its sign and some characters of its name. -/
  | mark (sign : Char) (name : List Char)
  /-- Inside of a quotation that ends at the given character. -/
  | quotation (close : Char)
  /-- Inside of a comment that ends with its line. -/
  | lineComment
  /-- Inside of a comment that ends with a star and a stroke. -/
  | blockComment
  /-- After a star in a comment that can end with it. -/
  | blockStar
  /-- After the end of the statement. -/
  | finished
deriving DecidableEq

/-- A character that a name or a number goes on with. -/
def isNamePart (c : Char) : Bool := c.isAlphanum || c == '_' || c == '$' || 127 < c.toNat

/-- Whether a character belongs to a mark with the given sign: digits go on with a question mark,
names with the other signs. -/
def goesOn (sign c : Char) : Bool := if sign = '?' then isDigit c else isNamePart c

namespace ScanState

/-- Where a character leads that goes on with nothing before it. -/
def begins (c : Char) : ScanState :=
  if ['\x27', '\x22', '\x60'].contains c then .quotation c
  else if c = '[' then .quotation ']'
  else if c = '-' then .hyphen
  else if c = '/' then .stroke
  else if [';', '\x00'].contains c then .finished
  else if ['?', ':', '@', '$', '#'].contains c then .mark c []
  else if isNamePart c then .word
  else .plain

/-- A state that is left by a null character alone. -/
def unlessNull (p : ScanState) (c : Char) : ScanState := if c = '\x00' then .finished else p

/-- Where a character leads. Two colons are no mark. -/
def next : ScanState → Char → ScanState
  | .plain, c => begins c
  | .word, c => if isNamePart c then .word else begins c
  | .hyphen, c => if c = '-' then .lineComment else begins c
  | .stroke, c => if c = '*' then .blockComment else begins c
  | .mark sign name, c =>
    if goesOn sign c then .mark sign (name ++ [c])
    else if sign = ':' && name.isEmpty && c = ':' then .plain
    else begins c
  | .quotation close, c => if c = close then .plain else unlessNull (.quotation close) c
  | .lineComment, c => if c = '\n' then .plain else unlessNull .lineComment c
  | .blockComment, c => if c = '*' then .blockStar else unlessNull .blockComment c
  | .blockStar, c =>
    if c = '/' then .plain else if c = '*' then .blockStar else unlessNull .blockComment c
  | .finished, _ => .finished

/-- The mark that ends in a state: a question mark needs no name after it. -/
def ended : ScanState → List String
  | .mark sign name =>
    if sign = '?' || !name.isEmpty then [String.ofList (sign :: name)] else []
  | _ => []

/-- The mark that ends before a character. -/
def endedBy (p : ScanState) (c : Char) : List String :=
  match p with
  | .mark sign _ => if goesOn sign c then [] else p.ended
  | _ => []

/-- Whether a state is inside of a statement and outside of its quotations and comments. -/
def isOutside : ScanState → Bool
  | .quotation _ | .lineComment | .blockComment | .blockStar | .finished => false
  | _ => true

/-- Whether a state is between or inside of words. -/
def isSettled : ScanState → Bool
  | .plain | .word => true
  | _ => false

end ScanState

open ScanState

/-- The marks of the statement that a text goes on with when it is read from a state on. -/
def marksFrom (p : ScanState) : List Char → List String
  | [] => p.ended
  | c :: rest => p.endedBy c ++ marksFrom (p.next c) rest

/-- The marks of the statement that a text begins with, in the order of the text. -/
def marks (sql : String) : List String := marksFrom .plain sql.toList

/-- Whether a text ends every quotation and comment that it begins, and no statement. -/
def isComplete (sql : String) : Bool := (sql.toList.foldl next .plain).isOutside

/-- How a text is read from a state on: it has the given marks, ends every quotation and comment
that it begins, and ends no statement. -/
structure Reads (p : ScanState) (cs : List Char) (names : List String) : Prop where
  marks : marksFrom p cs = names
  outside : (cs.foldl next p).isOutside = true

/-- The characters that have a meaning beside words. -/
def signs : List Char :=
  ['\x27', '\x22', '\x60', '[', '-', '/', ';', '\x00', '?', ':', '@', '$', '#']

/-- Whether no character of a text has a meaning beside words. -/
def isQuiet (cs : List Char) : Bool := cs.all fun c => !signs.contains c

private theorem begins_of_not_mem {c : Char} (h : c ∉ signs) :
    begins c = if isNamePart c then .word else .plain := by
  simp only [signs, List.mem_cons, List.not_mem_nil, or_false, not_or] at h
  simp [begins, h]

private theorem isNamePart_of_isDigit {c : Char} (h : isDigit c = true) : isNamePart c = true := by
  simp [isNamePart, Char.isAlphanum, isDigit_iff.mp h]

private theorem begins_separator {c : Char} (h : c ∈ separators) : begins c = .plain := by
  have hall : separators.all (begins · = .plain) = true := by decide
  exact of_decide_eq_true (List.all_eq_true.mp hall c h)

private theorem apart_of_mem_separators {c : Char} (h : c ∈ separators) :
    isNamePart c = false ∧ isDigit c = false ∧ c ≠ ':' ∧ c ≠ '-' ∧ c ≠ '*' := by
  have hall : separators.all (fun c ↦ isNamePart c = false ∧ isDigit c = false ∧
      c ≠ ':' ∧ c ≠ '-' ∧ c ≠ '*') = true := by decide
  exact of_decide_eq_true (List.all_eq_true.mp hall c h)

namespace ScanState

variable {p : ScanState} {c : Char}

private theorem next_separator (hp : p.isOutside = true) (hc : c ∈ separators) :
    p.next c = .plain ∧ p.endedBy c = p.ended := by
  obtain ⟨hname, hdigit, hcolon, hhyphen, hstar⟩ := apart_of_mem_separators hc
  have hg (sign : Char) : goesOn sign c = false := by
    unfold goesOn
    split
    · exact hdigit
    · exact hname
  have hb := begins_separator hc
  cases p with
  | plain => exact ⟨hb, rfl⟩
  | word => exact ⟨by simp [next, hname, hb], rfl⟩
  | hyphen => exact ⟨by simp [next, hhyphen, hb], rfl⟩
  | stroke => exact ⟨by simp [next, hstar, hb], rfl⟩
  | mark sign name => exact ⟨by simp [next, hg, hcolon, hb], by simp [endedBy, hg]⟩
  | quotation _ | lineComment | blockComment | blockStar | finished => cases hp

private theorem next_mark {sign : Char} (hc : goesOn sign c = true) (name : List Char) :
    (mark sign name).next c = .mark sign (name ++ [c]) ∧ (mark sign name).endedBy c = [] := by
  simp [next, endedBy, hc]

private theorem isSettled_next (hp : p.isSettled = true) (hc : c ∉ signs) :
    (p.next c).isSettled = true ∧ p.endedBy c = [] := by
  cases p with
  | plain =>
    refine ⟨?_, rfl⟩
    rw [next, begins_of_not_mem hc]
    split <;> rfl
  | word =>
    refine ⟨?_, rfl⟩
    rw [next, begins_of_not_mem hc]
    split <;> rfl
  | _ => cases hp

end ScanState

private theorem marksFrom_append {p : ScanState} {a b : List Char}
    (ha : (a.foldl next p).isOutside = true) (hb : isSeparate b = true) :
    marksFrom p (a ++ b) = marksFrom p a ++ marksFrom .plain b := by
  induction a generalizing p with
  | nil =>
    cases b with
    | nil => simp [marksFrom, ended]
    | cons c rest =>
      have hc : c ∈ separators := List.contains_iff_mem.mp hb
      have hp : p.isOutside = true := ha
      obtain ⟨hnext, hended⟩ := next_separator hp hc
      have hplain : (ScanState.plain).next c = .plain := begins_separator hc
      rw [List.nil_append, marksFrom, marksFrom, marksFrom, hnext, hended, hplain]
      rfl
  | cons c rest ih =>
    rw [List.cons_append, marksFrom, marksFrom, ih ha, List.append_assoc]

private theorem marksFrom_ne_nil {sign : Char} {name cs : List Char} (h : name ≠ []) :
    marksFrom (.mark sign name) cs ≠ [] := by
  have hended {name : List Char} (h : name ≠ []) : (ScanState.mark sign name).ended ≠ [] := by
    simp [ended, h]
  induction cs generalizing name with
  | nil => exact hended h
  | cons c rest ih =>
    rw [marksFrom]
    cases hc : goesOn sign c with
    | true =>
      rw [(next_mark hc name).1]
      exact List.append_ne_nil_of_right_ne_nil _ (ih (by simp))
    | false =>
      have hby : (ScanState.mark sign name).endedBy c = (ScanState.mark sign name).ended := by
        simp [endedBy, hc]
      rw [hby]
      exact List.append_ne_nil_of_left_ne_nil (hended h) _

namespace Reads

variable {p : ScanState} {a b : List Char} {xs ys : List String}

private theorem step {c : Char} (hended : p.endedBy c = []) (h : Reads (p.next c) a xs) :
    Reads p (c :: a) xs := by
  refine ⟨?_, h.outside⟩
  rw [marksFrom, hended, h.marks]
  rfl

/-- Between or inside of words, nothing more is read. -/
theorem nil (hp : p.isSettled = true) : Reads p [] [] := by
  cases p with
  | plain | word => exact ⟨rfl, rfl⟩
  | _ => cases hp

/-- A text and a separate one after it. -/
theorem append (ha : Reads p a xs) (hs : isSeparate b = true) (hb : Reads .plain b ys) :
    Reads p (a ++ b) (xs ++ ys) := by
  refine ⟨by rw [marksFrom_append ha.outside hs, ha.marks, hb.marks], ?_⟩
  rw [List.foldl_append]
  cases b with
  | nil => exact ha.outside
  | cons c rest =>
    have hc : c ∈ separators := List.contains_iff_mem.mp hs
    have hplain : (ScanState.plain).next c = .plain := begins_separator hc
    have hout := hb.outside
    rw [List.foldl_cons, hplain] at hout
    rwa [List.foldl_cons, (next_separator ha.outside hc).1]

/-- A separate text, read from between or inside of words. -/
theorem ofSeparate (hp : p.isSettled = true) (hs : isSeparate b = true) (hb : Reads .plain b ys) :
    Reads p b ys := (Reads.nil hp).append hs hb

/-- Characters without a meaning before a text. -/
theorem quiet (hp : p.isSettled = true) (ha : isQuiet a = true)
    (hb : ∀ q : ScanState, q.isSettled = true → Reads q b ys) : Reads p (a ++ b) ys := by
  induction a generalizing p with
  | nil => exact hb p hp
  | cons c rest ih =>
    rw [isQuiet, List.all_cons, Bool.and_eq_true] at ha
    have hc : c ∉ signs := by simpa using ha.1
    obtain ⟨hnext, hended⟩ := isSettled_next hp hc
    exact .step hended (ih hnext ha.2)

/-- A character between words before a text. -/
theorem cons {c : Char} (hc : begins c = .plain) (h : Reads .plain b ys) :
    Reads .plain (c :: b) ys := by
  refine .step rfl ?_
  rwa [next, hc]

private theorem ofDollar (h : Reads (.mark '$' []) a []) : Reads .word a [] := by
  cases a with
  | nil => exact .nil rfl
  | cons c rest =>
    have hm := h.marks
    have hout := h.outside
    rw [marksFrom] at hm
    rw [List.foldl_cons] at hout
    cases hc : goesOn '$' c with
    | true =>
      rw [(next_mark hc []).1] at hm
      exact absurd (List.append_eq_nil_iff.mp hm).2 (marksFrom_ne_nil (by simp))
    | false =>
      have hname : isNamePart c = false := hc
      have hnext : (ScanState.mark '$' []).next c = (ScanState.word).next c := by
        simp [next, hc, hname]
      rw [hnext] at hm hout
      exact ⟨(List.append_eq_nil_iff.mp hm).2, hout⟩

/-- A text without marks has none after a word either. -/
theorem ofPlain (hp : p.isSettled = true) (h : Reads .plain a []) : Reads p a [] := by
  cases p with
  | plain => exact h
  | word =>
    cases a with
    | nil => exact .nil rfl
    | cons c rest =>
      have hrest : Reads (begins c) rest [] := ⟨h.marks, h.outside⟩
      refine .step rfl ?_
      rw [next]
      split
      · next hc =>
        -- A dollar sign goes on with the word; every other part of a name begins one, too.
        by_cases hdollar : c = '$'
        · subst hdollar
          exact hrest.ofDollar
        · have hall : signs.all (fun c ↦ isNamePart c → c = '$') = true := by decide
          have hsign : c ∉ signs := fun hm ↦
            hdollar (of_decide_eq_true (List.all_eq_true.mp hall c hm) hc)
          rwa [begins_of_not_mem hsign, if_pos hc] at hrest
      · exact hrest
  | _ => cases hp

private theorem ofDigits {name digits : List Char} (hd : ∀ c ∈ digits, isDigit c = true)
    (hne : name ++ digits ≠ []) :
    Reads (.mark '$' name) digits [String.ofList ('$' :: (name ++ digits))] := by
  induction digits generalizing name with
  | nil =>
    rw [List.append_nil] at hne ⊢
    exact ⟨by simp [marksFrom, ended, hne], rfl⟩
  | cons c rest ih =>
    have hc : goesOn '$' c = true := isNamePart_of_isDigit (hd c List.mem_cons_self)
    obtain ⟨hnext, hby⟩ := next_mark hc name
    have hrest : Reads (.mark '$' (name ++ [c])) rest _ :=
      ih (fun d hm ↦ hd d (List.mem_cons_of_mem c hm)) (by simp)
    rw [List.append_assoc, List.singleton_append] at hrest
    exact .step hby (hnext ▸ hrest)

/-- A placeholder is read as the mark that it is. -/
theorem ofPlaceholder (k : Nat) : Reads .plain (placeholder k).toList [placeholder k] := by
  have hfirst : (ScanState.plain).next '$' = .mark '$' [] := by decide
  have hdigits : Reads (.mark '$' []) (Nat.toDigits 10 k) [placeholder k] := by
    have hd : Reads (.mark '$' ([] : List Char)) (Nat.toDigits 10 k) _ :=
      ofDigits (fun c hc ↦ isDigit_toDigits hc) (Nat.toDigits_ne_nil (b := 10) (n := k))
    rwa [List.nil_append, ← toList_placeholder, String.ofList_toList] at hd
  rw [toList_placeholder]
  exact .step rfl (hfirst ▸ hdigits)

/-- Placeholders in a list separated by commas are read one by one. -/
theorem ofPlaceholders (first n : Nat) :
    Reads .plain (", ".intercalate (placeholders first n)).toList (placeholders first n) := by
  induction n generalizing first with
  | zero => exact .nil rfl
  | succ n ih =>
    cases n with
    | zero => simpa [placeholders] using ofPlaceholder first
    | succ n =>
      have hi := ih (first + 1)
      rw [placeholders, placeholders, String.intercalate_cons_cons, ← placeholders]
      simp only [String.toList_append, List.append_assoc]
      exact (ofPlaceholder first).append (by rfl) (.cons (by decide) (.cons (by decide) hi))

end Reads

end TabularReport.Sql

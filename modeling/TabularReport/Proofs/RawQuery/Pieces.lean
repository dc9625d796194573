import Mathlib.Data.List.Basic
import Mathlib.Data.List.Induction
import Mathlib.Data.List.TakeWhile
import TabularReport.Proofs.Filter.Placeholder
import TabularReport.RawQuery.Basic

/-!
# The pieces of a raw query

A query text falls into characters and names: a dollar sign before a starting character begins a
name, which goes on for as long as it can. The names are numbered as they come, each by its first
occurrence, so that the number of a name is its place in the list of all of them.
-/

namespace TabularReport.RawQuery

open Placeholder

/-- Whether a name can start with a text. -/
def startsName (cs : List Char) : Bool := cs.head?.any isNameStart

/-- Whether a name would go on with a text. -/
def continuesName (cs : List Char) : Bool := cs.head?.any isNamePart

/-- The names after the dollar signs of a text, in the order of the text. -/
def namesIn : List Char → List String
  | [] => []
  | c :: rest =>
    if c = '$' && startsName rest then String.ofList (rest.takeWhile isNamePart) :: namesIn rest
    else namesIn rest

/-- How a text falls into pieces: a name follows a dollar sign and is as long as it can be, and a
dollar sign that stands for itself is followed by no name. -/
inductive FallsInto : List Char → List Piece → Prop
  | nil : FallsInto [] []
  | char {c : Char} {rest : List Char} {ps : List Piece} :
      (c = '$' → startsName rest = false) → FallsInto rest ps →
      FallsInto (c :: rest) (.char c :: ps)
  | name {c : Char} {more rest : List Char} {ps : List Piece} :
      isNameStart c = true → (∀ d ∈ more, isNamePart d = true) → continuesName rest = false →
      FallsInto rest ps →
      FallsInto ('$' :: c :: more ++ rest) (.name (String.ofList (c :: more)) :: ps)

section Character

variable {c : Char}

/-- A name may go on with every character that it may start with. -/
theorem isNamePart_of_isNameStart (h : isNameStart c = true) : isNamePart c = true := by
  simp only [isNameStart, isNamePart, Char.isAlphanum, Bool.or_eq_true] at h ⊢
  exact h.imp_left .inl

/-- A name may go on with a digit. -/
theorem isNamePart_of_isDigit (h : Text.isDigit c = true) : isNamePart c = true := by
  simp [isNamePart, Char.isAlphanum, isDigit_iff.mp h]

/-- A name holds no dollar sign. -/
theorem dollar_not_mem_name {name : List Char} (h : ∀ d ∈ name, isNamePart d = true) :
    '$' ∉ name :=
  fun hm ↦ absurd (h _ hm) (by decide)

end Character

/-- A character begins nothing when it is no dollar sign, or when what follows does not go on. -/
theorem and_eq_false_of_dollar {c : Char} {goesOn : Bool} (h : c = '$' → goesOn = false) :
    (c = '$' && goesOn) = false := by
  by_cases hc : c = '$'
  · simp [h hc]
  · simp [hc]

private theorem takeWhile_eq_nil_of_continuesName {cs : List Char} (h : continuesName cs = false) :
    cs.takeWhile isNamePart = [] := by
  cases cs with
  | nil => rfl
  | cons c rest => exact List.takeWhile_cons_of_neg (by simpa [continuesName] using h)

private theorem continuesName_dropWhile (cs : List Char) :
    continuesName (cs.dropWhile isNamePart) = false := by
  cases h : cs.dropWhile isNamePart with
  | nil => rfl
  | cons c rest =>
    have hc := List.head_dropWhile_not (p := isNamePart) (l := cs) (by rw [h]; simp)
    simpa [continuesName, h] using hc

private theorem pieces_name {c : Char} (h : isNameStart c = true) (rest : List Char) :
    pieces ('$' :: c :: rest) = piecesFrom (some [c]) rest := by
  rw [pieces, piecesFrom, if_pos h]

private theorem pieces_char {c : Char} {rest : List Char} (h : c = '$' → startsName rest = false) :
    pieces (c :: rest) = .char c :: pieces rest := by
  unfold pieces
  by_cases hc : c = '$'
  · subst hc
    cases rest with
    | nil => simp [piecesFrom]
    | cons d more =>
      have hd : isNameStart d = false := by simpa [startsName] using h rfl
      simp [piecesFrom, hd]
  · exact piecesFrom.eq_4 c rest fun _ _ he _ ↦ hc he

private theorem piecesFrom_of_not_isNamePart (name : List Char) {c : Char}
    (h : isNamePart c = false) (rest : List Char) :
    piecesFrom (some name) (c :: rest) =
      .name (String.ofList name.reverse) :: pieces (c :: rest) := by
  by_cases hc : c = '$'
  · subst hc
    cases rest with
    | nil => simp [piecesFrom, pieces, h]
    | cons d more =>
      by_cases hd : isNameStart d = true
      · simp [piecesFrom, h, hd, pieces_name hd]
      · rw [pieces_char fun _ ↦ by simpa [startsName] using hd]
        simp [piecesFrom, h, hd, pieces]
  · rw [pieces_char fun he ↦ absurd he hc]
    cases rest <;> simp [piecesFrom, h, hc, pieces]

private theorem piecesFrom_some (name cs : List Char) :
    piecesFrom (some name) cs =
      .name (String.ofList (name.reverse ++ cs.takeWhile isNamePart)) ::
        pieces (cs.dropWhile isNamePart) := by
  induction cs generalizing name with
  | nil => simp [piecesFrom, pieces]
  | cons c rest ih =>
    by_cases hp : isNamePart c = true
    · have hstep : piecesFrom (some name) (c :: rest) = piecesFrom (some (c :: name)) rest := by
        cases rest <;> simp [piecesFrom, hp]
      rw [hstep, ih, List.takeWhile_cons_of_pos hp, List.dropWhile_cons_of_pos hp,
        List.reverse_cons, List.append_assoc, List.singleton_append]
    · rw [List.takeWhile_cons_of_neg hp, List.dropWhile_cons_of_neg hp, List.append_nil]
      exact piecesFrom_of_not_isNamePart name (Bool.eq_false_iff.mpr hp) rest

/-- A text falls into its pieces. -/
theorem fallsInto_pieces : (cs : List Char) → FallsInto cs (pieces cs)
  | [] => by
    rw [pieces, piecesFrom]
    exact .nil
  | c :: rest => by
    by_cases hstart : c = '$' ∧ startsName rest = true
    · obtain ⟨rfl, hrest⟩ := hstart
      cases rest with
      | nil => cases hrest
      | cons d more =>
        have hd : isNameStart d = true := by simpa [startsName] using hrest
        have hcut : '$' :: d :: more =
            '$' :: d :: more.takeWhile isNamePart ++ more.dropWhile isNamePart := by
          simp [List.takeWhile_append_dropWhile]
        rw [pieces_name hd, piecesFrom_some, hcut]
        exact .name hd (fun _ ↦ List.mem_takeWhile_imp) (continuesName_dropWhile more)
          (fallsInto_pieces (more.dropWhile isNamePart))
    · have hchar : c = '$' → startsName rest = false := fun hc ↦
        Bool.eq_false_iff.mpr fun hs ↦ hstart ⟨hc, hs⟩
      rw [pieces_char hchar]
      exact .char hchar (fallsInto_pieces rest)
termination_by cs => cs.length
decreasing_by
  · have := (List.dropWhile_sublist isNamePart (l := more)).length_le
    simp only [List.length_cons]
    omega
  · simp

private theorem namesIn_append {a : List Char} (b : List Char) (h : '$' ∉ a) :
    namesIn (a ++ b) = namesIn b := by
  induction a with
  | nil => rfl
  | cons c rest ih =>
    rw [List.mem_cons, not_or] at h
    rw [List.cons_append, namesIn, if_neg (by simp [Ne.symm h.1]), ih h.2]

/-- The names among pieces. -/
def namesOf : List Piece → List String
  | [] => []
  | .char _ :: rest => namesOf rest
  | .name n :: rest => n :: namesOf rest

namespace FallsInto

variable {cs : List Char} {ps : List Piece}

/-- The names among the pieces of a text are those after its dollar signs. -/
theorem namesOf_eq (h : FallsInto cs ps) : namesOf ps = namesIn cs := by
  induction h with
  | nil => rfl
  | @char c rest ps hc _ ih =>
    rw [namesIn, and_eq_false_of_dollar hc]
    exact ih
  | @name c more rest ps hc hmore hrest _ ih =>
    have hall : ∀ d ∈ c :: more, isNamePart d = true :=
      List.forall_mem_cons.mpr ⟨isNamePart_of_isNameStart hc, hmore⟩
    have hstart : startsName (c :: more ++ rest) = true := by simpa [startsName] using hc
    rw [List.cons_append, namesIn, hstart, if_pos (by decide),
      List.takeWhile_append_of_pos hall, takeWhile_eq_nil_of_continuesName hrest, List.append_nil,
      namesIn_append _ (dollar_not_mem_name hall), ← ih]
    rfl

end FallsInto

/-- The names known after one more, in the order in which they became known. -/
def learn (known : List String) (name : String) : List String :=
  if known.contains name then known else known ++ [name]

/-- A piece with the place of its name, counted from one, in the place of the name. -/
def Piece.written (names : List String) : Piece → List Char
  | .char c => [c]
  | .name n => (placeholder (names.idxOf n + 1)).toList

private theorem prefix_foldl_learn (known names : List String) :
    known <+: names.foldl learn known := by
  induction names generalizing known with
  | nil => exact List.prefix_rfl
  | cons n rest ih =>
    have hfirst : known <+: learn known n := by
      unfold learn
      split
      · exact List.prefix_rfl
      · exact List.prefix_append known [n]
    exact hfirst.trans (ih (learn known n))

private theorem mem_learn (known : List String) (name : String) : name ∈ learn known name := by
  unfold learn
  split
  · next h => simpa using h
  · simp

/-- Numbering pieces writes each name by its place among all names that are known in the end. -/
theorem number_eq (known : List String) (ps : List Piece) :
    number known ps =
      (ps.flatMap (·.written ((namesOf ps).foldl learn known)),
        (namesOf ps).foldl learn known) := by
  induction ps generalizing known with
  | nil => rfl
  | cons p rest ih =>
    cases p with
    | char c => rw [number, ih, List.flatMap_cons]; rfl
    | name n =>
      have hplace : (learn known n).idxOf n =
          ((namesOf rest).foldl learn (learn known n)).idxOf n :=
        (prefix_foldl_learn _ _).idxOf_eq_of_mem (mem_learn known n)
      rw [number, ih, List.flatMap_cons, namesOf, List.foldl_cons, Piece.written, ← hplace]
      rfl

/-- How names stand in the order of their first occurrences, each once. -/
structure AreFirsts (names occurrences : List String) : Prop where
  distinct : names.Nodup
  occurs : ∀ name, name ∈ names ↔ name ∈ occurrences
  order : names.Pairwise fun a b ↦ occurrences.idxOf a < occurrences.idxOf b

/-- Names that become known one after another stand in the order of their first occurrences. -/
theorem areFirsts_learned (occurrences : List String) :
    AreFirsts (occurrences.foldl learn []) occurrences := by
  induction occurrences using List.reverseRecOn with
  | nil => exact ⟨List.nodup_nil, fun _ ↦ Iff.rfl, List.Pairwise.nil⟩
  | append_singleton before n ih =>
    have hkept {a : String} (ha : a ∈ before.foldl learn []) :
        (before ++ [n]).idxOf a = before.idxOf a :=
      List.idxOf_append_of_mem ((ih.occurs a).mp ha)
    have horder : (before.foldl learn []).Pairwise fun a b ↦
        (before ++ [n]).idxOf a < (before ++ [n]).idxOf b :=
      ih.order.imp_of_mem fun ha hb h ↦ by rwa [hkept ha, hkept hb]
    rw [List.foldl_append, List.foldl_cons, List.foldl_nil, learn]
    split
    · next hknown =>
      have hn : n ∈ before := (ih.occurs n).mp (by simpa using hknown)
      refine ⟨ih.distinct, fun name ↦ ?_, horder⟩
      rw [ih.occurs, List.mem_append, List.mem_singleton]
      exact ⟨.inl, fun h ↦ h.elim id fun he ↦ he ▸ hn⟩
    · next hnew =>
      have hn : n ∉ before.foldl learn [] := by simpa using hnew
      have hlast : (before ++ [n]).idxOf n = before.length := by
        rw [List.idxOf_append_of_notMem (mt (ih.occurs n).mpr hn)]
        simp
      refine ⟨?_, fun name ↦ ?_, ?_⟩
      · exact List.nodup_append.mpr ⟨ih.distinct, by simp, by
          rintro a ha _ hb rfl
          exact hn (List.mem_singleton.mp hb ▸ ha)⟩
      · simp only [List.mem_append, ih.occurs]
      · refine List.pairwise_append.mpr ⟨horder, List.pairwise_singleton _ _, fun a ha b hb ↦ ?_⟩
        rw [List.mem_singleton.mp hb, hlast, hkept ha]
        exact List.idxOf_lt_length_of_mem ((ih.occurs a).mp ha)

end TabularReport.RawQuery

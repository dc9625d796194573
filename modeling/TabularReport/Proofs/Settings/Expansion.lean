import Mathlib.Data.List.TakeWhile
import TabularReport.Proofs.Statement.Acceptance
import TabularReport.Settings.Text

/-!
# Variables in settings

A text with variables has one reading, from left to right, as characters and references to
variables. The values of the references are put in where they stand and are not read again, so that
two texts can be expanded apart from each other unless a reference goes on from one to the other.
-/

namespace TabularReport

/-- How a text is read as characters and references. A name in braces goes up to the first closing
one, or to the end of the text; a name without braces is as long as it can be; a dollar sign that
begins neither stands for itself. -/
inductive ReadsAs : List Char → List TextPiece → Prop
  | nil : ReadsAs [] []
  | char {c : Char} {rest : List Char} {ps : List TextPiece} :
      c ≠ '$' → ReadsAs rest ps → ReadsAs (c :: rest) (.char c :: ps)
  | braced {name rest : List Char} {ps : List TextPiece} :
      '\x7d' ∉ name → ReadsAs rest ps →
      ReadsAs ('$' :: '\x7b' :: (name ++ '\x7d' :: rest)) (.variable (String.ofList name) :: ps)
  | unclosed {name : List Char} :
      '\x7d' ∉ name → ReadsAs ('$' :: '\x7b' :: name) [.variable (String.ofList name)]
  | named {name rest : List Char} {ps : List TextPiece} :
      name ≠ [] → (∀ c ∈ name, isVariableChar c = true) →
      (∀ c ∈ rest.head?, isVariableChar c = false) → ReadsAs rest ps →
      ReadsAs ('$' :: (name ++ rest)) (.variable (String.ofList name) :: ps)
  | dollar {rest : List Char} {ps : List TextPiece} :
      (∀ c ∈ rest.head?, c ≠ '\x7b' ∧ isVariableChar c = false) → ReadsAs rest ps →
      ReadsAs ('$' :: rest) (.char '$' :: ps)

section Steps

variable {c : Char} {name rest : List Char}

private theorem textPieces_char (h : c ≠ '$') :
    textPieces (c :: rest) = .char c :: textPieces rest := by
  rw [textPieces, if_pos h]

private theorem textPieces_brace (rest : List Char) :
    textPieces ('$' :: '\x7b' :: rest) =
      .variable (String.ofList (rest.takeWhile (· ≠ '\x7d'))) ::
        textPieces (rest.dropWhile (· ≠ '\x7d')).tail := by
  rw [textPieces, if_neg (by simp), if_pos List.head?_cons]
  rfl

private theorem takeWhile_ne_brace (h : '\x7d' ∉ name) (rest : List Char) :
    (name ++ rest).takeWhile (· ≠ '\x7d') = name ++ rest.takeWhile (· ≠ '\x7d') ∧
      (name ++ rest).dropWhile (· ≠ '\x7d') = rest.dropWhile (· ≠ '\x7d') := by
  have hn : ∀ d ∈ name, decide (d ≠ '\x7d') = true := fun d hd ↦
    decide_eq_true fun he ↦ h (he ▸ hd)
  exact ⟨List.takeWhile_append_of_pos hn, List.dropWhile_append_of_pos hn⟩

private theorem textPieces_braced (h : '\x7d' ∉ name) (rest : List Char) :
    textPieces ('$' :: '\x7b' :: (name ++ '\x7d' :: rest)) =
      .variable (String.ofList name) :: textPieces rest := by
  obtain ⟨ht, hd⟩ := takeWhile_ne_brace h ('\x7d' :: rest)
  rw [textPieces_brace, ht, hd]
  simp

private theorem textPieces_unclosed (h : '\x7d' ∉ name) :
    textPieces ('$' :: '\x7b' :: name) = [.variable (String.ofList name)] := by
  obtain ⟨ht, hd⟩ := takeWhile_ne_brace h []
  rw [List.append_nil] at ht hd
  rw [textPieces_brace, ht, hd]
  simp [textPieces]

private theorem not_isVariableChar_brace : isVariableChar '\x7b' = false := by decide

private theorem takeWhile_eq_nil_of_head? (h : ∀ c ∈ rest.head?, isVariableChar c = false) :
    rest.takeWhile isVariableChar = [] ∧ rest.dropWhile isVariableChar = rest := by
  cases rest with
  | nil => exact ⟨rfl, rfl⟩
  | cons c more => simp [h c rfl]

private theorem textPieces_name (h : rest.takeWhile isVariableChar ≠ []) :
    textPieces ('$' :: rest) =
      .variable (String.ofList (rest.takeWhile isVariableChar)) ::
        textPieces (rest.dropWhile isVariableChar) := by
  have hb : rest.head? ≠ some '\x7b' := by
    intro hh
    refine h (takeWhile_eq_nil_of_head? fun c hc ↦ ?_).1
    rw [hh] at hc
    cases hc
    exact not_isVariableChar_brace
  rw [textPieces, if_neg (by simp), if_neg hb, if_neg (by simpa using h)]

private theorem textPieces_named (hne : name ≠ []) (hn : ∀ c ∈ name, isVariableChar c = true)
    (hr : ∀ c ∈ rest.head?, isVariableChar c = false) :
    textPieces ('$' :: (name ++ rest)) = .variable (String.ofList name) :: textPieces rest := by
  obtain ⟨ht, hd⟩ := takeWhile_eq_nil_of_head? hr
  have htake : (name ++ rest).takeWhile isVariableChar = name := by
    rw [List.takeWhile_append_of_pos hn, ht, List.append_nil]
  have hsome : (name ++ rest).takeWhile isVariableChar ≠ [] := by rwa [htake]
  rw [textPieces_name hsome, htake, List.dropWhile_append_of_pos hn, hd]

private theorem textPieces_dollar (h : ∀ c ∈ rest.head?, c ≠ '\x7b' ∧ isVariableChar c = false) :
    textPieces ('$' :: rest) = .char '$' :: textPieces rest := by
  have hb : rest.head? ≠ some '\x7b' := fun hh ↦ (h _ hh).1 rfl
  obtain ⟨ht, -⟩ := takeWhile_eq_nil_of_head? fun c hc ↦ (h c hc).2
  rw [textPieces, if_neg (by simp), if_neg hb, if_pos (by simp [ht])]

end Steps

/-! ### The reading of a text -/

private theorem ReadsAs.textPieces_eq {cs : List Char} {ps : List TextPiece} (h : ReadsAs cs ps) :
    textPieces cs = ps := by
  induction h with
  | nil => rw [textPieces]
  | char hc _ ih => rw [textPieces_char hc, ih]
  | braced hn _ ih => rw [textPieces_braced hn, ih]
  | unclosed hn => exact textPieces_unclosed hn
  | named hne hn hr _ ih => rw [textPieces_named hne hn hr, ih]
  | dollar hr _ ih => rw [textPieces_dollar hr, ih]

private theorem exists_readsAs : (cs : List Char) → ∃ ps, ReadsAs cs ps
  | [] => ⟨[], .nil⟩
  | c :: rest => by
    by_cases hc : c = '$'
    · subst hc
      by_cases hb : rest.head? = some '\x7b'
      · obtain ⟨body, rfl⟩ := List.head?_eq_some_iff.mp hb
        by_cases hclosed : '\x7d' ∈ body
        · obtain ⟨name, more, rfl, hn⟩ := List.eq_append_cons_of_mem hclosed
          obtain ⟨ps, hps⟩ := exists_readsAs more
          exact ⟨_, .braced hn hps⟩
        · exact ⟨_, .unclosed hclosed⟩
      · have hsplit : rest.takeWhile isVariableChar ++ rest.dropWhile isVariableChar = rest :=
          List.takeWhile_append_dropWhile
        have hlen : (rest.dropWhile isVariableChar).length ≤ rest.length :=
          (List.dropWhile_sublist isVariableChar).length_le
        have hend : ∀ c ∈ (rest.dropWhile isVariableChar).head?, isVariableChar c = false := by
          intro c hc
          have hnot := List.head?_dropWhile_not isVariableChar rest
          rwa [Option.mem_def.mp hc] at hnot
        obtain ⟨ps, hps⟩ := exists_readsAs (rest.dropWhile isVariableChar)
        by_cases hne : rest.takeWhile isVariableChar = []
        · rw [hne, List.nil_append] at hsplit
          rw [hsplit] at hend hps
          exact ⟨_, .dollar (fun c hm ↦ ⟨fun he ↦ hb (he ▸ hm), hend c hm⟩) hps⟩
        · have hnamed := ReadsAs.named hne (fun c hm ↦ List.mem_takeWhile_imp hm) hend hps
          rw [hsplit] at hnamed
          exact ⟨_, hnamed⟩
    · obtain ⟨ps, hps⟩ := exists_readsAs rest
      exact ⟨_, .char hc hps⟩
termination_by cs => cs.length

private theorem readsAs_textPieces (cs : List Char) : ReadsAs cs (textPieces cs) := by
  obtain ⟨ps, h⟩ := exists_readsAs cs
  rwa [h.textPieces_eq]

/-! ### Two texts one after the other -/

/-- Whether the characters after a dollar sign are the beginning of a reference that goes on with a
further character: a brace is still open, or the character belongs to the name that may begin. -/
def GoesOnWith (begun : List Char) (c : Char) : Prop :=
  (∃ name, begun = '\x7b' :: name ∧ '\x7d' ∉ name) ∨
    (∀ d ∈ begun, isVariableChar d = true) ∧
      (isVariableChar c = true ∨ begun = [] ∧ c = '\x7b')

/-- Whether a text ends inside of a reference that goes on with a further character. -/
def IsOpenFor (a : List Char) (c : Char) : Prop :=
  ∃ before begun, a = before ++ '$' :: begun ∧ GoesOnWith begun c

section Open

variable {c : Char} {name rest : List Char}

private theorem not_goesOnWith_of_closed {begun : List Char} (h : '\x7d' ∈ begun) (c : Char) :
    ¬ GoesOnWith begun c := by
  have hbrace : isVariableChar '\x7d' = false := by decide
  rintro (⟨name, rfl, hn⟩ | ⟨hall, -⟩)
  · exact hn ((List.mem_cons.mp h).resolve_left (by decide))
  · rw [hall _ h] at hbrace
    cases hbrace

private theorem not_goesOnWith_of_ended (hn : ∀ d ∈ name, isVariableChar d = true) {e : Char}
    (he : isVariableChar e = false) (hb : name = [] → e ≠ '\x7b') (rest : List Char) (c : Char) :
    ¬ GoesOnWith (name ++ e :: rest) c := by
  rintro (⟨body, hbody, -⟩ | ⟨hall, -⟩)
  · cases name with
    | nil => exact hb rfl (List.cons.inj hbody).1
    | cons d name =>
      have hd := hn d List.mem_cons_self
      rw [(List.cons.inj hbody).1, not_isVariableChar_brace] at hd
      cases hd
  · rw [hall e (by simp)] at he
    cases he

private theorem isOpenFor_append_iff {a b : List Char}
    (h : ∀ before begun, a = before ++ '$' :: begun → ¬ GoesOnWith (begun ++ b) c) :
    IsOpenFor (a ++ b) c ↔ IsOpenFor b c := by
  constructor
  · rintro ⟨before, begun, he, hg⟩
    rcases List.append_eq_append_iff.mp he with ⟨mid, rfl, hb⟩ | ⟨mid, ha, hb⟩
    · exact ⟨mid, begun, hb, hg⟩
    · cases mid with
      | nil => exact ⟨[], begun, hb.symm, hg⟩
      | cons d mid =>
        obtain ⟨rfl, rfl⟩ := List.cons.inj hb
        exact absurd hg (h before mid ha)
  · rintro ⟨before, begun, rfl, hg⟩
    exact ⟨a ++ before, begun, by rw [List.append_assoc], hg⟩

private theorem isOpenFor_char {d : Char} (hd : d ≠ '$') :
    IsOpenFor (d :: rest) c ↔ IsOpenFor rest c :=
  isOpenFor_append_iff (a := [d]) fun before begun he ↦ by
    cases before with
    | nil => exact absurd (List.cons.inj he).1 hd
    | cons => simp at he

private theorem isOpenFor_braced :
    IsOpenFor ('$' :: '\x7b' :: (name ++ '\x7d' :: rest)) c ↔ IsOpenFor rest c := by
  have hs : '$' :: '\x7b' :: (name ++ '\x7d' :: rest) =
      '$' :: '\x7b' :: name ++ ['\x7d'] ++ rest := by simp
  rw [hs]
  refine isOpenFor_append_iff fun before begun he ↦
    not_goesOnWith_of_closed (List.mem_append_left rest ?_) c
  -- The closing brace is the last character of both sides.
  rcases List.eq_nil_or_concat begun with rfl | ⟨front, last, rfl⟩
  · exact absurd (List.append_inj_right' he rfl) (by decide)
  · rw [List.concat_eq_append, ← List.cons_append, ← List.append_assoc] at he
    have hlast : ['\x7d'] = [last] := List.append_inj_right' he rfl
    rw [← List.singleton_inj.mp hlast]
    simp

private theorem isOpenFor_name (hn : ∀ d ∈ name, isVariableChar d = true) {e : Char}
    (he : isVariableChar e = false) (hb : name = [] → e ≠ '\x7b') :
    IsOpenFor ('$' :: (name ++ e :: rest)) c ↔ IsOpenFor (e :: rest) c := by
  refine isOpenFor_append_iff (a := '$' :: name) fun before begun hs ↦ ?_
  cases before with
  | nil =>
    obtain ⟨-, rfl⟩ := List.cons.inj hs
    exact not_goesOnWith_of_ended hn he hb rest c
  | cons d before =>
    have hd := hn '$' (by rw [(List.cons.inj hs).2]; simp)
    exact absurd hd (by decide)

private theorem isOpenFor_last (hn : ∀ d ∈ name, isVariableChar d = true) :
    IsOpenFor ('$' :: name) c ↔ isVariableChar c = true ∨ name = [] ∧ c = '\x7b' := by
  constructor
  · rintro ⟨before, begun, hs, hg⟩
    cases before with
    | nil =>
      obtain ⟨-, rfl⟩ := List.cons.inj hs
      rcases hg with ⟨body, rfl, -⟩ | ⟨-, hc⟩
      · exact absurd (hn _ List.mem_cons_self) (by decide)
      · exact hc
    | cons d before =>
      have hd := hn '$' (by rw [(List.cons.inj hs).2]; simp)
      exact absurd hd (by decide)
  · exact fun h ↦ ⟨[], name, rfl, .inr ⟨hn, h⟩⟩

end Open

section Boundary

variable {name : List Char}

private theorem textPieces_named_iff (hne : name ≠ []) (hn : ∀ c ∈ name, isVariableChar c = true)
    (b : List Char) :
    textPieces ('$' :: (name ++ b)) = .variable (String.ofList name) :: textPieces b ↔
      ∀ c ∈ b.head?, isVariableChar c = false := by
  refine ⟨fun h c hc ↦ Bool.eq_false_iff.mpr fun hv ↦ ?_, textPieces_named hne hn⟩
  obtain ⟨more, rfl⟩ := List.head?_eq_some_iff.mp hc
  have htake : (name ++ c :: more).takeWhile isVariableChar =
      name ++ c :: more.takeWhile isVariableChar := by
    rw [List.takeWhile_append_of_pos hn, List.takeWhile_cons_of_pos hv]
  rw [textPieces_name (by simp [htake]), htake] at h
  have hname := TextPiece.variable.inj (List.cons.inj h).1
  rw [String.ofList_inj] at hname
  simp at hname

private theorem textPieces_dollar_iff (b : List Char) :
    textPieces ('$' :: b) = .char '$' :: textPieces b ↔
      ∀ c ∈ b.head?, c ≠ '\x7b' ∧ isVariableChar c = false := by
  refine ⟨fun h c hc ↦ ⟨?_, Bool.eq_false_iff.mpr fun hv ↦ ?_⟩, textPieces_dollar⟩
  · rintro rfl
    obtain ⟨more, rfl⟩ := List.head?_eq_some_iff.mp hc
    rw [textPieces_brace] at h
    cases (List.cons.inj h).1
  · obtain ⟨more, rfl⟩ := List.head?_eq_some_iff.mp hc
    rw [textPieces_name (by simp [hv])] at h
    cases (List.cons.inj h).1

-- A name whose brace is open goes on with everything: its brace would have to end it and to count
-- as a character as well.
private theorem textPieces_unclosed_ne (hn : '\x7d' ∉ name) (c : Char) (more : List Char) :
    textPieces ('$' :: '\x7b' :: (name ++ c :: more)) ≠
      .variable (String.ofList name) :: textPieces (c :: more) := by
  obtain ⟨ht, hd⟩ := takeWhile_ne_brace hn (c :: more)
  rw [textPieces_brace, ht, hd]
  intro he
  obtain ⟨hname, hrest⟩ := List.cons.inj he
  rw [TextPiece.variable.injEq, String.ofList_inj] at hname
  by_cases hbrace : c = '\x7d'
  · subst hbrace
    rw [textPieces_char (by decide)] at hrest
    simp at hrest
  · simp [hbrace] at hname

end Boundary

private theorem ReadsAs.textPieces_append_iff {a : List Char} {ps : List TextPiece}
    (h : ReadsAs a ps) (b : List Char) :
    textPieces (a ++ b) = ps ++ textPieces b ↔ ∀ c ∈ b.head?, ¬ IsOpenFor a c := by
  induction h with
  | nil => simp [IsOpenFor]
  | char hc _ ih =>
    simp only [List.cons_append, textPieces_char hc, List.cons.injEq, true_and, ih,
      isOpenFor_char hc]
  | @braced name rest ps hn _ ih =>
    have hb : '$' :: '\x7b' :: (name ++ '\x7d' :: rest) ++ b =
        '$' :: '\x7b' :: (name ++ '\x7d' :: (rest ++ b)) := by simp
    simp only [hb, textPieces_braced hn, List.cons_append, List.cons.injEq, true_and, ih,
      isOpenFor_braced]
  | @unclosed name hn =>
    cases b with
    | nil => simp [textPieces_unclosed hn, textPieces]
    | cons c more =>
      exact iff_of_false (textPieces_unclosed_ne hn c more) fun h ↦
        h c rfl ⟨[], '\x7b' :: name, rfl, .inl ⟨name, rfl, hn⟩⟩
  | @named name rest ps hne hn hr hrest ih =>
    cases rest with
    | nil =>
      cases hrest
      simpa [isOpenFor_last hn, hne] using textPieces_named_iff hne hn b
    | cons e rest =>
      have hb : '$' :: (name ++ e :: rest) ++ b = '$' :: (name ++ (e :: rest ++ b)) := by simp
      have hend : isVariableChar e = false := hr e rfl
      rw [hb, textPieces_named hne hn (by simpa using hend)]
      simp only [List.cons_append (a := TextPiece.variable _), List.cons.injEq, true_and, ih,
        isOpenFor_name hn hend fun he ↦ absurd he hne]
  | @dollar rest ps hr hrest ih =>
    have hempty : ∀ d ∈ ([] : List Char), isVariableChar d = true := by simp
    cases rest with
    | nil =>
      cases hrest
      have hlast (c : Char) : IsOpenFor ['$'] c ↔ isVariableChar c = true ∨ c = '\x7b' := by
        simpa using isOpenFor_last (c := c) hempty
      simpa [hlast, and_comm] using textPieces_dollar_iff b
    | cons e rest =>
      obtain ⟨hbrace, hend⟩ := hr e rfl
      have hopen (c : Char) : IsOpenFor ('$' :: e :: rest) c ↔ IsOpenFor (e :: rest) c :=
        isOpenFor_name hempty hend fun _ ↦ hbrace
      rw [List.cons_append, textPieces_dollar (by simpa using ⟨hbrace, hend⟩)]
      simp only [List.cons_append (a := TextPiece.char _), List.cons.injEq, true_and, ih, hopen]

/-! ### The values of the references -/

/-- The name that a piece refers to. -/
def TextPiece.name? : TextPiece → Option String
  | .char _ => none
  | .variable name => some name

/-- The characters of a piece; a variable that has no value has none. -/
def TextPiece.valueIn (env : String → Option String) : TextPiece → List Char
  | .char c => [c]
  | .variable name => ((env name).getD "").toList

/-- The names that pieces refer to, from left to right. -/
def referencedNames (ps : List TextPiece) : List String := ps.filterMap TextPiece.name?

section Values

variable {env : String → Option String} {s : String}

private theorem TextPiece.failureOf_expand_variable (name : String) :
    failureOf ((TextPiece.variable name).expand env) =
      if (env name).isNone then some (.missingVariable name) else none := by
  cases h : env name <;> simp [expand, failureOf, h]

private theorem TextPiece.expand_of_isSome {p : TextPiece}
    (h : ∀ name ∈ p.name?, (env name).isSome) :
    p.expand env = .ok (p.valueIn env) := by
  obtain c | name := p
  · rfl
  · obtain ⟨v, hv⟩ := Option.isSome_iff_exists.mp (h name rfl)
    simp [expand, valueIn, hv]

private theorem mapM_expand_of_isSome {ps : List TextPiece}
    (h : ∀ name ∈ referencedNames ps, (env name).isSome) :
    ps.mapM (TextPiece.expand env) = .ok (ps.map (TextPiece.valueIn env)) := by
  induction ps with
  | nil => rfl
  | cons p ps ih =>
    have hp : ∀ name ∈ p.name?, (env name).isSome := fun name hm ↦
      h name (List.mem_filterMap.mpr ⟨p, List.mem_cons_self, hm⟩)
    have hps : ∀ name ∈ referencedNames ps, (env name).isSome := fun name hm ↦ by
      obtain ⟨q, hq, hn⟩ := List.mem_filterMap.mp hm
      exact h name (List.mem_filterMap.mpr ⟨q, List.mem_cons_of_mem p hq, hn⟩)
    rw [List.mapM_cons, TextPiece.expand_of_isSome hp, ih hps]
    rfl

private theorem findSome?_failureOf_expand (ps : List TextPiece) :
    (ps.findSome? fun p ↦ failureOf (p.expand env)) =
      ((referencedNames ps).find? fun name ↦ (env name).isNone).map .missingVariable := by
  induction ps with
  | nil => rfl
  | cons p ps ih =>
    obtain c | name := p
    · exact ih
    · have hnames : referencedNames (.variable name :: ps) = name :: referencedNames ps := rfl
      rw [List.findSome?_cons, TextPiece.failureOf_expand_variable, hnames, List.find?_cons]
      cases (env name).isNone
      · exact ih
      · rfl

private theorem expandVariables_of_isSome
    (h : ∀ name ∈ referencedNames (textPieces s.toList), (env name).isSome) :
    expandVariables env s =
      .ok (String.ofList ((textPieces s.toList).flatMap (TextPiece.valueIn env))) := by
  rw [expandVariables, mapM_expand_of_isSome h, List.flatMap_def]
  rfl

private theorem failureOf_expandVariables (env : String → Option String) (s : String) :
    failureOf (expandVariables env s) =
      ((referencedNames (textPieces s.toList)).find? fun name ↦ (env name).isNone).map
        .missingVariable := by
  rw [← findSome?_failureOf_expand, ← failureOf_mapM]
  exact failureOf_bind_pure (x := (textPieces s.toList).mapM (TextPiece.expand env))

private theorem expandVariables_eq (env : String → Option String) (s : String) :
    expandVariables env s =
      match (referencedNames (textPieces s.toList)).find? fun name ↦ (env name).isNone with
      | some name => .error (.missingVariable name)
      | none => .ok (String.ofList ((textPieces s.toList).flatMap (TextPiece.valueIn env))) := by
  have hf := failureOf_expandVariables env s
  split
  · next name hname => exact failureOf_eq_some_iff.mp (hf.trans (by rw [hname]; rfl))
  · next hnone =>
    exact expandVariables_of_isSome fun name hm ↦ by
      simpa [Option.isSome_iff_ne_none] using List.find?_eq_none.mp hnone name hm

end Values

/-! ### Expansion -/

private theorem expandVariables_append {env : String → Option String} {a b : String}
    (h : textPieces (a ++ b).toList = textPieces a.toList ++ textPieces b.toList) :
    expandVariables env (a ++ b) = do
      let x ← expandVariables env a
      let y ← expandVariables env b
      return x ++ y := by
  have hnames : referencedNames (textPieces (a ++ b).toList) =
      referencedNames (textPieces a.toList) ++ referencedNames (textPieces b.toList) := by
    rw [h, referencedNames, List.filterMap_append]
    rfl
  simp only [expandVariables_eq, hnames, List.find?_append]
  cases (referencedNames (textPieces a.toList)).find? fun name ↦ (env name).isNone with
  | some name => rfl
  | none =>
    cases (referencedNames (textPieces b.toList)).find? fun name ↦ (env name).isNone with
    | some name => rfl
    | none =>
      rw [h, List.flatMap_append, String.ofList_append]
      rfl

/-- What the expansion of a text is, given how the text reads. -/
structure Expansion (env : String → Option String) (s : String) (ps : List TextPiece) : Prop where
  /-- The text has one reading. -/
  reads : ∀ qs, ReadsAs s.toList qs ↔ qs = ps
  /-- The expansion fails when a name has no value, and reports the leftmost of these. -/
  fails : ∀ e, expandVariables env s = .error e ↔
    ∃ before name after, referencedNames ps = before ++ name :: after ∧
      (∀ other ∈ before, (env other).isSome) ∧ env name = none ∧ e = .missingVariable name
  /-- Otherwise the values stand, as they are, in the places of their references. -/
  expands : (∀ name ∈ referencedNames ps, (env name).isSome) →
    expandVariables env s = .ok (String.ofList (ps.flatMap (TextPiece.valueIn env)))
  /-- A text without a dollar sign stays as it is. -/
  plain : '$' ∉ s.toList → expandVariables env s = .ok s
  /-- The pieces of the text are those of its beginning in a longer text exactly when no reference
  goes on over the boundary. -/
  boundary : ∀ more, textPieces (s ++ more).toList = ps ++ textPieces more.toList ↔
    ∀ c ∈ more.toList.head?, ¬ IsOpenFor s.toList c
  /-- The text is then expanded apart from what follows it, and fails apart from it. -/
  append : ∀ more : String, (∀ c ∈ more.toList.head?, ¬ IsOpenFor s.toList c) →
    expandVariables env (s ++ more) = do
      let x ← expandVariables env s
      let y ← expandVariables env more
      return x ++ y

private theorem textPieces_of_notMem {cs : List Char} (h : '$' ∉ cs) :
    textPieces cs = cs.map TextPiece.char := by
  induction cs with
  | nil => rw [textPieces, List.map_nil]
  | cons c rest ih =>
    obtain ⟨hc, hrest⟩ := List.ne_and_not_mem_of_not_mem_cons h
    rw [textPieces_char hc.symm, ih hrest, List.map_cons]

private theorem expandVariables_of_notMem (env : String → Option String) {s : String}
    (h : '$' ∉ s.toList) : expandVariables env s = .ok s := by
  have hpieces := textPieces_of_notMem h
  have hnames : referencedNames (textPieces s.toList) = [] := by
    rw [hpieces, referencedNames, List.filterMap_map]
    exact List.filterMap_eq_nil_iff.mpr fun c _ ↦ rfl
  have hvalue : (textPieces s.toList).flatMap (TextPiece.valueIn env) = s.toList := by
    rw [hpieces, List.flatMap_map]
    exact List.flatMap_singleton' s.toList
  rw [expandVariables_of_isSome (by simp [hnames]), hvalue, String.ofList_toList]

private theorem expandVariables_eq_error_iff {env : String → Option String} {s : String}
    {e : SettingsError} :
    expandVariables env s = .error e ↔
      ∃ before name after, referencedNames (textPieces s.toList) = before ++ name :: after ∧
        (∀ other ∈ before, (env other).isSome) ∧ env name = none ∧ e = .missingVariable name := by
  rw [← failureOf_eq_some_iff, failureOf_expandVariables, Option.map_eq_some_iff]
  simp only [List.find?_eq_some_iff_append]
  constructor
  · rintro ⟨name, ⟨hnone, before, after, hsplit, hset⟩, rfl⟩
    exact ⟨before, name, after, hsplit, by simpa using hset, by simpa using hnone, rfl⟩
  · rintro ⟨before, name, after, hsplit, hset, hnone, rfl⟩
    exact ⟨name, ⟨by simp [hnone], before, after, hsplit, by simpa using hset⟩, rfl⟩

/-- Every text has a reading that its expansion goes by, in every environment. -/
theorem exists_expansion (env : String → Option String) (s : String) :
    ∃ ps, Expansion env s ps := by
  have hread := readsAs_textPieces s.toList
  have hboundary (more : String) :
      textPieces (s ++ more).toList = textPieces s.toList ++ textPieces more.toList ↔
        ∀ c ∈ more.toList.head?, ¬ IsOpenFor s.toList c := by
    rw [String.toList_append]
    exact hread.textPieces_append_iff more.toList
  exact ⟨textPieces s.toList,
    { reads := fun qs ↦ ⟨fun h ↦ h.textPieces_eq.symm, fun h ↦ h ▸ hread⟩
      fails := fun e ↦ expandVariables_eq_error_iff
      expands := expandVariables_of_isSome
      plain := expandVariables_of_notMem env
      boundary := hboundary
      append := fun more h ↦ expandVariables_append ((hboundary more).mpr h) }⟩

end TabularReport

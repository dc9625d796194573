import TabularReport.Proofs.Document.Literal
import TabularReport.Proofs.Document.Preservation

/-!
# Texts of values

The text of a value is followed to its end, and what it presents is the value, but for containers
that are marked because they are nested too deeply. The recursion of the reader is that of the
value; the fuel it needs is measured by the length of the text.
-/

namespace TabularReport

namespace Json

mutual

/-- The numbers of a value. -/
def numbers : Json → List Number
  | .number n => [n]
  | .array items => numbersOfItems items
  | .object fields => numbersOfFields fields
  | .null | .bool _ | .string _ => []

/-- The numbers of items. -/
def numbersOfItems : List Json → List Number
  | [] => []
  | v :: rest => v.numbers ++ numbersOfItems rest

/-- The numbers of fields. -/
def numbersOfFields : List (String × Json) → List Number
  | [] => []
  | (_, v) :: rest => v.numbers ++ numbersOfFields rest

end

mutual

/-- A value is proper when its numbers are. -/
theorem isProper_iff : (v : Json) → (v.IsProper ↔ ∀ n ∈ v.numbers, n.IsProper)
  | .number n => by rw [IsProper, numbers, List.forall_mem_singleton]
  | .array items => by rw [IsProper, numbers, areProper_iff_numbers items]
  | .object fields => by rw [IsProper, numbers, areProperFields_iff_numbers fields]
  | .null | .bool _ | .string _ => by simp [IsProper, numbers]

private theorem areProper_iff_numbers : (items : List Json) →
    (AreProper items ↔ ∀ n ∈ numbersOfItems items, n.IsProper)
  | [] => by simp [AreProper, numbersOfItems]
  | v :: rest => by
    rw [AreProper, numbersOfItems, List.forall_mem_append, isProper_iff v,
      areProper_iff_numbers rest]

private theorem areProperFields_iff_numbers : (fields : List (String × Json)) →
    (AreProperFields fields ↔ ∀ n ∈ numbersOfFields fields, n.IsProper)
  | [] => by simp [AreProperFields, numbersOfFields]
  | (_, v) :: rest => by
    rw [AreProperFields, numbersOfFields, List.forall_mem_append, isProper_iff v,
      areProperFields_iff_numbers rest]

end

mutual

/-- The value with each number replaced by the one that its text is read as. -/
def reread : Json → Json
  | .number n => .number (n.readAs?.getD n)
  | .array items => .array (rereadItems items)
  | .object fields => .object (rereadFields fields)
  | .null => .null
  | .bool b => .bool b
  | .string s => .string s

/-- The items with their numbers replaced. -/
def rereadItems : List Json → List Json
  | [] => []
  | v :: rest => v.reread :: rereadItems rest

/-- The fields with their numbers replaced. -/
def rereadFields : List (String × Json) → List (String × Json)
  | [] => []
  | (key, v) :: rest => (key, v.reread) :: rereadFields rest

end

/-- Whether the text of each number of a value is read as a number. -/
def IsReadable (v : Json) : Prop := ∀ n ∈ v.numbers, n.readAs?.isSome

/-- Whether the text of each number of a value is read as this number. -/
def ReadsBack (v : Json) : Prop := ∀ n ∈ v.numbers, n.readAs? = some n

instance (v : Json) : Decidable v.IsReadable :=
  inferInstanceAs (Decidable (∀ n ∈ v.numbers, n.readAs?.isSome))

instance (v : Json) : Decidable v.ReadsBack :=
  inferInstanceAs (Decidable (∀ n ∈ v.numbers, n.readAs? = some n))

/-- Values that are read back are readable. -/
theorem ReadsBack.isReadable {v : Json} (h : v.ReadsBack) : v.IsReadable := fun n hn ↦ by
  rw [h n hn]
  rfl

/-- Integers of 64 bits are read back. -/
theorem IsProper.readsBack {v : Json} (hv : v.IsProper) (h : ∀ n ∈ v.numbers, ∃ i, n = .int i) :
    v.ReadsBack := fun n hn ↦ by
  have hn' := (isProper_iff v).mp hv n hn
  obtain ⟨i, rfl⟩ := h n hn
  exact Number.readAs?_int hn'

-- Not every number is: the shortest digits of this one are taken for those of its neighbour.
example : ¬ (number (.float 1.0000000000000001e-24)).ReadsBack := by decide +kernel

mutual

/-- A value that is read back is what it is reread as. -/
theorem reread_eq : (v : Json) → (∀ n ∈ v.numbers, n.readAs? = some n) → v.reread = v
  | .number n, h => by rw [reread, h n (List.mem_singleton_self n), Option.getD_some]
  | .array items, h => by rw [reread, rereadItems_eq items h]
  | .object fields, h => by rw [reread, rereadFields_eq fields h]
  | .null, _ | .bool _, _ | .string _, _ => rfl

private theorem rereadItems_eq :
    (items : List Json) → (∀ n ∈ numbersOfItems items, n.readAs? = some n) →
    rereadItems items = items
  | [], _ => rfl
  | v :: rest, h => by
    rw [numbersOfItems, List.forall_mem_append] at h
    rw [rereadItems, reread_eq v h.1, rereadItems_eq rest h.2]

private theorem rereadFields_eq : (fields : List (String × Json)) →
    (∀ n ∈ numbersOfFields fields, n.readAs? = some n) → rereadFields fields = fields
  | [], _ => rfl
  | (key, v) :: rest, h => by
    rw [numbersOfFields, List.forall_mem_append] at h
    rw [rereadFields, reread_eq v h.1, rereadFields_eq rest h.2]

end

end Json

namespace Source

mutual

/-- The source without the marks of containers that are nested too deeply. -/
def bare : Source → Source
  | .array items stop => .array (bareItems items) stop
  | .object entries stop => .object (bareEntries entries) stop
  | .nestedTooDeep inner => inner.bare
  | .null => .null
  | .bool b => .bool b
  | .number n => .number n
  | .string s => .string s
  | .unreadable cause => .unreadable cause
  | .cut cause => .cut cause

/-- The items without these marks. -/
def bareItems : List Source → List Source
  | [] => []
  | s :: rest => s.bare :: bareItems rest

/-- The entries without these marks. -/
def bareEntries : List (String × Source) → List (String × Source)
  | [] => []
  | (key, s) :: rest => (key, s.bare) :: bareEntries rest

end

private theorem bare_atLevel (level : Nat) (s : Source) : (atLevel level s).bare = s.bare := by
  unfold atLevel
  split
  · rfl
  · rw [bare]

private theorem skipSpace_cons {c : Char} (h : isSpace c = false) (rest : List Char) :
    skipSpace (c :: rest) = c :: rest :=
  List.dropWhile_cons_of_neg (by simp [h])

end Source

namespace Json

open Source

/-- The characters of the entry of an object. -/
def entryChars (field : String × Json) : List Char :=
  '\x22' :: (field.1.toList.flatMap escapeChar ++ '\x22' :: ':' :: field.2.compact.toList)

/-- The characters of parts up to a closing mark. Each part stands behind a comma, unless it is the
first one. -/
def separated (close : Char) : Bool → List (List Char) → List Char
  | _, [] => [close]
  | first, part :: rest => (if first then [] else [',']) ++ part ++ separated close false rest

private theorem intercalate_append_close (close : Char) (parts : List (List Char)) :
    [','].intercalate parts ++ [close] = separated close true parts := by
  induction parts with
  | nil => rfl
  | cons part rest ih =>
    cases rest with
    | nil => simp [separated]
    | cons next rest =>
      rw [List.intercalate_cons_cons, List.append_assoc, ih, separated, separated, separated]
      simp

private theorem endsNumber_separated {close : Char}
    (h : Text.isDigit close = false ∧ close ≠ '.' ∧ close ≠ 'e' ∧ close ≠ 'E')
    (parts : List (List Char)) (rest : List Char) :
    EndsNumber (separated close false parts ++ rest) := by
  cases parts with
  | nil =>
    rintro c ⟨⟩
    exact h
  | cons part more =>
    rintro c ⟨⟩
    decide

private theorem compactItems_eq_map (items : List Json) :
    compactItems items = items.map compact := by
  induction items with
  | nil => rfl
  | cons v rest ih => rw [compactItems, List.map_cons, ih]

private theorem map_toList_compactFields (fields : List (String × Json)) :
    (compactFields fields).map String.toList = fields.map entryChars := by
  induction fields with
  | nil => rfl
  | cons field rest ih =>
    obtain ⟨key, v⟩ := field
    rw [compactFields, List.map_cons, List.map_cons, ih, String.toList_append,
      String.toList_append, quote, String.toList_ofList]
    simp [entryChars]

private theorem toList_compact_array (items : List Json) :
    (array items).compact.toList =
      '[' :: separated ']' true (items.map (·.compact.toList)) := by
  rw [compact, String.toList_append, String.toList_append, String.toList_intercalate,
    compactItems_eq_map, List.map_map, ← intercalate_append_close]
  rfl

private theorem toList_compact_object (fields : List (String × Json)) :
    (object fields).compact.toList = '\x7b' :: separated '\x7d' true (fields.map entryChars) := by
  rw [compact, String.toList_append, String.toList_append, String.toList_intercalate,
    map_toList_compactFields, ← intercalate_append_close]
  rfl

private theorem exists_toList_compact_eq_cons {v : Json} (h : v.IsReadable) :
    ∃ c cs, v.compact.toList = c :: cs ∧ isSpace c = false ∧ c ≠ ']' := by
  cases v with
  | null => exact ⟨'n', _, rfl, rfl, by decide⟩
  | bool b =>
    cases b with
    | false => exact ⟨'f', _, rfl, rfl, by decide⟩
    | true => exact ⟨'t', _, rfl, rfl, by decide⟩
  | number n =>
    obtain ⟨m, hm⟩ := Option.isSome_iff_exists.mp (h n (List.mem_singleton_self n))
    obtain ⟨c, cs, hcs, hc⟩ :=
      exists_eq_cons_of_numberLiteral (Number.readAs?_eq_some_iff.mp hm)
    refine ⟨c, cs, hcs, ?_⟩
    rcases hc with rfl | hc
    · exact ⟨rfl, by decide⟩
    · simp only [Text.isDigit, Bool.and_eq_true, decide_eq_true_eq] at hc
      refine ⟨?_, ?_⟩
      · simp only [isSpace, Bool.or_eq_false_iff, beq_eq_false_iff_ne]
        omega
      · rintro rfl
        exact absurd hc.2 (by decide)
  | string s => exact ⟨'\x22', _, by rw [compact, quote, String.toList_ofList], rfl, by decide⟩
  | array items => exact ⟨'[', _, toList_compact_array items, rfl, by decide⟩
  | object fields => exact ⟨'\x7b', _, toList_compact_object fields, rfl, by decide⟩

private theorem parseValue_number {n m : Number} (h : n.readAs? = some m) (fuel level : Nat)
    {rest : List Char} (hrest : EndsNumber rest) :
    parseValue (fuel + 1) level (n.text.toList ++ rest) = (.number m, rest) := by
  rw [Number.readAs?_eq_some_iff] at h
  obtain ⟨c, cs, hcs, hc⟩ := exists_eq_cons_of_numberLiteral h
  have hread := numberLiteral_append hrest h
  rw [hcs, List.nil_append, List.cons_append] at hread
  have hcode : 45 = c.toNat ∨ 48 ≤ c.toNat ∧ c.toNat ≤ 57 := by
    rcases hc with rfl | hc
    · exact .inl rfl
    · simpa [Text.isDigit] using Or.inr hc
  have hspace : isSpace c = false := by
    simp only [isSpace, Bool.or_eq_false_iff, beq_eq_false_iff_ne]
    omega
  have hother (d : Char) (hd : d.toNat ≠ 45) (hd' : d.toNat < 48 ∨ 57 < d.toNat) : c ≠ d := by
    rintro rfl
    omega
  have hnumber : (c = '-' || Text.isDigit c) = true := by simpa using hc
  rw [hcs, List.cons_append, parseValue, skipSpace_cons hspace]
  dsimp only
  rw [if_neg (hother 'n' (by decide) (by decide)), if_neg (hother 't' (by decide) (by decide)),
    if_neg (hother 'f' (by decide) (by decide)), if_neg (hother '[' (by decide) (by decide)),
    if_neg (by omega), if_neg (by omega), if_pos hnumber, hread]

private theorem parseItems_cons {c : Char} (hspace : isSpace c = false) (hend : c ≠ ']') (first :
    Bool)
    {fuel level : Nat} {cs after last : List Char} {s : Source} {found : List Source}
    {stop : Option Malformed} (hvalue : parseValue fuel level (c :: cs) = (s, after))
    (hmore : parseItems fuel level false after = (found, stop, last)) :
    parseItems (fuel + 1) level first ((if first then [] else [',']) ++ c :: cs) =
      (s :: found, stop, last) := by
  cases first with
  | true =>
    rw [if_pos rfl, List.nil_append, parseItems, skipSpace_cons hspace]
    dsimp only
    rw [if_neg hend, if_pos rfl, hvalue]
    dsimp only
    rw [hmore]
  | false =>
    rw [if_neg Bool.false_ne_true, List.singleton_append, parseItems,
      skipSpace_cons (c := ',') rfl]
    dsimp only
    rw [if_neg (by decide), if_neg Bool.false_ne_true, if_pos rfl, skipSpace_cons hspace]
    dsimp only
    rw [if_neg hend, hvalue]
    dsimp only
    rw [hmore]

private theorem parseEntries_cons (first : Bool) (key : String) (v : Json) {fuel level : Nat}
    {rest last : List Char} {s : Source} {found : List (String × Source)} {stop : Option Malformed}
    (hvalue : parseValue fuel level (v.compact.toList ++ rest) = (s, rest))
    (hmore : parseEntries fuel level false rest = (found, stop, last)) :
    parseEntries (fuel + 2) level first
        ((if first then [] else [',']) ++ (entryChars (key, v) ++ rest)) =
      ((key, s) :: found, stop, last) := by
  have hentry : parseEntry (fuel + 1) level
      (key.toList.flatMap escapeChar ++ '\x22' :: ':' :: (v.compact.toList ++ rest)) =
        ((key, s) :: found, stop, last) := by
    rw [parseEntry, stringLiteral_quoted]
    dsimp only
    rw [skipSpace_cons rfl]
    dsimp only
    rw [if_pos rfl, hvalue]
    dsimp only
    rw [hmore]
  have hchars : entryChars (key, v) ++ rest =
      '\x22' :: (key.toList.flatMap escapeChar ++ '\x22' :: ':' :: (v.compact.toList ++ rest)) := by
    simp [entryChars]
  rw [hchars]
  cases first with
  | true =>
    rw [if_pos rfl, List.nil_append, parseEntries, skipSpace_cons rfl]
    dsimp only
    rw [if_neg (by decide), if_pos rfl, if_pos (by decide), hentry]
  | false =>
    rw [if_neg Bool.false_ne_true, List.singleton_append, parseEntries, skipSpace_cons rfl]
    dsimp only
    rw [if_neg (by decide), if_neg Bool.false_ne_true, if_pos rfl, skipSpace_cons rfl]
    dsimp only
    rw [if_pos (by decide), hentry]

private theorem word_append (letters rest : List Char) (s : Source) :
    word letters (letters ++ rest) s = (s, rest) := by
  induction letters with
  | nil => cases rest <;> rfl
  | cons c letters ih => rw [List.cons_append, word, if_pos rfl, ih]

private theorem parseValue_word {v : Json} {c : Char} {letters : List Char} {s : Source}
    (hv : v.compact.toList = c :: letters)
    (hc : c = 'n' ∧ letters = ['u', 'l', 'l'] ∧ s = .null ∨
      c = 't' ∧ letters = ['r', 'u', 'e'] ∧ s = .bool true ∨
        c = 'f' ∧ letters = ['a', 'l', 's', 'e'] ∧ s = .bool false)
    (fuel level : Nat) (rest : List Char) :
    parseValue (fuel + 1) level (v.compact.toList ++ rest) = (s, rest) := by
  rw [hv, List.cons_append, parseValue]
  rcases hc with ⟨rfl, rfl, rfl⟩ | ⟨rfl, rfl, rfl⟩ | ⟨rfl, rfl, rfl⟩
  · rw [skipSpace_cons rfl]
    dsimp only
    rw [if_pos rfl, word_append]
  · rw [skipSpace_cons rfl]
    dsimp only
    rw [if_neg (by decide), if_pos rfl, word_append]
  · rw [skipSpace_cons rfl]
    dsimp only
    rw [if_neg (by decide), if_neg (by decide), if_pos rfl, word_append]

private theorem parseValue_string (s : String) (fuel level : Nat) (rest : List Char) :
    parseValue (fuel + 1) level ((string s).compact.toList ++ rest) = (.string s, rest) := by
  have hchars : (string s).compact.toList ++ rest =
      '\x22' :: (s.toList.flatMap escapeChar ++ '\x22' :: rest) := by
    rw [compact, quote, String.toList_ofList]
    simp
  rw [hchars, parseValue, skipSpace_cons rfl]
  dsimp only
  rw [if_neg (by decide), if_neg (by decide), if_neg (by decide), if_neg (by decide),
    if_neg (by decide), if_pos (by decide), stringLiteral_quoted]

private theorem length_separated_cons (close : Char) (first : Bool) (part : List Char)
    (parts : List (List Char)) :
    part.length + (separated close false parts).length ≤
        (separated close first (part :: parts)).length ∧
      0 < (separated close false parts).length := by
  refine ⟨?_, by cases parts <;> simp [separated]⟩
  rw [separated, List.length_append, List.length_append]
  omega

/-- Whether a source presents a value at a level of nesting: as it is, but for the marks of what is
nested too deeply. -/
structure Presents (s : Source) (v : Json) (level : Nat) : Prop where
  bare : s.bare = v.source
  eq : level + v.source.depth ≤ maxDepth → s = v.source

/-- Whether sources present the items of an array in this way. -/
structure PresentsItems (found : List Source) (items : List Json) (level : Nat) : Prop where
  bare : bareItems found = sourceItems items
  eq : level + itemsDepth (sourceItems items) ≤ maxDepth → found = sourceItems items

/-- Whether entries present the fields of an object in this way. -/
structure PresentsFields (found : List (String × Source)) (fields : List (String × Json))
    (level : Nat) : Prop where
  bare : bareEntries found = sourceFields fields
  eq : level + entriesDepth (sourceFields fields) ≤ maxDepth → found = sourceFields fields

private theorem PresentsItems.array {found : List Source} {items : List Json} {level : Nat}
    (h : PresentsItems found items (level + 1)) :
    Presents (atLevel (level + 1) (.array found none)) (.array items) level where
  bare := by rw [bare_atLevel, Source.bare, h.bare, source]
  eq hlevel := by
    rw [source, depth] at hlevel
    rw [atLevel, if_pos (by omega), h.eq (by omega), source]

private theorem PresentsFields.object {found : List (String × Source)}
    {fields : List (String × Json)} {level : Nat} (h : PresentsFields found fields (level + 1)) :
    Presents (atLevel (level + 1) (.object found none)) (.object fields) level where
  bare := by rw [bare_atLevel, Source.bare, h.bare, source]
  eq hlevel := by
    rw [source, depth] at hlevel
    rw [atLevel, if_pos (by omega), h.eq (by omega), source]

private theorem Presents.cons {s : Source} {v : Json} {found : List Source} {items : List Json}
    {level : Nat} (h : Presents s v level) (hmore : PresentsItems found items level) :
    PresentsItems (s :: found) (v :: items) level where
  bare := by rw [bareItems, h.bare, hmore.bare, sourceItems]
  eq hlevel := by
    rw [sourceItems, itemsDepth] at hlevel
    have hmax := Nat.max_le.mp (Nat.le_sub_of_add_le' hlevel)
    rw [sourceItems, h.eq (by omega), hmore.eq (by omega)]

private theorem Presents.consField {s : Source} {v : Json} {found : List (String × Source)}
    {fields : List (String × Json)} {level : Nat} (key : String) (h : Presents s v level)
    (hmore : PresentsFields found fields level) :
    PresentsFields ((key, s) :: found) ((key, v) :: fields) level where
  bare := by rw [bareEntries, h.bare, hmore.bare, sourceFields]
  eq hlevel := by
    rw [sourceFields, entriesDepth] at hlevel
    have hmax := Nat.max_le.mp (Nat.le_sub_of_add_le' hlevel)
    rw [sourceFields, h.eq (by omega), hmore.eq (by omega)]

private theorem parseValue_array {items : List Json} {fuel level : Nat} {rest : List Char}
    {found : List Source}
    (h : parseItems fuel (level + 1) true
      (separated ']' true (items.map (·.compact.toList)) ++ rest) = (found, none, rest)) :
    parseValue (fuel + 1) level ((array items).compact.toList ++ rest) =
      (atLevel (level + 1) (.array found none), rest) := by
  rw [toList_compact_array, List.cons_append, parseValue, skipSpace_cons rfl]
  dsimp only
  rw [if_neg (by decide), if_neg (by decide), if_neg (by decide), if_pos rfl, h]

private theorem parseValue_object {fields : List (String × Json)} {fuel level : Nat}
    {rest : List Char}
    {found : List (String × Source)}
    (h : parseEntries fuel (level + 1) true
      (separated '\x7d' true (fields.map entryChars) ++ rest) = (found, none, rest)) :
    parseValue (fuel + 1) level ((object fields).compact.toList ++ rest) =
      (atLevel (level + 1) (.object found none), rest) := by
  rw [toList_compact_object, List.cons_append, parseValue, skipSpace_cons rfl]
  dsimp only
  rw [if_neg (by decide), if_neg (by decide), if_neg (by decide), if_neg (by decide),
    if_pos (by decide), h]

mutual

private theorem parseValue_compact : (v : Json) → (∀ n ∈ v.numbers, n.readAs?.isSome) →
    ∀ (fuel level : Nat) (rest : List Char), 3 * v.compact.toList.length ≤ fuel →
      EndsNumber rest → ∃ s, parseValue fuel level (v.compact.toList ++ rest) = (s, rest) ∧
        Presents s v.reread level := by
  intro v hread fuel level rest hfuel hrest
  -- At most three readers are entered at a character: of a value, of its place and of an entry.
  obtain ⟨c, cs, hcs, -⟩ := exists_toList_compact_eq_cons hread
  obtain ⟨fuel, rfl⟩ : ∃ n, fuel = n + 1 :=
    ⟨fuel - 1, by rw [hcs, List.length_cons] at hfuel; omega⟩
  cases v with
  | null =>
    exact ⟨.null, parseValue_word rfl (.inl ⟨rfl, rfl, rfl⟩) fuel level rest, rfl, fun _ ↦ rfl⟩
  | bool b =>
    cases b with
    | true =>
      exact ⟨.bool true, parseValue_word rfl (.inr (.inl ⟨rfl, rfl, rfl⟩)) fuel level rest, rfl,
        fun _ ↦ rfl⟩
    | false =>
      exact ⟨.bool false, parseValue_word rfl (.inr (.inr ⟨rfl, rfl, rfl⟩)) fuel level rest, rfl,
        fun _ ↦ rfl⟩
  | number n =>
    obtain ⟨m, hm⟩ := Option.isSome_iff_exists.mp (hread n (List.mem_singleton_self n))
    rw [reread, hm, Option.getD_some]
    exact ⟨.number m, parseValue_number hm fuel level hrest, rfl, fun _ ↦ rfl⟩
  | string s => exact ⟨.string s, parseValue_string s fuel level rest, rfl, fun _ ↦ rfl⟩
  | array items =>
    rw [toList_compact_array, List.length_cons] at hfuel
    obtain ⟨found, hfound, hpresents⟩ := parseItems_separated items hread true fuel (level + 1)
      rest (by omega)
    exact ⟨_, parseValue_array hfound, hpresents.array⟩
  | object fields =>
    rw [toList_compact_object, List.length_cons] at hfuel
    obtain ⟨found, hfound, hpresents⟩ := parseEntries_separated fields hread true fuel
      (level + 1) rest (by omega)
    exact ⟨_, parseValue_object hfound, hpresents.object⟩

private theorem parseItems_separated : (items : List Json) →
    (∀ n ∈ numbersOfItems items, n.readAs?.isSome) → (first : Bool) →
    ∀ (fuel level : Nat) (rest : List Char),
      3 * (separated ']' first (items.map (·.compact.toList))).length ≤ fuel →
        ∃ found, parseItems fuel level first
            (separated ']' first (items.map (·.compact.toList)) ++ rest) = (found, none, rest) ∧
          PresentsItems found (rereadItems items) level
  | [], _, first, fuel, level, rest, hfuel => by
    rw [List.map_nil, separated, List.length_singleton] at hfuel
    obtain ⟨fuel, rfl⟩ : ∃ n, fuel = n + 1 := ⟨fuel - 1, by omega⟩
    refine ⟨[], ?_, ⟨rfl, fun _ ↦ rfl⟩⟩
    rw [List.map_nil, separated, List.singleton_append, parseItems, skipSpace_cons rfl]
    dsimp only
    rw [if_pos rfl]
  | v :: more, hread, first, fuel, level, rest, hfuel => by
    rw [numbersOfItems, List.forall_mem_append] at hread
    obtain ⟨c, cs, hcs, hspace, hend⟩ := exists_toList_compact_eq_cons hread.1
    obtain ⟨hlength, hpos⟩ := length_separated_cons ']' first v.compact.toList
      (more.map (·.compact.toList))
    rw [List.map_cons] at hfuel
    have hv : 0 < v.compact.toList.length := by rw [hcs]; exact Nat.succ_pos _
    obtain ⟨fuel, rfl⟩ : ∃ n, fuel = n + 1 := ⟨fuel - 1, by omega⟩
    obtain ⟨found, hfound, hmore⟩ := parseItems_separated more hread.2 false fuel level
      rest (by omega)
    obtain ⟨s, hs, hpresents⟩ := parseValue_compact v hread.1 fuel level
      (separated ']' false (more.map (·.compact.toList)) ++ rest) (by omega)
      (endsNumber_separated (by decide) _ rest)
    refine ⟨s :: found, ?_, hpresents.cons hmore⟩
    rw [hcs, List.cons_append] at hs
    rw [List.map_cons, separated, List.append_assoc, List.append_assoc, hcs, List.cons_append]
    exact parseItems_cons hspace hend first hs hfound

private theorem parseEntries_separated : (fields : List (String × Json)) →
    (∀ n ∈ numbersOfFields fields, n.readAs?.isSome) → (first : Bool) →
    ∀ (fuel level : Nat) (rest : List Char),
      3 * (separated '\x7d' first (fields.map entryChars)).length ≤ fuel →
        ∃ found, parseEntries fuel level first
            (separated '\x7d' first (fields.map entryChars) ++ rest) = (found, none, rest) ∧
          PresentsFields found (rereadFields fields) level
  | [], _, first, fuel, level, rest, hfuel => by
    rw [List.map_nil, separated, List.length_singleton] at hfuel
    obtain ⟨fuel, rfl⟩ : ∃ n, fuel = n + 1 := ⟨fuel - 1, by omega⟩
    refine ⟨[], ?_, ⟨rfl, fun _ ↦ rfl⟩⟩
    rw [List.map_nil, separated, List.singleton_append, parseEntries, skipSpace_cons rfl]
    dsimp only
    rw [if_pos (by decide)]
  | (key, v) :: more, hread, first, fuel, level, rest, hfuel => by
    rw [numbersOfFields, List.forall_mem_append] at hread
    obtain ⟨hlength, hpos⟩ := length_separated_cons '\x7d' first (entryChars (key, v))
      (more.map entryChars)
    have hentry : v.compact.toList.length + 2 ≤ (entryChars (key, v)).length := by
      simp only [entryChars, List.length_cons, List.length_append]
      omega
    rw [List.map_cons] at hfuel
    obtain ⟨fuel, rfl⟩ : ∃ n, fuel = n + 2 := ⟨fuel - 2, by omega⟩
    obtain ⟨found, hfound, hmore⟩ := parseEntries_separated more hread.2 false fuel
      level rest (by omega)
    obtain ⟨s, hs, hpresents⟩ := parseValue_compact v hread.1 fuel level
      (separated '\x7d' false (more.map entryChars) ++ rest) (by omega)
      (endsNumber_separated (by decide) _ rest)
    refine ⟨(key, s) :: found, ?_, hpresents.consField key hmore⟩
    rw [List.map_cons, separated, List.append_assoc, List.append_assoc]
    exact parseEntries_cons first key v hs hfound

end

/-- A text of a value whose numbers can be read presents it with these numbers reread, and nothing
after it. -/
theorem ofText_compact {v : Json} (h : v.IsReadable) :
    ∃ s, Source.ofText v.compact = (s, false) ∧ Presents s v.reread 0 := by
  obtain ⟨s, hs, hpresents⟩ := parseValue_compact v h (3 * v.compact.toList.length + 3) 0 []
    (by omega) nofun
  rw [List.append_nil] at hs
  refine ⟨s, ?_, hpresents⟩
  rw [Source.ofText]
  dsimp only
  rw [hs]
  rfl

end Json

end TabularReport

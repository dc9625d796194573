import TabularReport.Document.Reader

/-!
# What records are read from

A record is read when each of its fields is, and a field is read from the one source that stands
under its names, or takes its default where there is none. The places that errors are ordered by
decide nothing else.
-/

namespace TabularReport

namespace RecordReader

variable {α β : Type}

/-- The sources that a form of a record holds. -/
def parts : RecordForm → List Source
  | .positional items _ => items
  | .keyed entries => entries.map (·.2)

/-- The sources that stand under the given keys. -/
def under (keys : List String) (entries : List (String × Source)) : List Source :=
  (entries.filter fun entry ↦ keys.contains entry.1).map (·.2)

private theorem map_occurrences (keys : List String) (entries : List (String × Source)) :
    (occurrences keys entries).map (·.2) = under keys entries := by
  have hzip (n : Nat) :
      ((entries.zipIdx n).filter fun p ↦ keys.contains p.1.1).map (·.1.2) = under keys entries := by
    induction entries generalizing n with
    | nil => rfl
    | cons entry rest ih =>
      rw [List.zipIdx_cons, List.filter_cons, under, List.filter_cons]
      split
      · rw [List.map_cons, List.map_cons, ih (n + 1)]
        rfl
      · exact ih (n + 1)
  rw [occurrences, List.map_map]
  exact hzip 0

/-- What stands under keys in two lists of entries stands there in both together. -/
theorem under_append (keys : List String) (entries more : List (String × Source)) :
    under keys (entries ++ more) = under keys entries ++ under keys more := by
  rw [under, List.filter_append, List.map_append]
  rfl

/-- Nothing stands under keys that no entry has. -/
theorem under_eq_nil {keys : List String} {entries : List (String × Source)}
    (h : ∀ entry ∈ entries, entry.1 ∉ keys) : under keys entries = [] := by
  rw [under, List.map_eq_nil_iff, List.filter_eq_nil_iff]
  exact fun entry hentry hkeys ↦ h entry hentry (List.contains_iff_mem.mp hkeys)

/-- Both readers of a combination succeed when it does. -/
theorem run_seq_eq_ok_iff {f : RecordReader (α → β)} {x : RecordReader α} {o : Origin} {i : Nat}
    {form : RecordForm} {b : β} :
    (f <*> x).run o i form = .ok b ↔
      ∃ g a, f.run o i form = .ok g ∧ x.run o (i + f.width) form = .ok a ∧ g a = b := by
  change (combine f x).run o i form = .ok b ↔ _
  unfold combine
  dsimp only
  cases f.run o i form <;> cases x.run o (i + f.width) form <;> simp

/-- A field whose values are mapped is read when the field is. -/
theorem run_map_eq_ok_iff {g : α → β} {x : RecordReader α} {o : Origin} {i : Nat}
    {form : RecordForm} {b : β} :
    (g <$> x).run o i form = .ok b ↔ ∃ a, x.run o i form = .ok a ∧ g a = b := by
  change (pure g <*> x).run o i form = .ok b ↔ _
  rw [run_seq_eq_ok_iff]
  constructor
  · rintro ⟨_, a, hg, ha, rfl⟩
    cases hg
    exact ⟨a, ha, rfl⟩
  · rintro ⟨a, ha, rfl⟩
    exact ⟨g, a, rfl, ha, rfl⟩

section field

variable {keys : List String} {r r' : Reader α} {name : String} {default? : Option α} {o : Origin}
  {i : Nat} {a : α}

/-- A field of an object is read from the one entry under its keys, or takes its default. -/
theorem run_fieldWith_keyed_eq_ok_iff {entries : List (String × Source)} :
    (fieldWith keys r name default?).run o i (.keyed entries) = .ok a ↔
      under keys entries = [] ∧ default? = some a ∨
        ∃ s, under keys entries = [s] ∧ r o s = .ok a := by
  unfold fieldWith
  rw [← map_occurrences]
  dsimp only
  rcases occurrences keys entries with _ | ⟨⟨place, s⟩, _ | ⟨⟨again, t⟩, rest⟩⟩
  · cases default? <;> simp
  · dsimp only [Except.mapError]
    cases hr : r o s <;> simp [hr]
  · dsimp only
    cases r o s <;> simp

/-- A field of an array is read from the item at its position, or takes its default. -/
theorem run_fieldWith_positional_eq_ok_iff {items : List Source} {stop : Option Malformed} :
    (fieldWith keys r name default?).run o i (.positional items stop) = .ok a ↔
      items[i]? = none ∧ stop = none ∧ default? = some a ∨
        ∃ s, items[i]? = some s ∧ r o s = .ok a := by
  unfold fieldWith
  dsimp only [Except.mapError]
  cases items[i]? with
  | none => cases stop <;> cases default? <;> simp
  | some s => cases hr : r o s <;> simp [hr]

/-- A field that is read has its value from a part of the record, or its default. -/
theorem run_fieldWith_eq_ok {form : RecordForm}
    (h : (fieldWith keys r name default?).run o i form = .ok a) :
    default? = some a ∨ ∃ s ∈ parts form, r o s = .ok a := by
  cases form with
  | positional items stop =>
    obtain ⟨-, -, hd⟩ | ⟨s, hs, hr⟩ := run_fieldWith_positional_eq_ok_iff.mp h
    · exact .inl hd
    · exact .inr ⟨s, List.mem_of_getElem? hs, hr⟩
  | keyed entries =>
    obtain ⟨-, hd⟩ | ⟨s, hs, hr⟩ := run_fieldWith_keyed_eq_ok_iff.mp h
    · exact .inl hd
    · have hmem : s ∈ under keys entries := hs ▸ List.mem_singleton_self s
      obtain ⟨entry, hentry, rfl⟩ := List.mem_map.mp hmem
      exact .inr ⟨_, List.mem_map_of_mem (List.mem_filter.mp hentry).1, hr⟩

/-- A field is read alike by readers that agree on the parts of the record. -/
theorem run_fieldWith_congr {form : RecordForm} (h : ∀ s ∈ parts form, r o s = r' o s) :
    (fieldWith keys r name default?).run o i form =
      (fieldWith keys r' name default?).run o i form := by
  unfold fieldWith
  cases form with
  | positional items stop =>
    dsimp only
    cases hs : items[i]? with
    | none => rfl
    | some s => dsimp only; rw [h s (List.mem_of_getElem? hs)]
  | keyed entries =>
    have hocc (p : Nat × Source) (hp : p ∈ occurrences keys entries) : r o p.2 = r' o p.2 := by
      have hmem : p.2 ∈ under keys entries := by
        rw [← map_occurrences]
        exact List.mem_map_of_mem hp
      obtain ⟨entry, hentry, he⟩ := List.mem_map.mp hmem
      exact he ▸ h _ (List.mem_map_of_mem (List.mem_filter.mp hentry).1)
    dsimp only
    generalize occurrences keys entries = found at hocc ⊢
    rcases found with _ | ⟨⟨place, s⟩, _ | ⟨⟨again, t⟩, rest⟩⟩
    · cases default? <;> rfl
    · have hs : r o s = r' o s := hocc ⟨place, s⟩ (List.mem_cons_self ..)
      simp only [hs]
    · have hs : r o s = r' o s := hocc ⟨place, s⟩ (List.mem_cons_self ..)
      simp only [hs]

end field

section whole

variable {x y : RecordReader α} {what : String} {strict : Bool} {o : Origin} {a : α}

/-- No entry is a stray one when all of them are fields. -/
theorem strayEntry_eq_none {keys : List String} {entries : List (String × Source)}
    (h : ∀ entry ∈ entries, entry.1 ∈ keys) : strayEntry keys strict entries = none := by
  rw [strayEntry, List.findSome?_eq_none_iff]
  rintro ⟨entry, i⟩ hp
  have hmem : keys.contains entry.1 = true :=
    List.contains_iff_mem.mpr (h entry (List.fst_mem_of_mem_zipIdx hp))
  simp only [hmem, if_true]

private theorem mem_keys_of_strayEntry {keys : List String} {entries : List (String × Source)}
    (h : strayEntry keys true entries = none) : ∀ entry ∈ entries, entry.1 ∈ keys := by
  intro entry hentry
  obtain ⟨i, hi⟩ := List.mem_iff_getElem?.mp hentry
  have hnone := List.findSome?_eq_none_iff.mp h (entry, i) (List.mk_mem_zipIdx_iff_getElem?.mpr hi)
  refine Decidable.byContradiction fun hkeys ↦ ?_
  simp only [List.contains_iff_mem, hkeys, if_false, if_true] at hnone
  cases hnone

/-- A record is read from an object when its fields are, no entry is a stray one, and the text of
the object is complete. -/
theorem reader_object_eq_ok_iff {entries : List (String × Source)} {stop : Option Malformed} :
    x.reader what strict o (.object entries stop) = .ok a ↔
      x.run o 0 (.keyed entries) = .ok a ∧ strayEntry x.keys strict entries = none ∧
        stop = none := by
  change x.readEntries strict o entries stop = .ok a ↔ _
  unfold readEntries
  dsimp only
  cases x.run o 0 (.keyed entries) <;> cases strayEntry x.keys strict entries <;> cases stop <;>
    simp

/-- A record is read from an array when its fields are and the array ends with them. -/
theorem reader_array_eq_ok_iff {items : List Source} {stop : Option Malformed} :
    x.reader what strict o (.array items stop) = .ok a ↔
      x.run o 0 (.positional items stop) = .ok a ∧
        surplus o x.width items.length stop = none := by
  change x.readItems what o items stop = .ok a ↔ _
  unfold readItems
  rcases x.run o 0 (.positional items stop) with ⟨_, _ | _⟩ | _
  · simp
  · simp
  · cases surplus o x.width items.length stop <;> simp

/-- The fields of a record that is read are read from its form. -/
theorem exists_run_of_reader {s : Source} (h : x.reader what strict o s = .ok a) :
    ∃ form, x.run o 0 form = .ok a := by
  cases s with
  | array items stop => exact ⟨_, (reader_array_eq_ok_iff.mp h).1⟩
  | object entries stop => exact ⟨_, (reader_object_eq_ok_iff.mp h).1⟩
  | null | bool | number | string | unreadable | nestedTooDeep | cut => cases h

/-- Records of the same fields are read alike from a source whose parts they read alike. -/
theorem reader_congr {s : Source} (hkeys : x.keys = y.keys) (hwidth : x.width = y.width)
    (hitems : ∀ items stop, s = .array items stop →
      x.run o 0 (.positional items stop) = y.run o 0 (.positional items stop))
    (hentries : ∀ entries stop, s = .object entries stop →
      x.run o 0 (.keyed entries) = y.run o 0 (.keyed entries)) :
    x.reader what strict o s = y.reader what strict o s := by
  cases s with
  | array items stop =>
    change x.readItems what o items stop = y.readItems what o items stop
    simp only [readItems, hitems items stop rfl, hwidth]
  | object entries stop =>
    change x.readEntries strict o entries stop = y.readEntries strict o entries stop
    simp only [readEntries, hentries entries stop rfl, hkeys]
  | null | bool | number | string | unreadable | nestedTooDeep | cut => rfl

end whole

end RecordReader

namespace Json

/-- The sources of items are the items' sources. -/
theorem sourceItems_eq_map (items : List Json) : sourceItems items = items.map source := by
  induction items with
  | nil => rfl
  | cons v rest ih => rw [sourceItems, List.map_cons, ih]

/-- The sources of fields stand under the fields' keys. -/
theorem sourceFields_eq_map (fields : Fields) :
    sourceFields fields = fields.map fun field ↦ (field.1, field.2.source) := by
  induction fields with
  | nil => rfl
  | cons field rest ih =>
    obtain ⟨key, v⟩ := field
    rw [sourceFields, List.map_cons, ih]

mutual

private theorem damage?_source : (v : Json) → v.source.damage? = none
  | .array items => by rw [source, Source.damage?, damageInItems?_source items]; rfl
  | .object fields => by rw [source, Source.damage?, damageInEntries?_source fields]; rfl
  | .null | .bool _ | .number _ | .string _ => rfl

private theorem damageInItems?_source : (items : List Json) →
    Source.damageInItems? (sourceItems items) = none
  | [] => rfl
  | v :: rest => by
    rw [sourceItems, Source.damageInItems?, damage?_source v, damageInItems?_source rest]
    rfl

private theorem damageInEntries?_source : (fields : List (String × Json)) →
    Source.damageInEntries? (sourceFields fields) = none
  | [] => rfl
  | (_, v) :: rest => by
    rw [sourceFields, Source.damageInEntries?, damage?_source v, damageInEntries?_source rest]
    rfl

end

/-- The fields of two objects have the sources of both. -/
theorem sourceFields_append (fields more : Fields) :
    sourceFields (fields ++ more) = sourceFields fields ++ sourceFields more := by
  simp only [sourceFields_eq_map, List.map_append]

/-- The form in which a record is read from a value, when the value can be a record at all. -/
def form? : Json → Option RecordForm
  | .object fields => some (.keyed (sourceFields fields))
  | .array items => some (.positional (sourceItems items) none)
  | _ => none

/-- The part of a value that a record reads as one of its fields: what an object holds under the
name, or what stands at the position in an array. -/
def part? (v : Json) (name : String) (position : Nat) : Option Json :=
  match v with
  | .object fields => Fields.get? fields name
  | .array items => items[position]?
  | _ => none

private theorem head?_under (fields : Fields) (key : String) :
    (RecordReader.under [key] (sourceFields fields)).head? =
      (Fields.get? fields key).map source := by
  induction fields with
  | nil => rfl
  | cons field rest ih =>
    obtain ⟨k, v⟩ := field
    rw [Fields.get?, List.find?_cons, sourceFields, RecordReader.under, List.filter_cons]
    by_cases hk : k = key
    · simp [hk]
    · have hb : ([key].contains k) = false := by simpa using hk
      rw [hb, beq_false_of_ne hk]
      exact ih

end Json

namespace RecordReader

variable {α : Type} {v : Json} {o : Origin} {a : α}

/-- A record that is read from a value is read from its form. -/
theorem exists_form_of_reader {x : RecordReader α} {what : String} {strict : Bool}
    (h : x.reader what strict o v.source = .ok a) :
    ∃ form, v.form? = some form ∧ x.run o 0 form = .ok a := by
  cases v with
  | array items =>
    rw [Json.source] at h
    exact ⟨_, rfl, (reader_array_eq_ok_iff.mp h).1⟩
  | object fields =>
    rw [Json.source] at h
    exact ⟨_, rfl, (reader_object_eq_ok_iff.mp h).1⟩
  | null | bool | number | string =>
    rw [Json.source] at h
    cases h

/-- A record that admits no other entries is read from an object whose keys are all fields. -/
theorem mem_keys_of_reader {x : RecordReader α} {what : String} {fields : Fields}
    (h : x.reader what true o v.source = .ok a) (hv : v = .object fields) :
    ∀ field ∈ fields, field.1 ∈ x.keys := by
  intro field hfield
  rw [hv, Json.source] at h
  refine mem_keys_of_strayEntry (reader_object_eq_ok_iff.mp h).2.1 (field.1, field.2.source) ?_
  rw [Json.sourceFields_eq_map]
  exact List.mem_map_of_mem hfield

/-- A field of a value is read from its part, or takes its default where there is none. -/
theorem part?_of_run {r : Reader α} {name what : String} {default? : Option α} {i : Nat}
    {form : RecordForm} (hform : v.form? = some form)
    (h : (fieldWith [name] r what default?).run o i form = .ok a) :
    v.part? name i = none ∧ default? = some a ∨
      ∃ w, v.part? name i = some w ∧ r o w.source = .ok a := by
  cases v with
  | array items =>
    cases hform
    rw [run_fieldWith_positional_eq_ok_iff, Json.sourceItems_eq_map, List.getElem?_map] at h
    obtain ⟨hnone, -, hd⟩ | ⟨s, hs, hr⟩ := h
    · exact .inl ⟨Option.map_eq_none_iff.mp hnone, hd⟩
    · obtain ⟨w, hw, rfl⟩ := Option.map_eq_some_iff.mp hs
      exact .inr ⟨w, hw, hr⟩
  | object fields =>
    cases hform
    have hhead := Json.head?_under fields name
    obtain ⟨hnone, hd⟩ | ⟨s, hs, hr⟩ := run_fieldWith_keyed_eq_ok_iff.mp h
    · rw [hnone] at hhead
      exact .inl ⟨Option.map_eq_none_iff.mp hhead.symm, hd⟩
    · rw [hs] at hhead
      obtain ⟨w, hw, rfl⟩ := Option.map_eq_some_iff.mp hhead.symm
      exact .inr ⟨w, hw, hr⟩
  | null | bool | number | string => cases hform

end RecordReader

/-- A source that is none of the expected kind is not read. -/
theorem Reader.mismatch_ne_ok {α : Type} {expected : String} {s : Source} {a : α} :
    mismatch expected s ≠ .ok a := by
  cases s <;> exact nofun

/-- Items are read one by one. -/
theorem Reader.items_cons_eq_ok_iff {α : Type} {r : Reader α} {o : Origin} {s : Source}
    {rest : List Source} {as : List α} :
    items r o (s :: rest) = .ok as ↔
      ∃ a more, r o s = .ok a ∧ items r o rest = .ok more ∧ as = a :: more := by
  rw [items]
  cases r o s with
  | error e => simp
  | ok a => cases items r o rest <;> simp [eq_comm]

/-- An array is read item by item. -/
theorem Reader.items_of_list {α : Type} {r : Reader α} {o : Origin} {v : Json} {as : List α}
    (h : list r o v.source = .ok as) :
    ∃ vs, v = .array vs ∧ items r o (Json.sourceItems vs) = .ok as := by
  cases v with
  | array vs =>
    refine ⟨vs, rfl, ?_⟩
    simp only [Json.source, list] at h
    generalize items r o (Json.sourceItems vs) = found at h ⊢
    cases found with
    | error e => cases h
    | ok as => exact h
  | null | bool | number | string | object =>
    rw [Json.source] at h
    cases h

end TabularReport

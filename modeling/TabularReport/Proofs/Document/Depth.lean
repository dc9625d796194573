import TabularReport.Proofs.Document.Text

/-!
# Containers that are nested too deeply

A reader of texts refuses a container that is nested too deeply. What it reads of a text it would
therefore read if no container were marked as such, so that a document that is read from the text of
a value is the document of the value.
-/

namespace TabularReport

namespace Source

private theorem bareItems_eq_map (items : List Source) : bareItems items = items.map bare := by
  induction items with
  | nil => rfl
  | cons s rest ih => rw [bareItems, List.map_cons, ih]

private theorem bareEntries_eq_map (entries : List (String × Source)) :
    bareEntries entries = entries.map fun entry ↦ (entry.1, entry.2.bare) := by
  induction entries with
  | nil => rfl
  | cons entry rest ih =>
    obtain ⟨key, s⟩ := entry
    rw [bareEntries, List.map_cons, ih]

mutual

private theorem bare_of_value : (s : Source) → {v : Json} → s.value = .ok v → s.bare = s
  | .array items stop, v, h => by
    simp only [value] at h
    split at h
    · cases h
    · cases h
    · next vs hitems => rw [bare, bareItems_of_values items hitems]
  | .object entries stop, v, h => by
    simp only [value] at h
    split at h
    · cases h
    · cases h
    · next fields hentries => rw [bare, bareEntries_of_values entries hentries]
  | .null, _, _ | .bool _, _, _ | .number _, _, _ | .string _, _, _ => rfl

private theorem bareItems_of_values : (items : List Source) → {vs : List Json} →
    itemValues items = .ok vs → bareItems items = items
  | [], _, _ => rfl
  | s :: rest, vs, h => by
    rw [itemValues] at h
    cases hs : s.value with
    | error e =>
      rw [hs] at h
      cases h
    | ok v =>
      rw [hs] at h
      cases hrest : itemValues rest with
      | error e =>
        rw [hrest] at h
        cases h
      | ok more => rw [bareItems, bare_of_value s hs, bareItems_of_values rest hrest]

private theorem bareEntries_of_values : (entries : List (String × Source)) →
    {fields : List (String × Json)} → entryValues entries = .ok fields →
    bareEntries entries = entries
  | [], _, _ => rfl
  | (key, s) :: rest, fields, h => by
    rw [entryValues] at h
    cases hs : s.value with
    | error e =>
      rw [hs] at h
      cases h
    | ok v =>
      rw [hs] at h
      cases hrest : entryValues rest with
      | error e =>
        rw [hrest] at h
        cases h
      | ok more => rw [bareEntries, bare_of_value s hs, bareEntries_of_values rest hrest]

end

mutual

private theorem damage?_bare : (s : Source) → s.bare.damage? = s.damage?
  | .array items stop => by rw [bare, damage?, damage?, damageInItems?_bareItems items]
  | .object entries stop => by rw [bare, damage?, damage?, damageInEntries?_bareEntries entries]
  | .nestedTooDeep inner => by rw [bare, damage?, damage?_bare inner]
  | .null | .bool _ | .number _ | .string _ | .unreadable _ | .cut _ => rfl

private theorem damageInItems?_bareItems : (items : List Source) →
    damageInItems? (bareItems items) = damageInItems? items
  | [] => rfl
  | s :: rest => by
    rw [bareItems, damageInItems?, damageInItems?, damage?_bare s, damageInItems?_bareItems rest]

private theorem damageInEntries?_bareEntries : (entries : List (String × Source)) →
    damageInEntries? (bareEntries entries) = damageInEntries? entries
  | [] => rfl
  | (_, s) :: rest => by
    rw [bareEntries, damageInEntries?, damageInEntries?, damage?_bare s,
      damageInEntries?_bareEntries rest]

end

end Source

namespace Reader

variable {α β : Type}

/-- Whether a reader of texts refuses a container that is nested too deeply, and reads what it reads
without the marks of such containers further in. -/
structure ReadsBare (r : Reader α) : Prop where
  refuses : ∀ inner a, r .text (.nestedTooDeep inner) ≠ .ok a
  bare : ∀ s a, r .text s = .ok a → r .text s.bare = .ok a

private theorem ReadsBare.of_value {r : Reader α}
    (h : ∀ s a, r .text s = .ok a → ∃ v, s.value = .ok v) : r.ReadsBare where
  refuses inner a hread := by
    obtain ⟨v, hv⟩ := h _ a hread
    cases hv
  bare s a hread := by
    obtain ⟨v, hv⟩ := h s a hread
    rw [s.bare_of_value hv, hread]

/-- Texts are no containers. -/
theorem readsBare_string : string.ReadsBare := by
  refine .of_value fun s a h ↦ ?_
  cases s <;> first | exact ⟨_, rfl⟩ | cases h

/-- Truth values are no containers. -/
theorem readsBare_bool : bool.ReadsBare := by
  refine .of_value fun s a h ↦ ?_
  cases s <;> first | exact ⟨_, rfl⟩ | cases h

/-- Natural numbers are no containers. -/
theorem readsBare_natural (width : Nat) (name : String) : (natural width name).ReadsBare := by
  refine .of_value fun s a h ↦ ?_
  cases s <;> first | exact ⟨_, rfl⟩ | cases h

/-- Floating-point numbers are no containers. -/
theorem readsBare_float : float.ReadsBare := by
  refine .of_value fun s a h ↦ ?_
  cases s <;> first | exact ⟨_, rfl⟩ | cases h

/-- Values are read whole. -/
theorem readsBare_json : json.ReadsBare := by
  refine .of_value fun s a h ↦ ?_
  unfold json at h
  split at h
  · next v hv => exact ⟨v, hv⟩
  · cases h

/-- What is set aside is read whole. -/
theorem readsBare_settingAside (r : Source → Except ReadError α) : (settingAside r).ReadsBare := by
  refine .of_value fun s a h ↦ ?_
  simp only [settingAside] at h
  split at h
  · cases h
  · next v hv => exact ⟨v, hv⟩

/-- Names of an enumeration hold no containers. -/
theorem readsBare_oneOf (variants : List (String × α)) : (oneOf variants).ReadsBare := by
  refine .of_value fun s a h ↦ ?_
  unfold oneOf at h
  split at h
  · exact ⟨_, rfl⟩
  · cases h
  · next key s rest stop =>
    rw [if_neg (by simp)] at h
    split at h
    · cases h
    · split at h
      · split at h
        · next hend =>
          obtain ⟨hrest, hstop⟩ := Bool.and_eq_true_iff.mp hend
          cases List.isEmpty_iff.mp hrest
          cases Option.isNone_iff_eq_none.mp hstop
          exact ⟨_, rfl⟩
        · cases h
      · exact absurd h mismatch_ne_ok
  · split at h <;> cases h
  · exact absurd h mismatch_ne_ok

/-- What may be null is read without marks when what is there is. -/
theorem ReadsBare.nullable {r : Reader α} (h : r.ReadsBare) : r.nullable.ReadsBare := by
  have hsome {s : Source} (hs : s ≠ .null) : Reader.nullable r .text s = (r .text s).map some := by
    cases s <;> first | rfl | exact absurd rfl hs
  refine ⟨fun inner a hread ↦ ?_, fun s a hread ↦ ?_⟩
  · have hne : Source.nestedTooDeep inner ≠ .null := nofun
    rw [hsome hne] at hread
    cases hr : r .text (.nestedTooDeep inner) with
    | error e =>
      rw [hr] at hread
      cases hread
    | ok b => exact h.refuses inner b hr
  · -- What is not null does not become null with the loss of its marks, for its own is refused.
    by_cases hs : s = .null
    · rw [hs] at hread ⊢
      exact hread
    · rw [hsome hs] at hread
      cases hr : r .text s with
      | error e =>
        rw [hr] at hread
        cases hread
      | ok b =>
        have hbare : s.bare ≠ .null := by
          cases s with
          | null => exact absurd rfl hs
          | nestedTooDeep inner => exact absurd hr (h.refuses inner b)
          | bool | number | string | array | object | unreadable | cut =>
            rw [Source.bare]
            exact nofun
        rw [hsome hbare, h.bare s b hr, ← hread, hr]

private theorem ReadsBare.items {r : Reader α} (h : r.ReadsBare) {sources : List Source}
    {as : List α} (hread : items r .text sources = .ok as) :
    Reader.items r .text (Source.bareItems sources) = .ok as := by
  induction sources generalizing as with
  | nil => exact hread
  | cons s rest ih =>
    obtain ⟨a, more, ha, hmore, rfl⟩ := items_cons_eq_ok_iff.mp hread
    exact items_cons_eq_ok_iff.mpr ⟨a, more, h.bare s a ha, ih hmore, rfl⟩

/-- Lists are read without marks when their items are. -/
theorem ReadsBare.list {r : Reader α} (h : r.ReadsBare) : (list r).ReadsBare where
  refuses inner a := nofun
  bare s as hread := by
    cases s with
    | array sources stop =>
      rw [Source.bare]
      simp only [Reader.list] at hread ⊢
      cases hfound : Reader.items r .text sources with
      | error e =>
        rw [hfound] at hread
        cases hread
      | ok found =>
        rw [hfound] at hread
        rw [h.items hfound]
        exact hread
    | null | bool | number | string | object | unreadable | nestedTooDeep | cut => cases hread

end Reader

/-- The form of a record without the marks of containers that are nested too deeply. -/
def RecordForm.bare : RecordForm → RecordForm
  | .positional items stop => .positional (Source.bareItems items) stop
  | .keyed entries => .keyed (Source.bareEntries entries)

namespace RecordReader

variable {α β : Type}

/-- Whether a reader of fields reads what it reads without the marks of containers that are nested
too deeply. -/
def ReadsBare (x : RecordReader α) : Prop :=
  ∀ i form a, x.run .text i form = .ok a → x.run .text i form.bare = .ok a

/-- Fields are read without marks together when each of them is. -/
theorem ReadsBare.seq {f : RecordReader (α → β)} {x : RecordReader α} (hf : f.ReadsBare)
    (hx : x.ReadsBare) : (f <*> x).ReadsBare := by
  intro i form b h
  obtain ⟨g, a, hg, ha, rfl⟩ := run_seq_eq_ok_iff.mp h
  exact run_seq_eq_ok_iff.mpr ⟨g, a, hf i form g hg, hx _ form a ha, rfl⟩

/-- A field is read without marks where its values are mapped. -/
theorem ReadsBare.map {x : RecordReader α} (hx : x.ReadsBare) (g : α → β) :
    (g <$> x).ReadsBare := by
  intro i form b h
  obtain ⟨a, ha, rfl⟩ := run_map_eq_ok_iff.mp h
  exact run_map_eq_ok_iff.mpr ⟨a, hx i form a ha, rfl⟩

private theorem under_bareEntries (keys : List String) (entries : List (String × Source)) :
    under keys (Source.bareEntries entries) = (under keys entries).map Source.bare := by
  rw [Source.bareEntries_eq_map, under, under, List.filter_map, List.map_map, List.map_map]
  rfl

/-- A field is read without marks when its reader reads without them. -/
theorem readsBare_fieldWith {r : Reader α} (h : r.ReadsBare) (keys : List String) (name : String)
    (default? : Option α) : (fieldWith keys r name default?).ReadsBare := by
  intro i form a hread
  cases form with
  | positional items stop =>
    rw [RecordForm.bare]
    rw [run_fieldWith_positional_eq_ok_iff] at hread ⊢
    rw [Source.bareItems_eq_map, List.getElem?_map]
    obtain ⟨hnone, hdefault⟩ | ⟨s, hs, hr⟩ := hread
    · exact .inl ⟨by rw [hnone]; rfl, hdefault⟩
    · exact .inr ⟨s.bare, by rw [hs]; rfl, h.bare s a hr⟩
  | keyed entries =>
    rw [RecordForm.bare]
    rw [run_fieldWith_keyed_eq_ok_iff] at hread ⊢
    rw [under_bareEntries]
    obtain ⟨hnone, hdefault⟩ | ⟨s, hs, hr⟩ := hread
    · exact .inl ⟨by rw [hnone]; rfl, hdefault⟩
    · exact .inr ⟨s.bare, by rw [hs]; rfl, h.bare s a hr⟩

private theorem strayEntry_bareEntries (keys : List String) (strict : Bool)
    (entries : List (String × Source)) :
    strayEntry keys strict (Source.bareEntries entries) = strayEntry keys strict entries := by
  rw [strayEntry, Source.bareEntries_eq_map, List.zipIdx_map, List.findSome?_map, strayEntry]
  congr 1
  funext indexed
  obtain ⟨entry, i⟩ := indexed
  simp only [Function.comp, Source.damage?_bare, Prod.map]
  rfl

/-- A record is read without marks when its fields are. -/
theorem ReadsBare.reader {x : RecordReader α} (h : x.ReadsBare) (what : String) (strict : Bool) :
    (x.reader what strict).ReadsBare where
  refuses inner a := nofun
  bare s a hread := by
    cases s with
    | array items stop =>
      rw [Source.bare]
      rw [reader_array_eq_ok_iff] at hread ⊢
      rw [Source.bareItems_eq_map, List.length_map, ← Source.bareItems_eq_map]
      exact ⟨h 0 _ a hread.1, hread.2⟩
    | object entries stop =>
      rw [Source.bare]
      rw [reader_object_eq_ok_iff] at hread ⊢
      rw [strayEntry_bareEntries]
      exact ⟨h 0 _ a hread.1, hread.2⟩
    | null | bool | number | string | unreadable | nestedTooDeep | cut => cases hread

end RecordReader

namespace Reader

variable {α : Type} {r : Reader α}

/-- A document that is read from the text of a value is that of the value with its numbers reread,
and it is read unless the text nests too deeply. -/
theorem ofText_compact (r : Reader α) {v : Json} (hv : v.IsReadable) :
    (v.reread.source.depth ≤ Source.maxDepth → r.ofText v.compact = r .text v.reread.source) ∧
      (r.ReadsBare → ∀ a, r.ofText v.compact = .ok a → r .text v.reread.source = .ok a) := by
  obtain ⟨s, hs, hpresents⟩ := Json.ofText_compact hv
  have htext : r.ofText v.compact = r .text s := by
    rw [ofText, hs]
    dsimp only
    cases r .text s <;> rfl
  refine ⟨fun hdepth ↦ ?_, fun hr a ha ↦ ?_⟩
  · rw [htext, hpresents.eq (by omega)]
  · rw [htext] at ha
    rw [← hpresents.bare]
    exact hr.bare s a ha

/-- A document that is preserved is read from its text, unless that nests too deeply, when the
numbers written for it are read back; and no other document is. -/
theorem Preserves.ofText_compact {write : α → Json} (hp : r.Preserves write) {a : α}
    (ha : r.Yields a) (hback : (write a).ReadsBack) :
    ((write a).source.depth ≤ Source.maxDepth → r.ofText (write a).compact = .ok a) ∧
      (r.ReadsBare → ∀ b, r.ofText (write a).compact = .ok b → b = a) := by
  obtain ⟨hshallow, hany⟩ := r.ofText_compact hback.isReadable
  rw [Json.reread_eq _ hback, hp a ha .text] at hshallow hany
  exact ⟨hshallow, fun hr b hb ↦ (Except.ok.inj (hany hr b hb)).symm⟩

end Reader

end TabularReport

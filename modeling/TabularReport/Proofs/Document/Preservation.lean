import TabularReport.Document.Scalars
import TabularReport.Proofs.Document.Record
import TabularReport.Proofs.Json.Number
import TabularReport.Proofs.Json.Settled
import TabularReport.Template.Document

/-!
# Documents that survive being written

A reader preserves what it yields when reading what is written for it yields it again, for all that
it yields of proper values. Readers of records do when each of their fields does, the entries of the
fields being written one after another.
-/

namespace TabularReport

mutual

/-- Whether all numbers of a value can stand in a document. -/
def Json.IsProper : Json → Prop
  | .number n => n.IsProper
  | .array items => Json.AreProper items
  | .object fields => Json.AreProperFields fields
  | .null | .bool _ | .string _ => True

/-- Whether all numbers of some values can stand in a document. -/
def Json.AreProper : List Json → Prop
  | [] => True
  | v :: rest => v.IsProper ∧ Json.AreProper rest

/-- Whether all numbers of some fields can stand in a document. -/
def Json.AreProperFields : List (String × Json) → Prop
  | [] => True
  | (_, v) :: rest => v.IsProper ∧ Json.AreProperFields rest

end

namespace Json

/-- The items of a proper array are proper. -/
theorem areProper_iff {items : List Json} : AreProper items ↔ ∀ v ∈ items, v.IsProper := by
  induction items with
  | nil => simp [AreProper]
  | cons v rest ih => rw [AreProper, ih, List.forall_mem_cons]

/-- The fields of a proper object are proper. -/
theorem areProperFields_iff {fields : Fields} :
    AreProperFields fields ↔ ∀ p ∈ fields, p.2.IsProper := by
  induction fields with
  | nil => simp [AreProperFields]
  | cons p rest ih => rw [AreProperFields, ih, List.forall_mem_cons]

/-- The parts of a proper value are proper. -/
theorem IsProper.part {v w : Json} (hv : v.IsProper) {name : String} {i : Nat}
    (h : v.part? name i = some w) : w.IsProper := by
  cases v with
  | array items => exact areProper_iff.mp hv w (List.mem_of_getElem? h)
  | object fields =>
    obtain ⟨p, hp, rfl⟩ := Option.map_eq_some_iff.mp h
    exact areProperFields_iff.mp hv p (List.mem_of_find?_eq_some hp)
  | null | bool | number | string => cases h

end Json

namespace Reader

variable {α β : Type}

/-- What a reader can yield: what it reads from some proper value. -/
def Yields (r : Reader α) (a : α) : Prop := ∃ o, ∃ v : Json, v.IsProper ∧ r o v.source = .ok a

/-- Whether a value is read as `a` wherever it comes from. -/
def Restores (r : Reader α) (v : Json) (a : α) : Prop := ∀ o, r o v.source = .ok a

/-- Whether all that a reader can yield is read again from what is written for it. -/
def Preserves (r : Reader α) (write : α → Json) : Prop := ∀ a, r.Yields a → r.Restores (write a) a

/-- Whether nothing but null is written as null. -/
def WritesNonNull (r : Reader α) (write : α → Json) : Prop :=
  ∀ o (v : Json) a, v.IsProper → v ≠ .null → r o v.source = .ok a → write a ≠ .null

private theorem nullable_eq {r : Reader α} {o : Origin} {v : Json} (hv : v ≠ .null) :
    nullable r o v.source = (r o v.source).map some := by
  cases v with
  | null => exact absurd rfl hv
  | bool | number | string | array | object => rfl

private theorem nullable_eq_some {r : Reader α} {o : Origin} {v : Json} {a : α}
    (h : nullable r o v.source = .ok (some a)) : v ≠ .null ∧ r o v.source = .ok a := by
  by_cases hv : v = .null
  · subst hv
    cases h
  · rw [nullable_eq hv] at h
    refine ⟨hv, ?_⟩
    cases hr : r o v.source with
    | error e =>
      rw [hr] at h
      cases h
    | ok b =>
      rw [hr] at h
      cases h
      rfl

/-- Texts are preserved. -/
theorem preserves_string : string.Preserves .string := fun _ _ _ ↦ rfl

/-- Truth values are preserved. -/
theorem preserves_bool : bool.Preserves .bool := fun _ _ _ ↦ rfl

/-- Natural numbers that fit are preserved. -/
theorem preserves_natural (width : Nat) (name : String) :
    (natural width name).Preserves .ofNat := by
  rintro n ⟨o, v, -, h⟩ o'
  cases v with
  | number m =>
    cases m with
    | float x => cases h
    | int i =>
      simp only [Json.source, natural] at h
      split at h
      · next hi =>
        cases h
        have hnonneg : 0 ≤ i := of_decide_eq_true (Bool.and_eq_true_iff.mp hi).1
        have hback : ((i.toNat : Nat) : Int) = i := Int.toNat_of_nonneg hnonneg
        simp only [Json.ofNat, Json.source, natural, hback, hi, if_true]
      · cases h
  | null | bool | string | array | object =>
    rw [Json.source] at h
    cases h

/-- Finite floating-point numbers are preserved. -/
theorem preserves_float : float.Preserves .ofFloat := by
  rintro x ⟨o, v, hv, h⟩ o'
  cases v with
  | number n =>
    cases h
    have hfinite : n.toFloat.isFinite = true := Number.IsProper.isFinite_toFloat hv
    rw [Json.ofFloat, if_pos hfinite]
    rfl
  | null | bool | string | array | object =>
    rw [Json.source] at h
    cases h

/-- Values are preserved. -/
theorem preserves_json : json.Preserves id := by
  rintro w ⟨o, v, -, h⟩ o'
  unfold json at h
  split at h
  · next u hu =>
    cases h
    have hw : w.source.value = .ok w := Json.isSettled_of_value hu
    simp only [json, id, hw]
  · cases h

/-- Named values are read in the order of their names. -/
theorem isSorted_of_fields {o : Origin} {s : Source} {named : Fields}
    (h : fields o s = .ok named) : Fields.IsSorted named := by
  cases s with
  | object entries stop =>
    simp only [Reader.fields, Source.value] at h
    cases he : Source.entryValues entries with
    | error cause => simp [he] at h
    | ok pairs =>
      cases stop with
      | some cause => simp [he] at h
      | none =>
        simp only [he] at h
        cases h
        exact Fields.isSorted_ofList pairs
  | null | bool | number | string | array | unreadable | nestedTooDeep | cut => cases h

/-- Named values are preserved. -/
theorem preserves_fields : fields.Preserves .object := by
  rintro fs ⟨o, v, -, h⟩ o'
  cases v with
  | object fields =>
    obtain ⟨pairs, hpairs, hsettled⟩ := Json.exists_entryValues fields
    simp only [Json.source, Reader.fields, Source.value, hpairs] at h
    cases h
    have hobject : (Json.object (Fields.ofList pairs)).IsSettled :=
      Json.isSettled_object (Fields.isSorted_ofList pairs) fun p hp ↦
        hsettled p (Fields.mem_of_mem_ofList hp)
    rw [Json.IsSettled, Json.source] at hobject
    simp only [Json.source, Reader.fields, hobject]
  | null | bool | number | string | array =>
    rw [Json.source] at h
    cases h

/-- No text is written as null. -/
theorem writesNonNull_string : string.WritesNonNull .string := fun _ _ _ _ _ _ ↦ nofun

/-- No truth value is written as null. -/
theorem writesNonNull_bool : bool.WritesNonNull .bool := fun _ _ _ _ _ _ ↦ nofun

/-- No natural number is written as null. -/
theorem writesNonNull_natural (width : Nat) (name : String) :
    (natural width name).WritesNonNull .ofNat := fun _ _ _ _ _ _ ↦ nofun

/-- No finite number is written as null. -/
theorem writesNonNull_float : float.WritesNonNull .ofFloat := by
  intro o v x hv _ h
  have hback := preserves_float x ⟨o, v, hv, h⟩ o
  rintro hnull
  rw [hnull] at hback
  cases hback

/-- No other value is written as null. -/
theorem writesNonNull_json : json.WritesNonNull id := by
  rintro o v w - hv h rfl
  cases v with
  | null => exact hv rfl
  | bool | number | string => cases h
  | array items =>
    obtain ⟨ws, hws, -⟩ := Json.exists_itemValues items
    simp only [json, Json.source, Source.value, hws] at h
    cases h
  | object fields =>
    obtain ⟨pairs, hpairs, -⟩ := Json.exists_entryValues fields
    simp only [json, Json.source, Source.value, hpairs] at h
    cases h

/-- Names of an enumeration are preserved when each value has a name of its own. -/
theorem preserves_oneOf {variants : List (String × α)} {spelling : α → String}
    (h : ∀ a, variantOf variants (spelling a) = .ok a) :
    (oneOf variants).Preserves fun a ↦ .string (spelling a) := fun a _ _ ↦ h a

/-- A value that is set aside is read as it is. -/
theorem settingAside_source (r : Source → Except ReadError α) (o : Origin) (v : Json) :
    settingAside r o v.source = r v.source := by
  obtain ⟨w, hw, -⟩ := v.exists_value_source
  cases o <;> simp only [settingAside, hw]

/-- Lists are preserved when their items are. -/
theorem Preserves.list {r : Reader α} {write : α → Json} (h : r.Preserves write) :
    (list r).Preserves fun as ↦ .array (as.map write) := by
  rintro as ⟨o, v, hv, has⟩ o'
  obtain ⟨vs, rfl, hitems⟩ := items_of_list has
  have hvs : ∀ v ∈ vs, v.IsProper := Json.areProper_iff.mp hv
  suffices hback : items r o' (Json.sourceItems (as.map write)) = .ok as by
    simp only [Json.source, Reader.list, hback]
  clear has hv
  induction vs generalizing as with
  | nil =>
    cases hitems
    rfl
  | cons v rest ih =>
    rw [Json.sourceItems, items_cons_eq_ok_iff] at hitems
    obtain ⟨a, more, ha, hmore, rfl⟩ := hitems
    rw [List.forall_mem_cons] at hvs
    rw [List.map_cons, Json.sourceItems, items_cons_eq_ok_iff]
    exact ⟨a, more, h a ⟨o, v, hvs.1, ha⟩ o', ih more hmore hvs.2, rfl⟩

end Reader

namespace RecordReader

variable {α β : Type}

/-- What a reader of fields can yield: what it reads from the form of some proper value. -/
def Yields (x : RecordReader α) (a : α) : Prop :=
  ∃ o i, ∃ v : Json, ∃ form, v.IsProper ∧ v.form? = some form ∧ x.run o i form = .ok a

/-- Whether entries under the keys of a reader of fields are read as `a`, whatever stands before and
after them under other keys. -/
structure Restores (x : RecordReader α) (entries : Fields) (a : α) : Prop where
  keys : ∀ p ∈ entries, p.1 ∈ x.keys
  run : ∀ o i (before after : Fields), (∀ p ∈ before ++ after, p.1 ∉ x.keys) →
    x.run o i (.keyed (Json.sourceFields (before ++ entries ++ after))) = .ok a

/-- Whether all that a reader of fields can yield is read again from the entries written for it. -/
def Preserves (x : RecordReader α) (write : α → Fields) : Prop :=
  ∀ a, x.Yields a → x.Restores (write a) a

/-- Whether all that a reader of fields can yield is read again from some entries that `written`
tells. -/
def Keeps (x : RecordReader α) (written : α → Fields → Prop) : Prop :=
  ∀ a, x.Yields a → ∃ entries, written a entries ∧ x.Restores entries a

/-- Fields that are restored one by one are restored together. -/
theorem Restores.seq {f : RecordReader (α → β)} {x : RecordReader α} {g : α → β} {a : α}
    {entries more : Fields} (hf : f.Restores entries g) (hx : x.Restores more a)
    (hkeys : ∀ key ∈ x.keys, key ∉ f.keys) : (f <*> x).Restores (entries ++ more) (g a) where
  keys p hp := by
    rcases List.mem_append.mp hp with hp | hp
    · exact List.mem_append_left _ (hf.keys p hp)
    · exact List.mem_append_right _ (hx.keys p hp)
  run o i before after hothers := by
    have hother {p : String × Json} (hp : p ∈ before ++ after) : p.1 ∉ f.keys ∧ p.1 ∉ x.keys :=
      not_or.mp fun h ↦ hothers p hp (List.mem_append.mpr h)
    refine run_seq_eq_ok_iff.mpr ⟨g, a, ?_, ?_, rfl⟩
    · have hrun := hf.run o i before (more ++ after) fun p hp ↦ ?_
      · simpa only [List.append_assoc] using hrun
      · rcases List.mem_append.mp hp with hp | hp
        · exact (hother (List.mem_append_left _ hp)).1
        · rcases List.mem_append.mp hp with hp | hp
          · exact hkeys p.1 (hx.keys p hp)
          · exact (hother (List.mem_append_right _ hp)).1
    · have hrun := hx.run o (i + f.width) (before ++ entries) after fun p hp ↦ ?_
      · simpa only [List.append_assoc] using hrun
      · rcases List.mem_append.mp hp with hp | hp
        · rcases List.mem_append.mp hp with hp | hp
          · exact (hother (List.mem_append_left _ hp)).2
          · exact fun h ↦ hkeys p.1 h (hf.keys p hp)
        · exact (hother (List.mem_append_right _ hp)).2

/-- A field that is restored is restored where its values are mapped. -/
theorem Restores.map {x : RecordReader α} {a : α} {entries : Fields} (g : α → β)
    (hx : x.Restores entries a) : (g <$> x).Restores entries (g a) where
  keys := hx.keys
  run o i before after hothers :=
    run_map_eq_ok_iff.mpr ⟨a, hx.run o i before after hothers, rfl⟩

/-- A record is read again from an object of its entries. -/
theorem Restores.reader {x : RecordReader α} {a : α} {entries : Fields}
    (hx : x.Restores entries a) (what : String) (strict : Bool) :
    (x.reader what strict).Restores (.object entries) a := by
  intro o
  rw [Json.source]
  refine reader_object_eq_ok_iff.mpr ⟨?_, ?_, rfl⟩
  · simpa using hx.run o 0 [] [] (by simp)
  · refine strayEntry_eq_none fun entry hentry ↦ ?_
    rw [Json.sourceFields_eq_map] at hentry
    obtain ⟨p, hp, rfl⟩ := List.mem_map.mp hentry
    exact hx.keys p hp

/-- A field is restored from one entry under any of its names. -/
theorem restores_fieldWith {keys : List String} {r : Reader α} {v : Json} {a : α} {key : String}
    (hkey : key ∈ keys) (hr : r.Restores v a) (name : String) (default? : Option α) :
    (fieldWith keys r name default?).Restores [(key, v)] a where
  keys p hp := by
    cases List.mem_singleton.mp hp
    exact hkey
  run o i before after hothers := by
    have hnone {fields : Fields} (h : ∀ p ∈ fields, p ∈ before ++ after) :
        under keys (Json.sourceFields fields) = [] := by
      refine under_eq_nil fun entry hentry ↦ ?_
      rw [Json.sourceFields_eq_map] at hentry
      obtain ⟨p, hp, rfl⟩ := List.mem_map.mp hentry
      exact hothers p (h p hp)
    have hone : under keys (Json.sourceFields [(key, v)]) = [v.source] := by
      simp [under, Json.sourceFields, hkey]
    refine run_fieldWith_keyed_eq_ok_iff.mpr (.inr ⟨v.source, ?_, hr o⟩)
    rw [Json.sourceFields_append, Json.sourceFields_append, under_append, under_append, hone,
      hnone fun p hp ↦ List.mem_append_left _ hp, hnone fun p hp ↦ List.mem_append_right _ hp]
    rfl

private theorem restores_default {keys : List String} (r : Reader α) (a : α) (name : String) :
    (fieldWith keys r name (some a)).Restores [] a where
  keys p hp := nomatch hp
  run o i before after hothers := by
    refine run_fieldWith_keyed_eq_ok_iff.mpr (.inl ⟨under_eq_nil fun entry hentry ↦ ?_, rfl⟩)
    rw [Json.sourceFields_eq_map] at hentry
    obtain ⟨p, hp, rfl⟩ := List.mem_map.mp hentry
    exact hothers p (by simpa using hp)

private theorem exists_of_mem_parts {v : Json} {form : RecordForm} (hv : v.IsProper)
    (hform : v.form? = some form) {s : Source} (hs : s ∈ parts form) :
    ∃ w : Json, w.IsProper ∧ s = w.source := by
  cases v with
  | array items =>
    cases hform
    rw [parts, Json.sourceItems_eq_map] at hs
    obtain ⟨w, hw, rfl⟩ := List.mem_map.mp hs
    exact ⟨w, Json.areProper_iff.mp hv w hw, rfl⟩
  | object fields =>
    cases hform
    rw [parts, Json.sourceFields_eq_map, List.map_map] at hs
    obtain ⟨p, hp, rfl⟩ := List.mem_map.mp hs
    exact ⟨p.2, Json.areProperFields_iff.mp hv p hp, rfl⟩
  | null | bool | number | string => cases hform

private theorem Yields.fieldWith {keys : List String} {r : Reader α} {name : String}
    {default? : Option α} {a : α} (h : (fieldWith keys r name default?).Yields a) :
    default? = some a ∨ r.Yields a := by
  obtain ⟨o, i, v, form, hv, hform, hrun⟩ := h
  refine (run_fieldWith_eq_ok hrun).imp_right fun ⟨s, hs, hr⟩ ↦ ?_
  obtain ⟨w, hw, rfl⟩ := exists_of_mem_parts hv hform hs
  exact ⟨o, w, hw, hr⟩

/-- What a record yields, its fields yield. -/
theorem Yields.reader {x : RecordReader α} {what : String} {strict : Bool} {a : α}
    (h : (x.reader what strict).Yields a) : x.Yields a := by
  obtain ⟨o, v, hv, hread⟩ := h
  obtain ⟨form, hform, hrun⟩ := exists_form_of_reader hread
  exact ⟨o, 0, v, form, hv, hform, hrun⟩

private theorem Yields.seq {f : RecordReader (α → β)} {x : RecordReader α} {b : β}
    (h : (f <*> x).Yields b) : ∃ g a, f.Yields g ∧ x.Yields a ∧ g a = b := by
  obtain ⟨o, i, v, form, hv, hform, hrun⟩ := h
  obtain ⟨g, a, hg, ha, hb⟩ := run_seq_eq_ok_iff.mp hrun
  exact ⟨g, a, ⟨o, i, v, form, hv, hform, hg⟩, ⟨o, _, v, form, hv, hform, ha⟩, hb⟩

/-- A field that must be there is preserved when its reader preserves. -/
theorem preserves_required {r : Reader α} {write : α → Json} (h : r.Preserves write)
    (name : String) : (required name r).Preserves fun a ↦ [(name, write a)] := by
  intro a ha
  rcases ha.fieldWith with hd | hr
  · cases hd
  · exact restores_fieldWith (List.mem_singleton_self _) (h a hr) name none

/-- A field with several names is preserved when its reader preserves. -/
theorem preserves_named {r : Reader α} {write : α → Json} (h : r.Preserves write)
    {keys : List String} {key : String} (hkey : key ∈ keys) (name : String) :
    (fieldWith keys r name none).Preserves fun a ↦ [(key, write a)] := by
  intro a ha
  rcases ha.fieldWith with hd | hr
  · cases hd
  · exact restores_fieldWith hkey (h a hr) name none

/-- A field with a default is preserved when its reader preserves and restores the default. -/
theorem preserves_defaulted {r : Reader α} {write : α → Json} (h : r.Preserves write)
    (name : String) {default : α} (hdefault : r.Restores (write default) default) :
    (defaulted name r default).Preserves fun a ↦ [(name, write a)] := by
  intro a ha
  refine restores_fieldWith (List.mem_singleton_self _) ?_ name (some default)
  rcases ha.fieldWith with hd | hr
  · cases hd
    exact hdefault
  · exact h a hr

/-- A list that is written only when it is not empty is preserved when its reader preserves. -/
theorem preserves_unlessEmpty {r : Reader (List α)} {write : List α → Json} (h : r.Preserves write)
    (name : String) :
    (defaulted name r []).Preserves fun as ↦ if as.isEmpty then [] else [(name, write as)] := by
  intro as has
  cases as with
  | nil => exact restores_default _ _ _
  | cons a rest =>
    rcases has.fieldWith with hd | hr
    · cases hd
    · exact restores_fieldWith (List.mem_singleton_self _) (h _ hr) name _

/-- A list whose items are written only when there are any is preserved when its items are. -/
theorem preserves_ifAny {r : Reader α} {write : α → Json} (h : r.Preserves write) (name : String) :
    (defaulted name (Reader.list r) []).Preserves fun as ↦
      Json.entryIfAny name (as.map write) := by
  simpa only [Json.entryIfAny, List.isEmpty_map] using preserves_unlessEmpty h.list name

/-- A field that may be left out or null is preserved when its reader preserves and what is there is
not written as null. -/
theorem preserves_optional {r : Reader α} {write : α → Json} (h : r.Preserves write)
    (hnull : r.WritesNonNull write) (name : String) :
    (optional name r).Preserves fun a ↦ Json.entryIfSome name write a := by
  intro a? ha
  cases a? with
  | none => exact restores_default _ _ _
  | some a =>
    rcases ha.fieldWith with hd | ⟨o, v, hv, hr⟩
    · cases hd
    · obtain ⟨hne, hread⟩ := Reader.nullable_eq_some hr
      refine restores_fieldWith (List.mem_singleton_self _) (fun o' ↦ ?_) name _
      rw [Reader.nullable_eq (hnull o v a hv hne hread), h a ⟨o, v, hv, hread⟩ o']
      rfl

/-- A field that is mapped keeps what is written for it. -/
theorem Keeps.map {g : α → β} {x : RecordReader α} {write : α → Fields}
    {written : β → Fields → Prop} (hwritten : ∀ a, written (g a) (write a))
    (hx : x.Preserves write) : (g <$> x).Keeps written := by
  rintro b ⟨o, i, v, form, hv, hform, hrun⟩
  obtain ⟨a, ha, rfl⟩ := run_map_eq_ok_iff.mp hrun
  exact ⟨write a, hwritten a, (hx a ⟨o, i, v, form, hv, hform, ha⟩).map g⟩

/-- A field after others is written after what is written for them. -/
theorem Keeps.seq {f : RecordReader (α → β)} {x : RecordReader α} {write : α → Fields}
    {written : β → Fields → Prop}
    (hf : f.Keeps fun g entries ↦ ∀ a, written (g a) (entries ++ write a)) (hx : x.Preserves write)
    (hkeys : ∀ key ∈ x.keys, key ∉ f.keys) : (f <*> x).Keeps written := by
  intro b hb
  obtain ⟨g, a, hg, ha, rfl⟩ := hb.seq
  obtain ⟨entries, hentries, hrestores⟩ := hf g hg
  exact ⟨_, hentries a, hrestores.seq (hx a ha) hkeys⟩

/-- A record is preserved when the entries that are kept for its fields are written. -/
theorem Keeps.reader {x : RecordReader α} {write : α → Json}
    (h : x.Keeps fun a entries ↦ write a = .object entries) (what : String) (strict : Bool) :
    (x.reader what strict).Preserves write := by
  intro a ha
  obtain ⟨entries, hwrite, hrestores⟩ := h a (Yields.reader ha)
  rw [hwrite]
  exact hrestores.reader what strict

end RecordReader

end TabularReport

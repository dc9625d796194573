import TabularReport.Document.Tagged
import TabularReport.Proofs.Document.Preservation

/-!
# Tagged records survive being written

A record that is chosen by a tag is written with the tag before its entries.
-/

namespace TabularReport.Reader

variable {α : Type} {type tag : String}

private theorem aside_source (o : Origin) (v : Json) : aside o v.source = .ok () := by
  obtain ⟨w, hw, -⟩ := v.exists_value_source
  cases o <;> simp only [aside, hw]

private theorem asideAll_sourceItems (o : Origin) (items : List Json) :
    asideAll o (Json.sourceItems items) = .ok () := by
  induction items with
  | nil => rfl
  | cons v rest ih => rw [Json.sourceItems, asideAll, aside_source, ih]

private theorem exists_name_of_tagName {variants : List (String × α)} {s : Source} {a : α}
    (h : tagName variants s = .ok a) : ∃ name, variantOf variants name = .ok a := by
  unfold tagName at h
  split at h
  · exact ⟨_, h⟩
  · exact absurd h mismatch_ne_ok

/-- A variant that a name is read as is one of the variants. -/
theorem mem_of_variantOf {variants : List (String × α)} {name : String} {a : α}
    (h : variantOf variants name = .ok a) : ∃ key, (key, a) ∈ variants := by
  unfold variantOf at h
  split at h
  · next key b hfind =>
    cases h
    exact ⟨key, List.mem_of_find?_eq_some hfind⟩
  · cases h

private theorem separateTag_sourceFields {β : Type} {variants : List (String × β)} {o : Origin}
    {fields : Fields} (h : ∀ p ∈ fields, p.1 ≠ tag) (found : Option β) :
    separateTag tag variants o (Json.sourceFields fields) found =
      .ok (found, Json.sourceFields fields) := by
  induction fields with
  | nil => rfl
  | cons p rest ih =>
    rw [List.forall_mem_cons] at h
    rw [Json.sourceFields, separateTag, if_neg h.1, aside_source, ih h.2]

private theorem separateTag_eq_ok {β : Type} {variants : List (String × β)} {o : Origin}
    {fields : Fields} {found : Option β} {b : β} {rest : List (String × Source)}
    (h : separateTag tag variants o (Json.sourceFields fields) found = .ok (some b, rest)) :
    (found = some b ∨ ∃ name, variantOf variants name = .ok b) ∧
      ∃ more : Fields, (∀ p ∈ more, p ∈ fields) ∧ rest = Json.sourceFields more := by
  induction fields generalizing found rest with
  | nil =>
    cases h
    exact ⟨.inl rfl, [], nofun, rfl⟩
  | cons p fields ih =>
    obtain ⟨key, v⟩ := p
    rw [Json.sourceFields, separateTag] at h
    split at h
    · split at h
      · cases h
      · split at h
        · cases h
        · next a ha =>
          obtain ⟨hb, more, hmore, rfl⟩ := ih h
          refine ⟨.inr ?_, more, fun p hp ↦ List.mem_cons_of_mem _ (hmore p hp), rfl⟩
          rcases hb with hb | hb
          · cases hb
            exact exists_name_of_tagName ha
          · exact hb
    · split at h
      · cases h
      · split at h
        · cases h
        · next found' rest' hrest =>
          cases h
          obtain ⟨hb, more, hmore, rfl⟩ := ih hrest
          refine ⟨hb, (key, v) :: more, fun p hp ↦ ?_, rfl⟩
          rcases List.mem_cons.mp hp with rfl | hp
          · exact List.mem_cons_self ..
          · exact List.mem_cons_of_mem _ (hmore p hp)

/-- What a tagged record yields, one of its variants yields. -/
theorem Yields.tagged {variants : List (String × Reader α)} {a : α}
    (h : (tagged type tag variants).Yields a) :
    ∃ r name, variantOf variants name = .ok r ∧ r.Yields a := by
  obtain ⟨o, v, hv, h⟩ := h
  cases v with
  | object fields =>
    simp only [Json.source, Reader.tagged] at h
    split at h
    · cases h
    · next hstop => cases hstop
    · cases h
    · next r rest hseparate _ =>
      obtain ⟨hr | ⟨name, hname⟩, more, hmore, rfl⟩ := separateTag_eq_ok hseparate
      · cases hr
      · have hproper : (Json.object more).IsProper :=
          Json.areProperFields_iff.mpr fun p hp ↦ Json.areProperFields_iff.mp hv p (hmore p hp)
        exact ⟨r, name, hname, _, _, hproper, h⟩
  | array items =>
    cases items with
    | nil => cases h
    | cons v rest =>
      simp only [Json.source, Json.sourceItems, Reader.tagged, asideAll_sourceItems] at h
      split at h
      · cases h
      · next r hr =>
        obtain ⟨name, hname⟩ := exists_name_of_tagName hr
        have hproper : (Json.array rest).IsProper :=
          Json.areProper_iff.mpr fun w hw ↦
            Json.areProper_iff.mp hv w (List.mem_cons_of_mem _ hw)
        exact ⟨r, name, hname, _, _, hproper, h⟩
  | null | bool | number | string =>
    rw [Json.source] at h
    cases h

end TabularReport.Reader

namespace TabularReport.RecordReader

open Reader

variable {α : Type} {write : α → Json} {type tag what : String} {strict : Bool}
  {variants : List (String × Reader α)} {x : RecordReader α}

/-- A variant whose entries are written after its tag is read again as a tagged record. -/
theorem Keeps.tagged (name : String)
    (h : x.Keeps fun a entries ↦ write a = .object ((tag, .string name) :: entries))
    (hname : variantOf variants name = .ok (x.reader what strict)) (htag : tag ∉ x.keys) {a : α}
    (ha : (x.reader what strict).Yields a) :
    (Reader.tagged type tag variants).Restores (write a) a := by
  obtain ⟨entries, hwrite, hrestores⟩ := h a (Yields.reader ha)
  have hentries : ∀ p ∈ entries, p.1 ≠ tag := by
    rintro p hp rfl
    exact htag (hrestores.keys p hp)
  intro o
  rw [hwrite]
  simp only [Json.source, Json.sourceFields, Reader.tagged, separateTag, if_true, tagName, hname,
    separateTag_sourceFields hentries]
  exact hrestores.reader what strict .setAside

end TabularReport.RecordReader

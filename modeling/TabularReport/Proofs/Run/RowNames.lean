import Mathlib.Data.List.Nodup
import TabularReport.Proofs.Json.Settled
import TabularReport.Proofs.Run.Paging
import TabularReport.Proofs.Statement.Acceptance

/-!
# Names that storage has folded

Storage may deliver the values of a report under its names in another letter case. They come back
under the names themselves, value by value, unless a key misleads: it is that of a column that
serves paging, or a column of another name is stored under it.
-/

namespace TabularReport

private theorem Fields.perm_keys_ofList {pairs : List (String × Json)}
    (h : (pairs.map (·.1)).Nodup) :
    ((ofList pairs).map (·.1)).Perm (pairs.map (·.1)) := by
  have hsorted := (isSorted_ofList pairs).nodup_keys
  have hperm : (ofList pairs).Perm pairs :=
    (List.perm_ext_iff_of_nodup (List.Nodup.of_map _ hsorted) (List.Nodup.of_map _ h)).mpr
      fun _ ↦ mem_ofList h
  exact hperm.map _

namespace ReportTemplate

/-- Whether a row holds one value for each name that a report shows, under the name in some letter
case, and nothing else. -/
def Delivers (t : ReportTemplate) (row : Fields) : Prop :=
  (row.map fun p ↦ Text.lower p.1).Perm (t.shownNames.map Text.lower)

/-- Whether values come back under the names of a report, each under the name that its key was a
variant of, and nothing else does. -/
structure Restores (t : ReportTemplate) (row shaped : Fields) : Prop where
  names : (shaped.map (·.1)).Perm t.shownNames
  values : ∀ p ∈ row, ∀ name ∈ t.shownNames, Text.sameIgnoringCase p.1 name = true →
    Fields.get? shaped name = some p.2

/-- Whether a key is taken for another name than one that it is a variant of: it is no declared name
itself, and the first column that is stored under it goes by that other name. -/
def IsTaken (t : ReportTemplate) (key : String) : Prop :=
  key ∉ t.declaredNames ∧ ∃ c, t.config.columns.find? (·.storageName == key) = some c ∧
    Text.sameIgnoringCase c.name key = false

/-- Whether a key is not taken for a name that it is a variant of, but for another name or for a
column that serves paging. -/
def Misleads (t : ReportTemplate) (key : String) : Prop :=
  key = totalCountColumn ∨ key = pageRowColumn ∨ t.IsTaken key

variable {t : ReportTemplate} {row : Fields}

private theorem eq_of_lower_eq (hfold : (t.declaredNames.map Text.lower).Nodup) {a b : String}
    (ha : a ∈ t.declaredNames) (hb : b ∈ t.declaredNames) (h : Text.lower a = Text.lower b) :
    a = b :=
  List.inj_on_of_nodup_map hfold ha hb h

private theorem externalName_eq_iff (hfold : (t.declaredNames.map Text.lower).Nodup)
    {key name : String} (hname : name ∈ t.declaredNames) (hkey : Text.lower key = Text.lower name) :
    t.externalName key = name ↔ ¬ t.IsTaken key := by
  unfold externalName IsTaken
  by_cases hd : key ∈ t.declaredNames
  · cases eq_of_lower_eq hfold hd hname hkey
    simp [hd]
  · have hcontains : t.declaredNames.contains key = false := by simpa using hd
    rw [hcontains]
    cases hc : t.config.columns.find? (·.storageName == key) with
    | some c =>
      have hdeclared : c.name ∈ t.declaredNames :=
        List.mem_append_left _ (List.mem_map_of_mem (List.mem_of_find?_eq_some hc))
      have hiff : c.name = name ↔ Text.lower c.name = Text.lower key :=
        ⟨fun h ↦ h ▸ hkey.symm, fun h ↦ eq_of_lower_eq hfold hdeclared hname (h.trans hkey)⟩
      simp [hd, hiff, Text.sameIgnoringCase]
    | none =>
      have hfound : t.declaredNames.find? (Text.sameIgnoringCase · key) = some name := by
        rw [← find?_of_nodup hfold hname]
        simp only [Text.sameIgnoringCase, hkey]
      simp [hfound]

private theorem nodup_lower_shownNames (hfold : (t.declaredNames.map Text.lower).Nodup) :
    (t.shownNames.map Text.lower).Nodup :=
  hfold.sublist (t.shownNames_sublist.map _)

private theorem Delivers.exists_name (h : t.Delivers row) {p : String × Json} (hp : p ∈ row) :
    ∃ name ∈ t.shownNames, Text.lower p.1 = Text.lower name := by
  have hm : Text.lower p.1 ∈ t.shownNames.map Text.lower :=
    h.mem_iff.mp (List.mem_map_of_mem (f := fun p : String × Json ↦ Text.lower p.1) hp)
  obtain ⟨name, hn, he⟩ := List.mem_map.mp hm
  exact ⟨name, hn, he.symm⟩

private theorem Delivers.exists_key (h : t.Delivers row) {name : String}
    (hn : name ∈ t.shownNames) :
    ∃ p ∈ row, Text.lower p.1 = Text.lower name := by
  have hm : Text.lower name ∈ row.map fun p ↦ Text.lower p.1 :=
    h.mem_iff.mpr (List.mem_map_of_mem hn)
  exact List.mem_map.mp hm

private theorem Delivers.perm_externalNames (h : t.Delivers row)
    (hfold : (t.declaredNames.map Text.lower).Nodup) (hclear : ∀ p ∈ row, ¬ t.IsTaken p.1) :
    (row.map fun p ↦ t.externalName p.1).Perm t.shownNames := by
  have hname {p : String × Json} (hp : p ∈ row) {name : String} (hn : name ∈ t.shownNames)
      (hv : Text.lower p.1 = Text.lower name) : t.externalName p.1 = name :=
    (externalName_eq_iff hfold (t.shownNames_sublist.mem hn) hv).mpr (hclear p hp)
  have hlower : (row.map fun p ↦ t.externalName p.1).map Text.lower =
      row.map fun p ↦ Text.lower p.1 := by
    rw [List.map_map]
    refine List.map_congr_left fun p hp ↦ ?_
    obtain ⟨name, hn, hv⟩ := h.exists_name hp
    exact (congrArg Text.lower (hname hp hn hv)).trans hv.symm
  have hshown := nodup_lower_shownNames hfold
  have hnodup : ((row.map fun p ↦ t.externalName p.1).map Text.lower).Nodup := by
    rw [hlower]
    exact h.nodup_iff.mpr hshown
  refine (List.perm_ext_iff_of_nodup (List.Nodup.of_map _ hnodup)
    (List.Nodup.of_map _ hshown)).mpr fun name ↦ ⟨fun hm ↦ ?_, fun hm ↦ ?_⟩
  · obtain ⟨p, hp, rfl⟩ := List.mem_map.mp hm
    obtain ⟨name, hn, hv⟩ := h.exists_name hp
    rwa [hname hp hn hv]
  · obtain ⟨p, hp, hv⟩ := h.exists_key hm
    exact List.mem_map.mpr ⟨p, hp, hname hp hm hv⟩

private theorem Delivers.restores (h : t.Delivers row)
    (hfold : (t.declaredNames.map Text.lower).Nodup) (hclear : ∀ p ∈ row, ¬ t.Misleads p.1) :
    t.Restores row (t.shapeRow row) := by
  simp only [Misleads, not_or] at hclear
  have hkept : row.filter (fun p ↦ p.1 ≠ totalCountColumn && p.1 ≠ pageRowColumn) = row :=
    List.filter_eq_self.mpr fun p hp ↦ by simp [(hclear p hp).1, (hclear p hp).2.1]
  have hshaped : t.shapeRow row =
      Fields.ofList (row.map fun p ↦ (t.externalName p.1, p.2)) :=
    congrArg (fun kept : Fields ↦ Fields.ofList
      (kept.map fun p : String × Json ↦ (t.externalName p.1, p.2))) hkept
  have hkeys : (row.map fun p ↦ (t.externalName p.1, p.2)).map (·.1) =
      row.map fun p ↦ t.externalName p.1 := List.map_map
  have hnames := h.perm_externalNames hfold fun p hp ↦ (hclear p hp).2.2
  have hnodup : ((row.map fun p ↦ (t.externalName p.1, p.2)).map (·.1)).Nodup := by
    rw [hkeys]
    exact hnames.nodup_iff.mpr (List.Nodup.of_map _ (nodup_lower_shownNames hfold))
  rw [hshaped]
  refine ⟨(Fields.perm_keys_ofList hnodup).trans (hkeys ▸ hnames), fun p hp name hn hv ↦ ?_⟩
  rw [Text.sameIgnoringCase, beq_iff_eq] at hv
  refine (Fields.get?_ofList_eq_some_iff hnodup).mpr (List.mem_map.mpr ⟨p, hp, ?_⟩)
  rw [(externalName_eq_iff hfold (t.shownNames_sublist.mem hn) hv).mpr (hclear p hp).2.2]

private theorem Delivers.not_restores (h : t.Delivers row)
    (hfold : (t.declaredNames.map Text.lower).Nodup) (hvalues : (row.map (·.2)).Nodup)
    {p : String × Json} (hp : p ∈ row) (hm : t.Misleads p.1) :
    ¬ t.Restores row (t.shapeRow row) := by
  intro hr
  obtain ⟨name, hn, hv⟩ := h.exists_name hp
  have hget := hr.values p hp name hn (by simpa [Text.sameIgnoringCase] using hv)
  -- The value under the name comes from a key that was put there, which can only be this one.
  have hmem := (Fields.get?_eq_some_iff (Fields.isSorted_ofList _).nodup_keys).mp hget
  obtain ⟨q, hq, he⟩ := List.mem_map.mp (Fields.mem_of_mem_ofList hmem)
  obtain ⟨hq, hserves⟩ := List.mem_filter.mp hq
  obtain ⟨hput, hvalue⟩ := Prod.mk.inj he
  have hsame : q = p := List.inj_on_of_nodup_map hvalues hq hp hvalue
  subst hsame
  have hserves : q.1 ≠ totalCountColumn ∧ q.1 ≠ pageRowColumn := by simpa using hserves
  rcases hm with htotal | hpage | htaken
  · exact hserves.1 htotal
  · exact hserves.2 hpage
  · exact (externalName_eq_iff hfold (t.shownNames_sublist.mem hn) hv).mp hput htaken

private theorem tells_nothing (hclear : ∀ p ∈ row, ¬ t.Misleads p.1) :
    isCountOnly row = false ∧ Fields.get? row totalCountColumn = none := by
  simp only [Misleads, not_or] at hclear
  have hpage := Fields.get?_eq_none fun p hp ↦ (hclear p hp).2.1
  refine ⟨?_, Fields.get?_eq_none fun p hp ↦ (hclear p hp).1⟩
  rw [isCountOnly, hpage]

/-- Rows that deliver the values of a report come back under its names without loss when no key of
them misleads, and a row whose values all differ does not come back so when a key of it does. -/
theorem restores_shapeRows (hfold : (t.declaredNames.map Text.lower).Nodup) {rows : List Fields}
    (hd : ∀ row ∈ rows, t.Delivers row) :
    ((∀ row ∈ rows, ∀ p ∈ row, ¬ t.Misleads p.1) →
        ∃ shaped, t.shapeRows rows = ⟨shaped, none⟩ ∧ List.Forall₂ t.Restores rows shaped) ∧
      ∀ row ∈ rows, (row.map (·.2)).Nodup → (∃ p ∈ row, t.Misleads p.1) →
        ¬ t.Restores row (t.shapeRow row) := by
  refine ⟨fun hclear ↦ ⟨rows.map t.shapeRow, ?_, ?_⟩, fun row hm hvalues ⟨p, hp, hmislead⟩ ↦ ?_⟩
  · have hkept : rows.filter (fun row ↦ !isCountOnly row) = rows :=
      List.filter_eq_self.mpr fun row hm ↦ by rw [(tells_nothing (hclear row hm)).1]; rfl
    have htotal : rows.findSome? (fun row ↦
        (Fields.get? row totalCountColumn).bind Json.count?) = none :=
      List.findSome?_eq_none_iff.mpr fun row hm ↦ by rw [(tells_nothing (hclear row hm)).2]; rfl
    rw [shapeRows, hkept, htotal]
  · rw [List.forall₂_map_right_iff, List.forall₂_same]
    exact fun row hm ↦ (hd row hm).restores hfold (hclear row hm)
  · exact (hd row hm).not_restores hfold hvalues hp hmislead

end ReportTemplate

/-- Invoices with their gross and net amounts, of which the gross amount and the net amount are
stored under the given names. -/
def invoices (gross net : String) : ReportTemplate :=
  { id := "invoices"
    name := "Invoices"
    dataSources := [.table "invoices"]
    config :=
      { columns :=
          [{ name := "gross", column := some gross }, { name := "total", column := some net }] } }

/-- The amounts of an invoice under names in capitals. -/
def capitalRow : Fields := [("GROSS", .number (.int 120)), ("TOTAL", .number (.int 100))]

/-- A row in capitals is restored when the columns are stored under other names. -/
theorem restores_capitalRow :
    ∃ shaped, (invoices "brutto" "netto").shapeRows [capitalRow] = ⟨shaped, none⟩ ∧
      List.Forall₂ (invoices "brutto" "netto").Restores [capitalRow] shaped := by
  have hd : ∀ row ∈ [capitalRow], (invoices "brutto" "netto").Delivers row := by
    rw [List.forall_mem_singleton]
    exact List.Perm.refl ["gross", "total"]
  have hclear : ∀ row ∈ [capitalRow], ∀ p ∈ row,
      ¬ (invoices "brutto" "netto").Misleads p.1 := by
    have hserves : ∀ p ∈ capitalRow, p.1 ≠ totalCountColumn ∧ p.1 ≠ pageRowColumn := by
      decide +kernel
    have hstored : ∀ p ∈ capitalRow,
        ((invoices "brutto" "netto").config.columns.find? (·.storageName == p.1)).isNone := by
      decide +kernel
    rw [List.forall_mem_singleton]
    rintro p hp (htotal | hpage | ⟨-, c, hc, -⟩)
    · exact (hserves p hp).1 htotal
    · exact (hserves p hp).2 hpage
    · have hnone := hstored p hp
      rw [hc] at hnone
      cases hnone
  exact (ReportTemplate.restores_shapeRows (by decide +kernel) hd).1 hclear

/-- An accepted template whose names differ in more than letter case, and a row of its values that
is not restored. -/
structure LosesValues (t : ReportTemplate) (row : Fields) : Prop where
  accepted : t.problems = []
  distinct : (t.declaredNames.map Text.lower).Nodup
  delivers : t.Delivers row
  lost : ¬ t.Restores row (t.shapeRow row)

/-- Orders that are told to be some number. -/
def countedOrders : ReportTemplate :=
  { id := "orders"
    name := "Orders"
    dataSources := [.table "orders"]
    config := { columns := [{ name := "__Total_Count" }] } }

/-- When the gross amount is stored as `TOTAL`, the total in capitals takes its place, and the total
is lost. A number whose name becomes that of a column for paging is lost as well. -/
theorem losesValues_invoices :
    LosesValues (invoices "TOTAL" "netto") capitalRow ∧
      (invoices "TOTAL" "netto").shapeRow capitalRow = [("gross", .number (.int 100))] ∧
      LosesValues countedOrders [("__total_count", .number (.int 5))] ∧
      countedOrders.shapeRow [("__total_count", .number (.int 5))] = [] := by
  have hgross : (invoices "TOTAL" "netto").shapeRow capitalRow =
      [("gross", .number (.int 100))] := by
    rfl
  have hnothing : countedOrders.shapeRow [("__total_count", .number (.int 5))] = [] := by
    rfl
  refine ⟨⟨by decide +kernel, by decide +kernel, .refl ["gross", "total"], fun h ↦ ?_⟩, hgross,
    ⟨by decide +kernel, by decide +kernel, .refl ["__total_count"], fun h ↦ ?_⟩, hnothing⟩
  · rw [hgross] at h
    exact absurd h.names.length_eq (by decide +kernel)
  · rw [hnothing] at h
    exact absurd h.names.length_eq (by decide +kernel)

end TabularReport

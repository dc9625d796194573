import Mathlib.Data.List.Nodup
import TabularReport.Proofs.Run.Unpaged
import TabularReport.Proofs.Validation.Identifier

/-!
# Labels of a select list

Each item of the select list of an accepted template carries its declared name, and no other item
carries it. A declared name is a plain name, or a name after a qualifier, or an aggregate. A plain
name is the label of its item. Where all names are plain, a reference means one item exactly when no
other name differs from it in letter case only.
-/

namespace TabularReport

namespace Identifier

/-- Whether a text is a name without a qualifier. -/
def IsPlain (name : String) : Prop := isName isStart isPart name.toList = true

/-- The forms of safe identifiers: a name, a name after a qualifier, and an aggregate. -/
inductive HasForm : String → Prop
  | plain {name : String} : IsPlain name → HasForm name
  | qualified {qualifier name : String} :
      IsPlain qualifier → IsPlain name → HasForm (qualifier ++ "." ++ name)
  | aggregate {function argument : List Char} :
      String.ofList (function.map foldLetter) ∈ aggregates →
      isArgument (Text.trim argument) = true →
      HasForm (String.ofList (function ++ '(' :: (argument ++ [')'])))

/-- The name that is left of a name after its qualifier. -/
def unqualified (name : String) : String :=
  match name.toList.dropWhile (· != '.') with
  | [] => name
  | _ :: rest => String.ofList rest

private theorem isSafe_iff_hasForm {s : String} : isSafe s = true ↔ HasForm s := by
  rw [isSafe, Bool.or_eq_true, isReference_iff (by decide) (by decide), isAggregate_iff]
  constructor
  · rintro ((hs | ⟨a, b, hs, ha, hb⟩) | ⟨f, inner, hs, hf, hi⟩)
    · exact .plain hs
    · have heq : s = String.ofList a ++ "." ++ String.ofList b := by
        rw [← String.toList_inj, hs]
        simp
      rw [heq]
      exact .qualified (by simpa [IsPlain] using ha) (by simpa [IsPlain] using hb)
    · rw [← String.ofList_toList (s := s), hs]
      exact .aggregate hf hi
  · rintro (hs | ⟨ha, hb⟩ | ⟨hf, hi⟩)
    · exact .inl (.inl hs)
    · exact .inl (.inr ⟨_, _, by simp, ha, hb⟩)
    · exact .inr ⟨_, _, String.toList_ofList, hf, hi⟩

private theorem IsPlain.unqualified_eq {name : String} (h : IsPlain name) :
    unqualified name = name := by
  have hdot : name.toList.dropWhile (· != '.') = [] := by
    rw [List.dropWhile_eq_nil_iff]
    intro c hc
    rw [bne_iff_ne]
    rintro rfl
    rcases isName_chars h '.' hc with h | h <;> exact absurd h (by decide)
  rw [unqualified, hdot]

end Identifier

namespace SelectItem

open Identifier

/-- Whether an item carries a name: it is given the name, or it is the bare column of this name. -/
inductive Carries : SelectItem → String → Prop
  | given {expr : ColumnExpr} {name : String} : Carries ⟨expr, some name⟩ name
  | bare {name : String} : Carries { expr := .column none name } name

/-- The label of an item in an answer: the name that it is given, or the name of the column that it
is. -/
def label? (i : SelectItem) : Option String :=
  match i.outputName, i.expr with
  | some name, _ => some name
  | none, .column _ name => some (unqualified name)
  | none, _ => none

/-- Whether a reference to a name may mean an item; letter case does not count. -/
def answersTo (i : SelectItem) (name : String) : Bool :=
  i.label?.any (Text.sameIgnoringCase · name)

/-- An item that carries a plain name is labelled by it. -/
theorem Carries.label?_eq {i : SelectItem} {name : String} (h : i.Carries name)
    (hp : IsPlain name) : i.label? = some name := by
  cases h with
  | given => rfl
  | bare => exact congrArg some hp.unqualified_eq

end SelectItem

private theorem map_label?_of_carries {items : List SelectItem} {names : List String}
    (h : List.Forall₂ SelectItem.Carries items names)
    (hp : ∀ name ∈ names, Identifier.IsPlain name) :
    items.map (·.label?) = names.map some := by
  induction h with
  | nil => rfl
  | cons hi _ ih =>
    obtain ⟨hplain, hrest⟩ := List.forall_mem_cons.mp hp
    rw [List.map_cons, List.map_cons, hi.label?_eq hplain, ih hrest]

private theorem countP_eq_one_iff {names : List String} (hn : names.Nodup) {name : String}
    (hm : name ∈ names) {test : String → Bool} (ht : test name = true) :
    names.countP test = 1 ↔ ∀ other ∈ names, test other = true → other = name := by
  constructor
  · intro h other ho hto
    rw [List.countP_eq_length_filter, List.length_eq_one_iff] at h
    obtain ⟨single, hs⟩ := h
    have hsingle {n : String} (hn : n ∈ names) (hp : test n = true) : n = single :=
      List.mem_singleton.mp (hs ▸ List.mem_filter.mpr ⟨hn, hp⟩)
    rw [hsingle ho hto, hsingle hm ht]
  · intro h
    rw [← List.count_eq_one_of_mem hn hm, List.count]
    refine List.countP_congr fun other ho ↦ ?_
    rw [beq_iff_eq]
    exact ⟨h other ho, fun he ↦ he ▸ ht⟩

namespace ReportTemplate

variable {t : ReportTemplate}

/-- The items of a select list carry the names that a report shows. -/
theorem carries_selectList (t : ReportTemplate) :
    List.Forall₂ SelectItem.Carries t.selectList t.shownNames := by
  have hcolumn (c : ColumnDefinition) : (t.selectColumn c).Carries c.name := by
    unfold selectColumn
    dsimp only
    split
    · next he =>
      rw [he]
      exact .bare
    · exact .given
  refine List.rel_append (R := SelectItem.Carries) ?_ ?_
  · rw [List.forall₂_map_left_iff, List.forall₂_map_right_iff, List.forall₂_same]
    exact fun c _ ↦ hcolumn c
  · rw [List.forall₂_map_left_iff, List.forall₂_map_right_iff, List.forall₂_same]
    exact fun a _ ↦ .given

private theorem isSafe_of_mem_shownNames (h : t.problems = []) {name : String}
    (hm : name ∈ t.shownNames) : Identifier.isSafe name = true := by
  rcases List.mem_append.mp hm with hm | hm
  · obtain ⟨c, hc, rfl⟩ := List.mem_map.mp hm
    obtain ⟨again, hp⟩ := column_problems h (List.mem_of_mem_filter hc)
    refine ColumnDefinition.isSafe_of_problems hp c.name ?_
    unfold ColumnDefinition.names
    split <;> exact List.mem_cons_self
  · obtain ⟨a, ha, rfl⟩ := List.mem_map.mp hm
    obtain ⟨again, hp⟩ := aggregation_problems h ha
    exact Identifier.problems_eq_nil_iff.mp
      (List.append_eq_nil_iff.mp (List.append_eq_nil_iff.mp hp).1).2

/-- How the select list of a report stands for the names that it shows. -/
structure Labels (t : ReportTemplate) : Prop where
  forms : ∀ name ∈ t.shownNames, Identifier.HasForm name
  distinct : t.shownNames.Nodup
  carried : List.Forall₂ SelectItem.Carries t.selectList t.shownNames
  labels : List.Forall₂ (fun i name ↦ Identifier.IsPlain name → i.label? = some name)
    t.selectList t.shownNames
  /-- A reference to a plain name means one item unless letter case alone tells names apart. -/
  addressed : (∀ name ∈ t.shownNames, Identifier.IsPlain name) → ∀ name ∈ t.shownNames,
    (t.selectList.countP (·.answersTo name) = 1 ↔
      ∀ other ∈ t.shownNames, Text.sameIgnoringCase other name = true → other = name)
  /-- The values of a row stand under the names, apart from what serves paging. -/
  keyed : ∀ row : List Json, row.length = t.shownNames.length →
    ∀ name v, (name, v) ∈ t.shownNames.zip row → name ∉ helperColumns →
      Fields.get? (t.shapeRow (Fields.ofList (t.shownNames.zip row))) name = some v

private theorem get?_shapeRow (h : t.problems = []) {row : List Json}
    (hr : row.length = t.shownNames.length) {name : String} {v : Json}
    (hm : (name, v) ∈ t.shownNames.zip row) (hs : name ∉ helperColumns) :
    Fields.get? (t.shapeRow (Fields.ofList (t.shownNames.zip row))) name = some v := by
  have hkeys : ((t.shownNames.zip row).map (·.1)).Nodup := by
    rw [List.map_fst_zip (by omega)]
    exact nodup_shownNames h
  rw [shapeRow_ofList hkeys fun p hp _ ↦ t.shownNames_sublist.mem (List.of_mem_zip hp).1,
    Fields.get?_ofList_eq_some_iff (hkeys.sublist (List.filter_sublist.map _)), List.mem_filter]
  refine ⟨hm, ?_⟩
  simpa [helperColumns] using hs

/-- The select list of an accepted template stands for the names that it shows. -/
theorem labels_selectList (h : t.problems = []) : t.Labels where
  forms _ hm := Identifier.isSafe_iff_hasForm.mp (isSafe_of_mem_shownNames h hm)
  distinct := nodup_shownNames h
  carried := t.carries_selectList
  labels := t.carries_selectList.imp fun _ _ h hp ↦ h.label?_eq hp
  addressed hp name hm := by
    have hcount : t.selectList.countP (·.answersTo name) =
        t.shownNames.countP (Text.sameIgnoringCase · name) := by
      have hlabels := congrArg (List.countP fun l : Option String ↦
        l.any (Text.sameIgnoringCase · name)) (map_label?_of_carries t.carries_selectList hp)
      rwa [List.countP_map, List.countP_map] at hlabels
    rw [hcount]
    exact countP_eq_one_iff (nodup_shownNames h) hm (beq_self_eq_true _)
  keyed _ hr _ _ hm hs := get?_shapeRow h hr hm hs

end ReportTemplate

/-- A report on one source that shows columns of the given names. -/
def reportShowing (source : DataSource) (names : List String) : ReportTemplate :=
  { id := "report"
    name := "Report"
    dataSources := [source]
    config := { columns := names.map fun name ↦ { name } } }

/-- Orders under another name. -/
def aliasedOrders : DataSource := { name := "orders", aliasName := some "o" }

/-- Each of two plain names that differ in more than letter case means the one item that carries it.
-/
theorem labels_region :
    (reportShowing aliasedOrders ["region", "total"]).Labels ∧
      ∀ name ∈ ["region", "total"],
        (reportShowing aliasedOrders ["region", "total"]).selectList.countP (·.answersTo name) =
          1 := by
  have hlabels : (reportShowing aliasedOrders ["region", "total"]).Labels :=
    ReportTemplate.labels_selectList (by decide +kernel)
  refine ⟨hlabels, fun name hm ↦ (hlabels.addressed ?_ name hm).mpr ?_⟩
  · unfold Identifier.IsPlain
    decide +kernel
  · revert name
    decide +kernel

/-- Accepted templates show names that letter case alone tells apart, so that a reference means two
items. They also show the column of a source, whose label is another name, and an aggregate. -/
theorem labels_fail :
    (reportShowing aliasedOrders ["Total", "total"]).problems = [] ∧
      ¬ ((reportShowing aliasedOrders ["Total", "total"]).shownNames.map Text.lower).Nodup ∧
      (reportShowing aliasedOrders ["Total", "total"]).selectList.countP (·.answersTo "total") =
        2 ∧
      (reportShowing aliasedOrders ["o.id"]).problems = [] ∧ ¬ Identifier.IsPlain "o.id" ∧
      (reportShowing aliasedOrders ["o.id"]).selectList.map (·.label?) = [some "id"] ∧
      (reportShowing aliasedOrders ["COUNT(*)"]).problems = [] ∧
      ¬ Identifier.IsPlain "COUNT(*)" := by
  unfold Identifier.IsPlain
  decide +kernel

end TabularReport

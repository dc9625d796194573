import TabularReport.Proofs.Document.Preservation
import TabularReport.Proofs.Filter.Decoding

/-!
# Filter trees survive being written

A condition is written with a column and is read as a condition again. A group is written without
one, so it can only be read as a group.
-/

namespace TabularReport

open Reader RecordReader

/-- Comparisons are preserved. -/
theorem Operator.preserves_reader : Operator.reader.Preserves fun a ↦ .string a.spelling :=
  preserves_oneOf fun a ↦ by cases a <;> rfl

private theorem Condition.preserves_reader : Condition.reader.Preserves Condition.toJson := by
  refine Keeps.reader
    (.seq (.seq (.seq (.map ?_
      (preserves_required preserves_string "column"))
      (preserves_required Operator.preserves_reader "operator") (by decide))
      (preserves_optional preserves_json writesNonNull_json "value") (by decide))
      (preserves_optional preserves_string writesNonNull_string "parameterRef") (by decide)) _ _
  intro column operator value parameterRef
  rfl

private theorem Condition.not_reader_group {logic : Logic} {nodes : List FilterNode}
    {c : Condition} :
    Condition.reader .setAside (FilterNode.group logic nodes).toJson.source ≠ .ok c := by
  intro h
  have hcolumn := (Condition.isNamedBy_of_reader h).column
  rw [FilterNode.toJson] at hcolumn
  cases hcolumn

private theorem Json.IsProper.members {v : Json} (hv : v.IsProper) :
    ∀ w ∈ v.members, w.IsProper := by
  unfold Json.members
  split
  · next items hpart =>
    have hitems : (Json.array items).IsProper := hv.part hpart
    exact Json.areProper_iff.mp hitems
  · exact List.forall_mem_nil _

namespace FilterNode

private theorem restores_of_chosen {v : Json} {n : FilterNode}
    (h : chosenBy reader v.source = .ok n) :
    reader.Restores v n := by
  intro o
  rw [reader_eq, settingAside_source, h]

private theorem restores_leaf {c : Condition} (h : Condition.reader.Restores c.toJson c) :
    reader.Restores (leaf c).toJson (leaf c) := by
  refine restores_of_chosen ?_
  rw [toJson, chosenBy, h .setAside]

private theorem restores_group {g : FilterGroup}
    (h : ∀ o, items reader o (Json.sourceItems (listToJson g.nodes)) = .ok g.nodes) :
    FilterGroup.reader.Restores g.toJson g ∧ reader.Restores g.node.toJson g.node := by
  have hlogic : (oneOf Logic.variants).Restores (.string g.logic.spelling) g.logic := by
    intro o
    cases g.logic <;> rfl
  have hnodes : (list reader).Restores (.array (listToJson g.nodes)) g.nodes := by
    intro o
    simp only [Json.source, list, h o]
  have hgroup : FilterGroup.reader.Restores g.toJson g := by
    rw [FilterGroup.toJson, FilterGroup.node, toJson]
    exact Restores.reader
      (.seq (.map FilterGroup.mk (restores_fieldWith (List.mem_cons_self ..) hlogic "logic" _))
        (restores_fieldWith (List.mem_singleton_self _) hnodes "conditions" _)
        (by decide))
      _ _
  refine ⟨hgroup, restores_of_chosen ?_⟩
  have hread : FilterGroup.readerOf reader .setAside g.node.toJson.source = .ok g :=
    hgroup .setAside
  rw [chosenBy]
  split
  · next c hc => exact absurd hc Condition.not_reader_group
  · rw [hread]

mutual

private theorem restores_of_reader : (n : FilterNode) → reader.Yields n → reader.Restores n.toJson n
  | .leaf c, ⟨_, v, hv, h⟩ => by
    obtain ⟨d, hd, he⟩ | ⟨-, g, -, he⟩ := chosen_of_reader h
    · cases he
      exact restores_leaf (Condition.preserves_reader c ⟨_, v, hv, hd⟩)
    · cases he
  | .group logic nodes, ⟨_, v, hv, h⟩ => by
    obtain ⟨d, -, he⟩ | ⟨-, g, hg, he⟩ := chosen_of_reader h
    · cases he
    · cases he
      have hitems := (FilterGroup.items_of_reader hg).2
      exact (restores_group fun o ↦ items_listToJson g.nodes hv.members hitems o).2

private theorem items_listToJson : (ns : List FilterNode) → {o : Origin} → {vs : List Json} →
    (∀ v ∈ vs, v.IsProper) → items reader o (Json.sourceItems vs) = .ok ns →
    ∀ o', items reader o' (Json.sourceItems (listToJson ns)) = .ok ns
  | [], o, vs, _, _, o' => rfl
  | n :: ns, o, vs, hvs, h, o' => by
    cases vs with
    | nil => cases h
    | cons v rest =>
      rw [Json.sourceItems, items_cons_eq_ok_iff] at h
      obtain ⟨m, more, hv, hrest, he⟩ := h
      cases he
      rw [List.forall_mem_cons] at hvs
      rw [listToJson, Json.sourceItems, items_cons_eq_ok_iff]
      exact ⟨n, ns, restores_of_reader n ⟨o, v, hvs.1, hv⟩ o',
        items_listToJson ns hvs.2 hrest o', rfl⟩

end

end FilterNode

/-- Groups are preserved. -/
theorem FilterGroup.preserves_reader : FilterGroup.reader.Preserves FilterGroup.toJson := by
  rintro g ⟨o, v, hv, h⟩
  have hitems := (FilterGroup.items_of_reader h).2
  exact (FilterNode.restores_group fun o' ↦
    FilterNode.items_listToJson g.nodes hv.members hitems o').1

/-- No group is written as null. -/
theorem FilterGroup.writesNonNull : FilterGroup.reader.WritesNonNull FilterGroup.toJson := by
  intro o v g _ _ _
  rw [FilterGroup.toJson, FilterGroup.node, FilterNode.toJson]
  exact nofun

end TabularReport

import TabularReport.Proofs.Component.Preservation
import TabularReport.Proofs.History.Preservation

/-!
# Documents survive a write and a read

Whatever names, forms, defaults and offsets a document was read from, what is written for it is read
as the same document, and is written for it again.
-/

namespace TabularReport

/-- Whether the document that is read from a value survives: a second reading, of what is written
for it, yields it again, and what is written then is the same. -/
structure Survives {α : Type} (first second : Reader α) (write : α → Json) (v : Json) : Prop where
  restored : ∀ d, first.ofJson v = .ok d → second.ofJson (write d) = .ok d
  canonical : ∀ w, (first.ofJson v).map write = .ok w → (second.ofJson w).map write = .ok w

private theorem Survives.of_restored {α : Type} {first second : Reader α} {write : α → Json}
    {v : Json} (h : ∀ d, first.ofJson v = .ok d → second.ofJson (write d) = .ok d) :
    Survives first second write v where
  restored := h
  canonical w hw := by
    cases hd : first.ofJson v with
    | error e =>
      rw [hd] at hw
      cases hw
    | ok d =>
      rw [hd] at hw
      cases hw
      rw [h d hd]
      rfl

private theorem Reader.Preserves.survives {α : Type} {r : Reader α} {write : α → Json}
    (h : r.Preserves write) {v : Json} (hv : v.IsProper) : Survives r r write v :=
  .of_restored fun d hd ↦ h d ⟨.value, v, hv, hd⟩ .value

/-- Documents of every kind survive; saved queries do when they tell when they were created,
whenever they are read. -/
theorem documents_survive {v : Json} (hv : v.IsProper) :
    Survives ReportTemplate.reader ReportTemplate.reader ReportTemplate.toJson v ∧
      Survives Component.reader Component.reader Component.toJson v ∧
      Survives RunRecord.reader RunRecord.reader RunRecord.toJson v ∧
      Survives RunRequest.reader RunRequest.reader RunRequest.toJson v ∧
      Survives FilterGroup.reader FilterGroup.reader FilterGroup.toJson v ∧
      ((v.part? "createdAt" 6).isSome → ∀ now later,
        Survives (SavedQuery.reader now) (SavedQuery.reader later) SavedQuery.toJson v) := by
  refine ⟨ReportTemplate.preserves_reader.survives hv, Component.preserves_reader.survives hv,
    RunRecord.preserves_reader.survives hv, RunRequest.preserves_reader.survives hv,
    FilterGroup.preserves_reader.survives hv, fun hcreated now later ↦ ?_⟩
  exact .of_restored fun q hq ↦ SavedQuery.restores_of_reader hv hcreated hq later .value

/-- A saved query with its fields out of order, a connective under its other name, a condition in
array form, and an unpadded time with an offset. -/
def irregularQuery : Json :=
  .object
    [("templateId", .string "orders"), ("id", .string "mine"),
      ("filters", .object
        [("operator", .string "or"),
          ("conditions", .array [.array [.string "total", .string ">", .number (.int 9)]])]),
      ("createdAt", .string "2024-3-1 01:30:00.5+02:00")]

/-- An irregular saved query survives. -/
theorem documents_survive_irregular :
    ∃ q, (SavedQuery.reader ⟨0, 0⟩).ofJson irregularQuery = .ok q ∧
      q.createdAt = ⟨1709249400, 500000000⟩ ∧
      ∀ later, (SavedQuery.reader later).ofJson q.toJson = .ok q := by
  have hproper : irregularQuery.IsProper := by
    simp [irregularQuery, Json.IsProper, Json.AreProper, Json.AreProperFields, Number.IsProper]
  have hcreated : (irregularQuery.part? "createdAt" 6).isSome := by decide +kernel
  have hread : ((SavedQuery.reader ⟨0, 0⟩).ofJson irregularQuery).toOption.map (·.createdAt) =
      some ⟨1709249400, 500000000⟩ := by decide +kernel
  obtain ⟨q, hq, htime⟩ := Option.map_eq_some_iff.mp hread
  cases hr : (SavedQuery.reader ⟨0, 0⟩).ofJson irregularQuery with
  | error e =>
    rw [hr] at hq
    cases hq
  | ok d =>
    rw [hr] at hq
    cases hq
    exact ⟨q, rfl, htime, fun later ↦
      ((documents_survive hproper).2.2.2.2.2 hcreated ⟨0, 0⟩ later).restored q hr⟩

end TabularReport

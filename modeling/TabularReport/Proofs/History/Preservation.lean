import TabularReport.Proofs.Calendar.Writing
import TabularReport.Proofs.Template.Preservation
import TabularReport.Run.Request

/-!
# Requests, saved queries and records of runs survive being written

A saved query that tells when it was created is read again at any time; one that does not tell it
was created when it was read, and is written with that time.
-/

namespace TabularReport

open Reader RecordReader

private theorem Reader.restores_instant {t : Instant} (h : t.IsDated) :
    instant.Restores (.string t.text) t := by
  intro o
  simp only [Json.source, instant, h.ofRelaxed_text]

private theorem Reader.isDated_of_instant {o : Origin} {v : Json} {t : Instant}
    (h : instant o v.source = .ok t) : t.IsDated := by
  cases v with
  | string s =>
    rw [Json.source, instant] at h
    split at h
    · next u hu =>
      cases h
      exact Instant.isDated_of_ofRelaxed hu
    · cases h
  | null | bool | number | array | object =>
    rw [Json.source] at h
    cases h

private theorem Reader.preserves_instant : instant.Preserves fun t ↦ .string t.text := by
  rintro t ⟨o, v, -, h⟩
  exact restores_instant (isDated_of_instant h)

private theorem RunStatus.preserves_reader :
    RunStatus.reader.Preserves fun a ↦ .string a.spelling :=
  preserves_oneOf fun a ↦ by cases a <;> rfl

/-- Records of runs are preserved. -/
theorem RunRecord.preserves_reader : RunRecord.reader.Preserves RunRecord.toJson := by
  refine Keeps.reader
    (.seq (.seq (.seq (.seq (.seq (.seq (.seq (.seq (.seq (.seq (.seq (.map ?_
      (preserves_required preserves_string "id"))
      (preserves_required preserves_string "templateId") (by decide))
      (preserves_optional preserves_string writesNonNull_string "savedQueryId") (by decide))
      (preserves_defaulted preserves_fields "parameters" ?_) (by decide))
      (preserves_optional FilterGroup.preserves_reader FilterGroup.writesNonNull "filters")
        (by decide))
      (preserves_defaulted SortSpec.preserves_reader.list "sorting" ?_) (by decide))
      (preserves_required preserves_instant "executedAt") (by decide))
      (preserves_required (preserves_natural _ _) "executionTimeMs") (by decide))
      (preserves_required (preserves_natural _ _) "rowCount") (by decide))
      (preserves_required RunStatus.preserves_reader "status") (by decide))
      (preserves_optional preserves_string writesNonNull_string "errorMessage") (by decide))
      (preserves_required preserves_string "executedBy") (by decide)) _ _
  · intro id templateId savedQueryId parameters filters sorting executedAt executionTimeMs rowCount
      status errorMessage executedBy
    simp only [RunRecord.toJson, List.append_assoc, List.cons_append, List.nil_append]
  all_goals exact fun _ ↦ rfl

/-- The fields of a saved query before its creation time. -/
def SavedQuery.fieldsBefore : RecordReader (Instant → SavedQuery) :=
  SavedQuery.mk <$> .required "id" string
    <*> .required "templateId" string
    <*> .defaulted "name" string ""
    <*> .defaulted "parameters" fields []
    <*> .optional "filters" FilterGroup.reader
    <*> .defaulted "ownerId" string ""

private theorem SavedQuery.keeps_fieldsBefore :
    fieldsBefore.Keeps fun q entries ↦
      ∀ t, (q t).toJson = .object (entries ++ [("createdAt", .string t.text)]) := by
  refine .seq (.seq (.seq (.seq (.seq (.map ?_
    (preserves_required preserves_string "id"))
    (preserves_required preserves_string "templateId") (by decide))
    (preserves_defaulted preserves_string "name" ?_) (by decide))
    (preserves_defaulted preserves_fields "parameters" ?_) (by decide))
    (preserves_optional FilterGroup.preserves_reader FilterGroup.writesNonNull "filters")
      (by decide))
    (preserves_defaulted preserves_string "ownerId" ?_) (by decide)
  · intro id templateId name parameters filters ownerId createdAt
    simp only [SavedQuery.toJson, List.append_assoc, List.cons_append, List.nil_append]
  all_goals exact fun _ ↦ rfl

/-- A saved query that tells when it was created is read again at any time. -/
theorem SavedQuery.restores_of_reader {now : Instant} {o : Origin} {v : Json} {q : SavedQuery}
    (hv : v.IsProper) (hcreated : (v.part? "createdAt" 6).isSome)
    (h : SavedQuery.reader now o v.source = .ok q) (later : Instant) :
    (SavedQuery.reader later).Restores q.toJson q := by
  obtain ⟨form, hform, hrun⟩ := exists_form_of_reader h
  obtain ⟨before, t, hbefore, ht, rfl⟩ := run_seq_eq_ok_iff.mp hrun
  have hdated : t.IsDated := by
    obtain ⟨hnone, -⟩ | ⟨w, -, hw⟩ := part?_of_run hform ht
    · rw [show v.part? "createdAt" 6 = none from hnone] at hcreated
      cases hcreated
    · exact isDated_of_instant hw
  obtain ⟨entries, hentries, hrestores⟩ :=
    keeps_fieldsBefore before ⟨o, 0, v, form, hv, hform, hbefore⟩
  have hcreation : (defaulted "createdAt" instant later).Restores
      [("createdAt", .string t.text)] t :=
    restores_fieldWith (List.mem_singleton_self _) (restores_instant hdated) _ (some later)
  have hkeys : ∀ key ∈ ["createdAt"], key ∉ fieldsBefore.keys := by decide
  rw [hentries t]
  exact (hrestores.seq hcreation hkeys).reader _ _

/-- The values of a saved query are read in the order of their names. -/
theorem SavedQuery.isSorted_parameters {now : Instant} {o : Origin} {s : Source} {q : SavedQuery}
    (h : SavedQuery.reader now o s = .ok q) : Fields.IsSorted q.parameters := by
  obtain ⟨form, hrun⟩ := exists_run_of_reader h
  obtain ⟨_, createdAt, hcreated, -, rfl⟩ := run_seq_eq_ok_iff.mp hrun
  obtain ⟨_, ownerId, howner, -, rfl⟩ := run_seq_eq_ok_iff.mp hcreated
  obtain ⟨_, filters, hfilters, -, rfl⟩ := run_seq_eq_ok_iff.mp howner
  obtain ⟨_, parameters, hvalues, hparameters, rfl⟩ := run_seq_eq_ok_iff.mp hfilters
  obtain ⟨_, name, hname, -, rfl⟩ := run_seq_eq_ok_iff.mp hvalues
  obtain ⟨_, templateId, htemplate, -, rfl⟩ := run_seq_eq_ok_iff.mp hname
  obtain ⟨id, -, rfl⟩ := run_map_eq_ok_iff.mp htemplate
  rcases run_fieldWith_eq_ok hparameters with hdefault | ⟨_, -, hread⟩
  · cases hdefault
    exact .nil
  · exact isSorted_of_fields hread

private theorem PageRequest.preserves_reader : PageRequest.reader.Preserves PageRequest.toJson := by
  refine Keeps.reader
    (.seq (.map ?_
      (preserves_named (preserves_natural _ _) (List.mem_cons_self ..) "page"))
      (preserves_optional (preserves_natural _ _) (writesNonNull_natural _ _) "pageSize")
        (by decide)) _ _
  intro page pageSize
  rfl

private theorem PageRequest.writesNonNull : PageRequest.reader.WritesNonNull PageRequest.toJson :=
  fun _ _ _ _ _ _ ↦ nofun

/-- Requests are preserved. -/
theorem RunRequest.preserves_reader : RunRequest.reader.Preserves RunRequest.toJson := by
  refine Keeps.reader
    (.seq (.seq (.seq (.seq (.seq (.seq (.map ?_
      (preserves_required preserves_string "reportId"))
      (preserves_defaulted preserves_fields "parameters" ?_) (by decide))
      (preserves_optional FilterGroup.preserves_reader FilterGroup.writesNonNull "filters")
        (by decide))
      (preserves_defaulted SortSpec.preserves_reader.list "sorting" ?_) (by decide))
      (preserves_optional PageRequest.preserves_reader PageRequest.writesNonNull "pagination")
        (by decide))
      (preserves_optional preserves_string writesNonNull_string "savedQueryId") (by decide))
      (preserves_defaulted preserves_string "requesterId" ?_) (by decide)) _ _
  · intro reportId parameters filters sorting pagination savedQueryId requesterId
    simp only [RunRequest.toJson, List.append_assoc, List.cons_append, List.nil_append]
  all_goals exact fun _ ↦ rfl

end TabularReport

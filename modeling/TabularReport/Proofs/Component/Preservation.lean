import TabularReport.Component.Document
import TabularReport.Proofs.Document.Tagged
import TabularReport.Proofs.Template.Preservation

/-!
# Dashboard components survive being written

A source of rows is written under one name of its kind, whichever name it was read under.
-/

namespace TabularReport

open Reader RecordReader

private theorem ChartType.preserves_reader :
    ChartType.reader.Preserves fun a ↦ .string a.spelling :=
  preserves_oneOf fun a ↦ by cases a <;> rfl

private theorem FieldList.list_of_reader {o : Origin} {v : Json} {fields : List String}
    (h : reader o v.source = .ok (.many fields)) : list string .setAside v.source = .ok fields := by
  rw [reader, settingAside_source] at h
  split at h
  · cases h
  · split at h
    · next hread =>
      cases h
      exact hread
    · cases h

private theorem FieldList.preserves_reader : FieldList.reader.Preserves FieldList.toJson := by
  rintro f ⟨o, v, hv, h⟩ o'
  rw [reader, settingAside_source]
  cases f with
  | one field => rfl
  | many fields =>
    have hback := preserves_strings fields ⟨_, v, hv, list_of_reader h⟩ .setAside
    simp only [toJson, hback]
    rfl

private theorem FieldList.writesNonNull : FieldList.reader.WritesNonNull FieldList.toJson := by
  intro _ _ f _ _ _
  cases f <;> exact nofun

private theorem TableColumn.preserves_reader : TableColumn.reader.Preserves TableColumn.toJson := by
  refine Keeps.reader
    (.seq (.seq (.map ?_
      (preserves_required preserves_string "field"))
      (preserves_defaulted preserves_string "title" ?_) (by decide))
      (preserves_optional preserves_string writesNonNull_string "format") (by decide)) _ _
  · intro field title format
    rfl
  · exact fun _ ↦ rfl

private theorem DataMapping.preserves_reader : DataMapping.reader.Preserves DataMapping.toJson := by
  refine Keeps.reader
    (.seq (.seq (.seq (.seq (.seq (.seq (.seq (.map ?_
      (preserves_optional preserves_string writesNonNull_string "labels"))
      (preserves_optional preserves_string writesNonNull_string "values") (by decide))
      (preserves_optional preserves_string writesNonNull_string "x") (by decide))
      (preserves_optional FieldList.preserves_reader FieldList.writesNonNull "y") (by decide))
      (preserves_ifAny preserves_string "series") (by decide))
      (preserves_ifAny TableColumn.preserves_reader "columns") (by decide))
      (preserves_optional preserves_string writesNonNull_string "value") (by decide))
      (preserves_optional preserves_string writesNonNull_string "trend") (by decide)) _ _
  intro labels values x y series columns value trend
  rfl

private theorem ChartConfig.preserves_reader : ChartConfig.reader.Preserves ChartConfig.toJson := by
  refine Keeps.reader
    (.seq (.seq (.seq (.seq (.seq (.seq (.seq (.map ?_
      (preserves_optional preserves_string writesNonNull_string "title"))
      (preserves_ifAny preserves_string "colors") (by decide))
      (preserves_optional preserves_bool writesNonNull_bool "showLegend") (by decide))
      (preserves_optional preserves_bool writesNonNull_bool "stacked") (by decide))
      (preserves_optional preserves_float writesNonNull_float "min") (by decide))
      (preserves_optional preserves_float writesNonNull_float "max") (by decide))
      (preserves_optional preserves_string writesNonNull_string "format") (by decide))
      (preserves_unlessEmpty preserves_fields "options") (by decide)) _ _
  intro title colors showLegend stacked min max format options
  rfl

namespace RowSource

private theorem preserves_parametersReader :
    parametersReader.Preserves fun parameters ↦ [("parameters", .object parameters)] :=
  preserves_defaulted preserves_fields _ fun _ ↦ rfl

private theorem restores_parameterized {kind name key : String} {make : String → Fields → RowSource}
    (hkey : key ≠ "parameters" ∧ key ≠ "type")
    (hwrite : ∀ text parameters, (make text parameters).toJson =
      .object [("type", .string name), (key, .string text), ("parameters", .object parameters)])
    (hname : variantOf readers name =
      .ok (kindReader kind (make <$> .required key string <*> parametersReader)))
    {s : RowSource}
    (h : (kindReader kind (make <$> .required key string <*> parametersReader)).Yields s) :
    reader.Restores s.toJson s := by
  have hkeys : ∀ other ∈ ["parameters"], other ∉ [key] := by
    simpa using Ne.symm hkey.1
  have htag : "type" ∉ [key, "parameters"] := by
    simpa using Ne.symm hkey.2
  refine Keeps.tagged name
    (.seq (.map ?_ (preserves_required preserves_string key)) preserves_parametersReader hkeys)
    hname htag h
  exact hwrite

private theorem restores_static {s : RowSource} (h : staticReader.Yields s) :
    reader.Restores s.toJson s := by
  refine Keeps.tagged "static-data"
    (.map ?_ (preserves_defaulted preserves_json.list "data" ?_)) rfl (by decide) h
  · intro data
    rw [List.map_id]
    rfl
  · exact fun _ ↦ rfl

private theorem restores_api {s : RowSource}
    (h : (kindReader "Api" (api <$> .required "endpoint" string)).Yields s) :
    reader.Restores s.toJson s := by
  refine Keeps.tagged "api"
    (.map ?_ (preserves_required preserves_string "endpoint")) rfl (by decide) h
  intro endpoint
  rfl

private theorem preserves_reader : reader.Preserves toJson := by
  intro s hs
  obtain ⟨r, name, hname, h⟩ := hs.tagged
  obtain ⟨key, hmem⟩ := mem_of_variantOf hname
  simp only [readers, List.mem_cons, Prod.mk.injEq, List.not_mem_nil, or_false] at hmem
  rcases hmem with ⟨-, rfl⟩ | ⟨-, rfl⟩ | ⟨-, rfl⟩ | ⟨-, rfl⟩ | ⟨-, rfl⟩ | ⟨-, rfl⟩
  · exact restores_parameterized (by decide) (fun _ _ ↦ rfl) rfl h
  · exact restores_parameterized (by decide) (fun _ _ ↦ rfl) rfl h
  · exact restores_parameterized (by decide) (fun _ _ ↦ rfl) rfl h
  · exact restores_static h
  · exact restores_static h
  · exact restores_api h

end RowSource

private theorem DataBinding.preserves_reader : DataBinding.reader.Preserves DataBinding.toJson := by
  refine Keeps.reader
    (.seq (.map ?_
      (preserves_required RowSource.preserves_reader "source"))
      (preserves_defaulted DataMapping.preserves_reader "mapping" ?_) (by decide)) _ _
  · intro source mapping
    rfl
  · exact fun _ ↦ rfl

/-- Components are preserved. -/
theorem Component.preserves_reader : Component.reader.Preserves Component.toJson := by
  refine Keeps.reader
    (.seq (.seq (.seq (.seq (.seq (.seq (.map ?_
      (preserves_required preserves_string "id"))
      (preserves_defaulted preserves_string "name" ?_) (by decide))
      (preserves_required ChartType.preserves_reader "type") (by decide))
      (preserves_defaulted ChartConfig.preserves_reader "config" ?_) (by decide))
      (preserves_required DataBinding.preserves_reader "dataSource") (by decide))
      (preserves_defaulted preserves_string "ownerId" ?_) (by decide))
      (preserves_defaulted preserves_bool "isPublic" ?_) (by decide)) _ _
  · intro id name chartType config dataSource ownerId isPublic
    rfl
  all_goals exact fun _ ↦ rfl

end TabularReport

import TabularReport.Proofs.Filter.Preservation

/-!
# Report templates survive being written
-/

namespace TabularReport

open Reader RecordReader

private theorem ParameterKind.preserves_reader :
    ParameterKind.reader.Preserves fun a ↦ .string a.spelling :=
  preserves_oneOf fun a ↦ by cases a <;> rfl

private theorem SelectOption.preserves_reader :
    SelectOption.reader.Preserves SelectOption.toJson := by
  refine Keeps.reader
    (.seq (.map ?_ (preserves_required preserves_json "value"))
      (preserves_optional preserves_string writesNonNull_string "label") (by decide)) _ _
  intro value label
  rfl

private theorem ValueRules.preserves_reader : ValueRules.reader.Preserves ValueRules.toJson := by
  refine Keeps.reader
    (.seq (.seq (.seq (.seq (.map ?_
      (preserves_optional preserves_float writesNonNull_float "min"))
      (preserves_optional preserves_float writesNonNull_float "max") (by decide))
      (preserves_optional (preserves_natural _ _) (writesNonNull_natural _ _) "minLength")
        (by decide))
      (preserves_optional (preserves_natural _ _) (writesNonNull_natural _ _) "maxLength")
        (by decide))
      (preserves_optional preserves_string writesNonNull_string "pattern") (by decide)) _ _
  intro min max minLength maxLength pattern
  rfl

private theorem ParameterDefinition.preserves_reader :
    ParameterDefinition.reader.Preserves ParameterDefinition.toJson := by
  refine Keeps.reader
    (.seq (.seq (.seq (.seq (.seq (.seq (.seq (.seq (.map ?_
      (preserves_required preserves_string "name"))
      (preserves_defaulted preserves_string "displayName" ?_) (by decide))
      (preserves_required ParameterKind.preserves_reader "type") (by decide))
      (preserves_optional preserves_json writesNonNull_json "defaultValue") (by decide))
      (preserves_defaulted preserves_bool "required" ?_) (by decide))
      (preserves_defaulted ValueRules.preserves_reader "validation" ?_) (by decide))
      (preserves_defaulted SelectOption.preserves_reader.list "options" ?_) (by decide))
      (preserves_optional preserves_string writesNonNull_string "entity") (by decide))
      (preserves_defaulted (preserves_natural _ _) "position" ?_) (by decide)) _ _
  · intro name displayName kind defaultValue required rules options entity position
    simp only [ParameterDefinition.toJson, List.append_assoc, List.cons_append, List.nil_append]
  all_goals exact fun _ ↦ rfl

private theorem DataType.preserves_reader : DataType.reader.Preserves fun a ↦ .string a.spelling :=
  preserves_oneOf fun a ↦ by cases a <;> rfl

private theorem SourceKind.preserves_variants :
    (oneOf SourceKind.variants).Preserves fun a ↦ .string a.spelling :=
  preserves_oneOf fun a ↦ by cases a <;> rfl

private theorem JoinKind.preserves_variants :
    (oneOf JoinKind.variants).Preserves fun a ↦ .string a.spelling :=
  preserves_oneOf fun a ↦ by cases a <;> rfl

private theorem AggregateFunction.preserves_variants :
    (oneOf AggregateFunction.variants).Preserves fun a ↦ .string a.spelling :=
  preserves_oneOf fun a ↦ by cases a <;> rfl

/-- Lists of texts are preserved. -/
theorem Reader.preserves_strings : (list string).Preserves .ofStrings := preserves_string.list

private theorem DataSource.preserves_reader : DataSource.reader.Preserves DataSource.toJson := by
  refine Keeps.reader
    (.seq (.seq (.map ?_
      (preserves_defaulted SourceKind.preserves_variants "type" ?_))
      (preserves_required preserves_string "name") (by decide))
      (preserves_optional preserves_string writesNonNull_string "alias") (by decide)) _ _
  · intro kind name aliasName
    rfl
  · exact fun _ ↦ rfl

private theorem StyleRule.preserves_reader : StyleRule.reader.Preserves StyleRule.toJson := by
  refine Keeps.reader
    (.seq (.seq (.map ?_
      (preserves_required Operator.preserves_reader "operator"))
      (preserves_defaulted preserves_json "value" ?_) (by decide))
      (preserves_defaulted preserves_json "style" ?_) (by decide)) _ _
  · intro operator value style
    rfl
  all_goals exact fun _ ↦ rfl

private theorem ColumnDefinition.preserves_reader :
    ColumnDefinition.reader.Preserves ColumnDefinition.toJson := by
  refine Keeps.reader
    (.seq (.seq (.seq (.seq (.seq (.seq (.seq (.seq (.seq (.seq (.seq (.seq (.map ?_
      (preserves_required preserves_string "name"))
      (preserves_defaulted preserves_string "displayName" ?_) (by decide))
      (preserves_defaulted DataType.preserves_reader "dataType" ?_) (by decide))
      (preserves_optional preserves_string writesNonNull_string "source") (by decide))
      (preserves_optional preserves_string writesNonNull_string "column") (by decide))
      (preserves_optional preserves_string writesNonNull_string "expression") (by decide))
      (preserves_defaulted preserves_bool "visible" ?_) (by decide))
      (preserves_defaulted preserves_bool "sortable" ?_) (by decide))
      (preserves_defaulted preserves_bool "filterable" ?_) (by decide))
      (preserves_defaulted preserves_bool "groupable" ?_) (by decide))
      (preserves_defaulted preserves_bool "aggregatable" ?_) (by decide))
      (preserves_optional preserves_string writesNonNull_string "format") (by decide))
      (preserves_ifAny StyleRule.preserves_reader "styles") (by decide)) _ _
  · intro name displayName dataType source column expression visible sortable filterable groupable
      aggregatable format styles
    simp only [ColumnDefinition.toJson, List.append_assoc, List.cons_append, List.nil_append]
  all_goals exact fun _ ↦ rfl

private theorem JoinDefinition.preserves_reader :
    JoinDefinition.reader.Preserves JoinDefinition.toJson := by
  refine Keeps.reader
    (.seq (.seq (.seq (.seq (.seq (.map ?_
      (preserves_required preserves_string "leftSource"))
      (preserves_required preserves_string "leftColumn") (by decide))
      (preserves_required preserves_string "rightSource") (by decide))
      (preserves_required preserves_string "rightColumn") (by decide))
      (preserves_defaulted JoinKind.preserves_variants "type" ?_) (by decide))
      (preserves_optional preserves_string writesNonNull_string "condition") (by decide)) _ _
  · intro leftSource leftColumn rightSource rightColumn kind condition
    rfl
  · exact fun _ ↦ rfl

private theorem SortDirection.ofText_spelling (d : SortDirection) :
    ofText (some d.spelling) = d := by
  cases d <;> rfl

/-- Sorts are preserved: whatever text a direction was read from, it is written by its name. -/
theorem SortSpec.preserves_reader : SortSpec.reader.Preserves SortSpec.toJson := by
  rintro ⟨column, direction⟩ -
  have hcolumn : (required "column" string).Restores [("column", .string column)] column :=
    restores_fieldWith (r := string) (List.mem_singleton_self _) (fun _ ↦ rfl) _ none
  have hdirection : (optional "direction" string).Restores
      [("direction", .string direction.spelling)] (some direction.spelling) :=
    restores_fieldWith (r := string.nullable) (List.mem_singleton_self _) (fun _ ↦ rfl) _
      (some none)
  have hrestores := (hcolumn.map fun column text ↦ (⟨column, .ofText text⟩ : SortSpec)).seq
    hdirection (by decide)
  rw [SortDirection.ofText_spelling] at hrestores
  exact hrestores.reader _ _

private theorem Aggregation.preserves_reader : Aggregation.reader.Preserves Aggregation.toJson := by
  refine Keeps.reader
    (.seq (.seq (.map ?_
      (preserves_required AggregateFunction.preserves_variants "function"))
      (preserves_required preserves_string "column") (by decide))
      (preserves_required preserves_string "alias") (by decide)) _ _
  intro function column outputName
  rfl

private theorem ReportConfig.preserves_pageSizeReader :
    pageSizeReader.Preserves fun a ↦ .object (Json.entryIfSome "pageSize" .ofNat a) :=
  Keeps.reader (fun pageSize h ↦ ⟨_, rfl,
    preserves_optional (preserves_natural _ _) (writesNonNull_natural _ _) _ pageSize h⟩) _ _

private theorem ReportConfig.preserves_reader :
    ReportConfig.reader.Preserves ReportConfig.toJson := by
  refine Keeps.reader
    (.seq (.seq (.seq (.seq (.seq (.seq (.seq (.map ?_
      (preserves_defaulted ColumnDefinition.preserves_reader.list "columns" ?_))
      (preserves_defaulted JoinDefinition.preserves_reader.list "joins" ?_) (by decide))
      (preserves_defaulted preserves_strings "groupBy" ?_) (by decide))
      (preserves_optional FilterGroup.preserves_reader FilterGroup.writesNonNull "having")
        (by decide))
      (preserves_defaulted SortSpec.preserves_reader.list "orderBy" ?_) (by decide))
      (preserves_optional FilterGroup.preserves_reader FilterGroup.writesNonNull "filters")
        (by decide))
      (preserves_defaulted Aggregation.preserves_reader.list "aggregations" ?_) (by decide))
      (preserves_defaulted preserves_pageSizeReader "pagination" ?_) (by decide)) _ _
  · intro columns joins groupBy having orderBy filters aggregations pageSize
    simp only [ReportConfig.toJson, List.append_assoc, List.cons_append, List.nil_append]
  all_goals exact fun _ ↦ rfl

/-- Reports are preserved. -/
theorem ReportTemplate.preserves_reader :
    ReportTemplate.reader.Preserves ReportTemplate.toJson := by
  refine Keeps.reader
    (.seq (.seq (.seq (.seq (.seq (.seq (.seq (.map ?_
      (preserves_required preserves_string "id"))
      (preserves_required preserves_string "name") (by decide))
      (preserves_optional preserves_string writesNonNull_string "description") (by decide))
      (preserves_required DataSource.preserves_reader.list "dataSources") (by decide))
      (preserves_required ReportConfig.preserves_reader "config") (by decide))
      (preserves_defaulted preserves_string "ownerId" ?_) (by decide))
      (preserves_defaulted preserves_bool "isPublic" ?_) (by decide))
      (preserves_defaulted ParameterDefinition.preserves_reader.list "parameters" ?_)
        (by decide)) _ _
  · intro id name description dataSources config ownerId isPublic parameters
    simp only [ReportTemplate.toJson, List.append_assoc, List.cons_append, List.nil_append]
  all_goals exact fun _ ↦ rfl

end TabularReport

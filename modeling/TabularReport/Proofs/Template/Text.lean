import TabularReport.Proofs.Document.Depth
import TabularReport.Proofs.Template.Preservation

/-!
# Report templates in texts

A template whose numbers are all read back from their digits is the template that its text is read
as, if the text is not refused for its depth.
-/

namespace TabularReport

open Reader RecordReader

private theorem DataSource.readsBare_reader : DataSource.reader.ReadsBare :=
  ReadsBare.reader (.seq (.seq (.map (readsBare_fieldWith (readsBare_oneOf _) _ _ _) _)
    (readsBare_fieldWith readsBare_string _ _ _))
    (readsBare_fieldWith readsBare_string.nullable _ _ _)) _ _

private theorem StyleRule.readsBare_reader : StyleRule.reader.ReadsBare :=
  ReadsBare.reader (.seq (.seq (.map (readsBare_fieldWith (readsBare_oneOf _) _ _ _) _)
    (readsBare_fieldWith readsBare_json _ _ _)) (readsBare_fieldWith readsBare_json _ _ _)) _ _

private theorem ColumnDefinition.readsBare_reader : ColumnDefinition.reader.ReadsBare :=
  have text (name : String) : (optional name string).ReadsBare :=
    readsBare_fieldWith readsBare_string.nullable _ _ _
  have flag (name : String) (default : Bool) : (defaulted name bool default).ReadsBare :=
    readsBare_fieldWith readsBare_bool _ _ _
  ReadsBare.reader (.seq (.seq (.seq (.seq (.seq (.seq (.seq (.seq (.seq (.seq (.seq (.seq (.map
    (readsBare_fieldWith readsBare_string _ _ _) _)
    (readsBare_fieldWith readsBare_string _ _ _))
    (readsBare_fieldWith (readsBare_oneOf _) _ _ _))
    (text _)) (text _)) (text _))
    (flag _ _)) (flag _ _)) (flag _ _)) (flag _ _)) (flag _ _))
    (text _))
    (readsBare_fieldWith StyleRule.readsBare_reader.list _ _ _)) _ _

private theorem JoinDefinition.readsBare_reader : JoinDefinition.reader.ReadsBare :=
  have text (name : String) : (required name string).ReadsBare :=
    readsBare_fieldWith readsBare_string _ _ _
  ReadsBare.reader (.seq (.seq (.seq (.seq (.seq (.map (text _) _) (text _)) (text _)) (text _))
    (readsBare_fieldWith (readsBare_oneOf _) _ _ _))
    (readsBare_fieldWith readsBare_string.nullable _ _ _)) _ _

private theorem SortSpec.readsBare_reader : SortSpec.reader.ReadsBare :=
  ReadsBare.reader (.seq (.map (readsBare_fieldWith readsBare_string _ _ _) _)
    (readsBare_fieldWith readsBare_string.nullable _ _ _)) _ _

private theorem Aggregation.readsBare_reader : Aggregation.reader.ReadsBare :=
  ReadsBare.reader (.seq (.seq (.map (readsBare_fieldWith (readsBare_oneOf _) _ _ _) _)
    (readsBare_fieldWith readsBare_string _ _ _))
    (readsBare_fieldWith readsBare_string _ _ _)) _ _

private theorem FilterNode.readsBare_reader : FilterNode.reader.ReadsBare := by
  have haside : FilterNode.reader = settingAside (chosenBy FilterNode.reader) := by
    funext o s
    exact reader_eq o s
  rw [haside]
  exact readsBare_settingAside _

private theorem FilterGroup.readsBare_reader : FilterGroup.reader.ReadsBare :=
  ReadsBare.reader (.seq (.map (readsBare_fieldWith (readsBare_oneOf _) _ _ _) _)
    (readsBare_fieldWith FilterNode.readsBare_reader.list _ _ _)) _ _

private theorem SelectOption.readsBare_reader : SelectOption.reader.ReadsBare :=
  ReadsBare.reader (.seq (.map (readsBare_fieldWith readsBare_json _ _ _) _)
    (readsBare_fieldWith readsBare_string.nullable _ _ _)) _ _

private theorem ValueRules.readsBare_reader : ValueRules.reader.ReadsBare :=
  ReadsBare.reader (.seq (.seq (.seq (.seq (.map
    (readsBare_fieldWith readsBare_float.nullable _ _ _) _)
    (readsBare_fieldWith readsBare_float.nullable _ _ _))
    (readsBare_fieldWith (readsBare_natural _ _).nullable _ _ _))
    (readsBare_fieldWith (readsBare_natural _ _).nullable _ _ _))
    (readsBare_fieldWith readsBare_string.nullable _ _ _)) _ _

private theorem ParameterDefinition.readsBare_reader : ParameterDefinition.reader.ReadsBare :=
  ReadsBare.reader (.seq (.seq (.seq (.seq (.seq (.seq (.seq (.seq (.map
    (readsBare_fieldWith readsBare_string _ _ _) _)
    (readsBare_fieldWith readsBare_string _ _ _))
    (readsBare_fieldWith (readsBare_oneOf _) _ _ _))
    (readsBare_fieldWith readsBare_json.nullable _ _ _))
    (readsBare_fieldWith readsBare_bool _ _ _))
    (readsBare_fieldWith ValueRules.readsBare_reader _ _ _))
    (readsBare_fieldWith SelectOption.readsBare_reader.list _ _ _))
    (readsBare_fieldWith readsBare_string.nullable _ _ _))
    (readsBare_fieldWith (readsBare_natural _ _) _ _ _)) _ _

private theorem ReportConfig.readsBare_reader : ReportConfig.reader.ReadsBare :=
  have pageSize : ReportConfig.pageSizeReader.ReadsBare :=
    ReadsBare.reader (readsBare_fieldWith (readsBare_natural _ _).nullable _ _ _) _ _
  ReadsBare.reader (.seq (.seq (.seq (.seq (.seq (.seq (.seq (.map
    (readsBare_fieldWith ColumnDefinition.readsBare_reader.list _ _ _) _)
    (readsBare_fieldWith JoinDefinition.readsBare_reader.list _ _ _))
    (readsBare_fieldWith readsBare_string.list _ _ _))
    (readsBare_fieldWith FilterGroup.readsBare_reader.nullable _ _ _))
    (readsBare_fieldWith SortSpec.readsBare_reader.list _ _ _))
    (readsBare_fieldWith FilterGroup.readsBare_reader.nullable _ _ _))
    (readsBare_fieldWith Aggregation.readsBare_reader.list _ _ _))
    (readsBare_fieldWith pageSize _ _ _)) _ _

private theorem ReportTemplate.readsBare_reader : ReportTemplate.reader.ReadsBare :=
  ReadsBare.reader (.seq (.seq (.seq (.seq (.seq (.seq (.seq (.map
    (readsBare_fieldWith readsBare_string _ _ _) _)
    (readsBare_fieldWith readsBare_string _ _ _))
    (readsBare_fieldWith readsBare_string.nullable _ _ _))
    (readsBare_fieldWith DataSource.readsBare_reader.list _ _ _))
    (readsBare_fieldWith ReportConfig.readsBare_reader _ _ _))
    (readsBare_fieldWith readsBare_string _ _ _))
    (readsBare_fieldWith readsBare_bool _ _ _))
    (readsBare_fieldWith ParameterDefinition.readsBare_reader.list _ _ _)) _ _

/-- The template that its text is read as is the template itself, when its numbers are read back. -/
theorem ReportTemplate.eq_of_ofText {t u : ReportTemplate} (ht : reader.Yields t)
    (hback : t.toJson.ReadsBack) (h : reader.ofText t.toJson.compact = .ok u) : u = t :=
  (preserves_reader.ofText_compact ht hback).2 readsBare_reader u h

end TabularReport

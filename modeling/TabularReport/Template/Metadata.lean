import TabularReport.Template.Document

/-!
# Column metadata

What presentation needs to know about the visible columns of a report.
-/

namespace TabularReport

/-- What is said about a column beside the rows. -/
structure ColumnMetadata where
  name : String
  displayName : String
  dataType : DataType
  format : Option String := none
  sortable : Bool
  filterable : Bool
  styles : List StyleRule := []
deriving Inhabited

namespace ColumnMetadata

/-- The metadata of a column; without a display name it goes by its own. -/
def ofColumn (c : ColumnDefinition) : ColumnMetadata where
  name := c.name
  displayName := if c.displayName.isEmpty then c.name else c.displayName
  dataType := c.dataType
  format := c.format
  sortable := c.sortable
  filterable := c.filterable
  styles := c.styles

/-- Read the metadata of a column. -/
def reader : Reader ColumnMetadata :=
  Reader.record "ColumnMetadata" <|
    ColumnMetadata.mk <$> .required "name" Reader.string
      <*> .required "displayName" Reader.string
      <*> .required "dataType" DataType.reader
      <*> .optional "format" Reader.string
      <*> .required "sortable" Reader.bool
      <*> .required "filterable" Reader.bool
      <*> .defaulted "styles" (Reader.list StyleRule.reader) []

/-- Write the metadata of a column. -/
def toJson (m : ColumnMetadata) : Json :=
  .object <|
    [("name", .string m.name), ("displayName", .string m.displayName),
      ("dataType", .string m.dataType.spelling)] ++
      Json.entryIfSome "format" .string m.format ++
      [("sortable", .bool m.sortable), ("filterable", .bool m.filterable)] ++
      Json.entryIfAny "styles" (m.styles.map StyleRule.toJson)

end ColumnMetadata

/-- The metadata of the visible columns, in order. -/
def ReportTemplate.columnMetadata (t : ReportTemplate) : List ColumnMetadata :=
  t.visibleColumns.map ColumnMetadata.ofColumn

end TabularReport

import TabularReport.Filter.Basic
import TabularReport.Parameter.Basic

/-!
# Report templates

A template declares the sources that a report reads, the columns it shows, how the sources are joined, and
filters, groups, aggregates and sorts.
-/

namespace TabularReport

/-- The declared type of a column's values. -/
inductive DataType where
  | string
  | integer
  | decimal
  | boolean
  | date
  | datetime
  | json
  | array
deriving DecidableEq, Inhabited

/-- The kind of relation that a source is. -/
inductive SourceKind where
  | table
  | view
deriving DecidableEq, Inhabited

/-- A relation that a report reads. -/
structure DataSource where
  kind : SourceKind := .table
  name : String
  aliasName : Option String := none
deriving DecidableEq, Inhabited

namespace DataSource

/-- A table under its own name. -/
def table (name : String) : DataSource := { name }

/-- Whether a reference means this source, by its name or its alias. -/
def answersTo (s : DataSource) (reference : String) : Bool :=
  s.name == reference || s.aliasName == some reference

/-- The name that qualifies the source's columns in a statement. -/
def qualifier (s : DataSource) : String := s.aliasName.getD s.name

end DataSource

/-- A style that presentation applies to the values that compare as given. -/
structure StyleRule where
  operator : Operator
  value : Json := .null
  style : Json := .null
deriving Inhabited

/-- A column of a report. An expression is written by the template's author and stands for itself;
otherwise the column is read from a source under its storage name. -/
structure ColumnDefinition where
  name : String
  displayName : String := ""
  dataType : DataType := .string
  source : Option String := none
  column : Option String := none
  expression : Option String := none
  visible : Bool := true
  sortable : Bool := false
  filterable : Bool := false
  groupable : Bool := false
  aggregatable : Bool := false
  format : Option String := none
  styles : List StyleRule := []
deriving Inhabited

namespace ColumnDefinition

/-- A column that is shown under its own name. -/
def named (name : String) : ColumnDefinition := { name, displayName := name }

/-- The column's name in its source. -/
def storageName (c : ColumnDefinition) : String := c.column.getD c.name

end ColumnDefinition

/-- The kind of a join. -/
inductive JoinKind where
  | inner
  | left
  | right
  | full
deriving DecidableEq, Inhabited

/-- A join of two declared sources on the equality of two columns. -/
structure JoinDefinition where
  leftSource : String
  leftColumn : String
  rightSource : String
  rightColumn : String
  kind : JoinKind := .inner
  /-- A condition written by the template's author that must hold too. -/
  condition : Option String := none
deriving DecidableEq, Inhabited

/-- The direction of a sort. -/
inductive SortDirection where
  | asc
  | desc
deriving DecidableEq, Inhabited

/-- A column to sort by. -/
structure SortSpec where
  column : String
  direction : SortDirection := .asc
deriving DecidableEq, Inhabited

/-- The function of an aggregate. -/
inductive AggregateFunction where
  | count
  | countDistinct
  | sum
  | avg
  | min
  | max
deriving DecidableEq, Inhabited

/-- An aggregate that a report shows after its columns. -/
structure Aggregation where
  function : AggregateFunction
  column : String
  outputName : String
deriving DecidableEq, Inhabited

/-- The shape of a report's statement. -/
structure ReportConfig where
  columns : List ColumnDefinition := []
  joins : List JoinDefinition := []
  groupBy : List String := []
  having : Option FilterGroup := none
  orderBy : List SortSpec := []
  filters : Option FilterGroup := none
  aggregations : List Aggregation := []
  /-- The number of rows on a page when a run asks for none. -/
  pageSize : Option Nat := none
deriving Inhabited

/-- A report. The first source is the primary one. -/
structure ReportTemplate where
  id : String
  name : String
  description : Option String := none
  dataSources : List DataSource
  config : ReportConfig
  ownerId : String := ""
  isPublic : Bool := false
  parameters : List ParameterDefinition := []
deriving Inhabited

namespace ReportTemplate

/-- A report on one source, without columns. -/
def on (id name : String) (primary : DataSource) : ReportTemplate :=
  { id, name, dataSources := [primary], config := {} }

/-- The source that the statement starts from. -/
def primarySource? (t : ReportTemplate) : Option DataSource := t.dataSources.head?

/-- The source that a reference means: the first one that answers to it. -/
def findSource? (t : ReportTemplate) (reference : String) : Option DataSource :=
  t.dataSources.find? (·.answersTo reference)

/-- The column of a name. -/
def findColumn? (t : ReportTemplate) (name : String) : Option ColumnDefinition :=
  t.config.columns.find? (·.name == name)

/-- The parameter of a name. -/
def findParameter? (t : ReportTemplate) (name : String) : Option ParameterDefinition :=
  t.parameters.find? (·.name == name)

/-- The columns that the report shows, in order. -/
def visibleColumns (t : ReportTemplate) : List ColumnDefinition :=
  t.config.columns.filter (·.visible)

end ReportTemplate

end TabularReport

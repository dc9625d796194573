import TabularReport.Template.Basic
import TabularReport.Validation.Identifier

/-!
# Validation of templates

`ReportTemplate.problems` lists everything that is wrong with a template: its sources, its columns and
aggregates, its joins, its parameters and the references to them, and the names in its clauses, in this
order.
-/

namespace TabularReport

/-- The problem with a name, as a list of at most one. -/
def Identifier.problems (s context : String) : List ValidationError :=
  match Identifier.check s context with
  | .ok _ => []
  | .error e => [e]

/-- The names that occur in a list after an earlier occurrence. -/
def repeats : List String → List String → List Bool
  | _, [] => []
  | seen, n :: rest => seen.contains n :: repeats (n :: seen) rest

/-- The problems with a source. -/
def DataSource.problems (s : DataSource) : List ValidationError :=
  Identifier.problems s.name "data source" ++
    match s.aliasName with
    | some name => Identifier.problems name "data source alias"
    | none => []

/-- The problems with a column; `again` when an earlier one has its name. An expression is the author's
own and is not looked into. -/
def ColumnDefinition.problems (t : ReportTemplate) (c : ColumnDefinition) (again : Bool) :
    List ValidationError :=
  (if again then [.duplicateColumn c.name] else []) ++
    Identifier.problems c.name "column name" ++
    if c.expression.isSome then []
    else
      (match c.source with
        | some source =>
          if (t.findSource? source).isNone then [.unknownSource ("Column '" ++ c.name ++ "'") source]
          else []
        | none => []) ++
      match c.column with
      | some storage => Identifier.problems storage "storage column"
      | none => []

/-- The problems with an aggregate; `again` when a column or an earlier aggregate has its name. -/
def Aggregation.problems (a : Aggregation) (again : Bool) : List ValidationError :=
  (if again then [.duplicateColumn a.outputName] else []) ++
    Identifier.problems a.outputName "aggregation alias" ++
    if a.column = "*" then [] else Identifier.problems a.column "aggregation column"

/-- Where a side of a join stands, in messages. -/
def JoinDefinition.context (index : Nat) (side : String) : String :=
  "Join #" ++ toString (index + 1) ++ " (" ++ side ++ " side)"

/-- The problems with one side of a join. -/
def JoinDefinition.sideProblems (t : ReportTemplate) (index : Nat) (side source column : String) :
    List ValidationError :=
  (if (t.findSource? source).isNone then [.unknownSource (JoinDefinition.context index side) source]
    else []) ++
    Identifier.problems column "join column"

/-- The problems with a join. -/
def JoinDefinition.problems (t : ReportTemplate) (j : JoinDefinition) (index : Nat) :
    List ValidationError :=
  JoinDefinition.sideProblems t index "left" j.leftSource j.leftColumn ++
    JoinDefinition.sideProblems t index "right" j.rightSource j.rightColumn

/-- The conditions of a filter that name an undeclared parameter. -/
def FilterGroup.parameterProblems (t : ReportTemplate) (g : FilterGroup) : List ValidationError :=
  g.leaves.filterMap fun c =>
    match c.parameterRef with
    | some name =>
      if (t.findParameter? name).isNone then some (.unknownParameter c.column name) else none
    | none => none

/-- Accept a filter whose columns are all safe identifiers; the first one that is not is the error. -/
def FilterGroup.checkColumns (g : FilterGroup) (context : String) : Except ValidationError Unit :=
  match g.leaves.find? fun c => !Identifier.isSafe c.column with
  | some c => .error (.invalidIdentifier context c.column)
  | none => .ok ()

/-- The first problem with the columns of a filter. -/
def FilterGroup.columnProblems (context : String) (g : FilterGroup) : List ValidationError :=
  match g.checkColumns context with
  | .ok _ => []
  | .error e => [e]

namespace ReportTemplate

/-- The names under which the report shows its columns and aggregates. -/
def outputNames (t : ReportTemplate) : List String :=
  t.config.columns.map (·.name) ++ t.config.aggregations.map (·.outputName)

/-- The problems with the sources. -/
def sourceProblems (t : ReportTemplate) : List ValidationError :=
  (if t.dataSources.isEmpty then [.noDataSource t.id] else []) ++
    t.dataSources.flatMap DataSource.problems

/-- The problems with columns and aggregates, which share one set of names. -/
def columnProblems (t : ReportTemplate) : List ValidationError :=
  let again := repeats [] t.outputNames
  let columns := t.config.columns.zip again
  let aggregations := t.config.aggregations.zip (again.drop t.config.columns.length)
  (if t.config.columns.isEmpty then [.emptyColumns t.id] else []) ++
    columns.flatMap (fun (c, seen) => c.problems t seen) ++
    aggregations.flatMap fun (a, seen) => a.problems seen

/-- The problems with the joins. -/
def joinProblems (t : ReportTemplate) : List ValidationError :=
  t.config.joins.zipIdx.flatMap fun (j, i) => j.problems t i

/-- Parameters declared more than once, and conditions on undeclared ones. -/
def parameterProblems (t : ReportTemplate) : List ValidationError :=
  let names := t.parameters.map (·.name)
  ((names.zip (repeats [] names)).filter (·.2)).map (fun (name, _) => .duplicateParameter name) ++
    (t.config.filters.toList ++ t.config.having.toList).flatMap (·.parameterProblems t)

/-- The problems with the names in the clauses of the statement. -/
def clauseProblems (t : ReportTemplate) : List ValidationError :=
  t.config.groupBy.flatMap (Identifier.problems · "GROUP BY") ++
    t.config.orderBy.flatMap (fun s => Identifier.problems s.column "ORDER BY") ++
    t.config.filters.toList.flatMap (FilterGroup.columnProblems "WHERE") ++
    t.config.having.toList.flatMap (FilterGroup.columnProblems "HAVING")

/-- Everything that is wrong with the template. -/
def problems (t : ReportTemplate) : List ValidationError :=
  t.sourceProblems ++ t.columnProblems ++ t.joinProblems ++ t.parameterProblems ++ t.clauseProblems

end ReportTemplate

end TabularReport

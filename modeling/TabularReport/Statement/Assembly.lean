import TabularReport.Filter.Fragment
import TabularReport.Statement.Query
import TabularReport.Validation.Template

/-!
# The statement of a run

`ReportTemplate.assemble` turns a template and a request into one statement with placeholders and the list
of their values. The template's filters come first, then those of the request, then the conditions on
groups; placeholders are numbered through in this order.

A run that asks for a page sends a wrapped statement, which returns the rows of the page and, beside them or
alone when there are none, the number of all rows:

    WITH report_rows AS (the statement),
         report_count AS (SELECT COUNT(*) AS __total_count FROM report_rows),
         report_page AS (SELECT report_rows.*, 1 AS __page_row FROM report_rows ORDER BY … LIMIT … OFFSET …)
    SELECT report_page.*, report_count.__total_count
    FROM report_count LEFT JOIN report_page ON TRUE ORDER BY …
-/

namespace TabularReport

/-- A wish for a page, counted from one. -/
structure PageRequest where
  page : Nat
  pageSize : Option Nat := none
deriving DecidableEq, Inhabited

/-- What a run asks of a template. Filters and sorts name declared columns. -/
structure QueryRequest where
  parameters : Fields := []
  filters : Option FilterGroup := none
  sorting : List SortSpec := []
  pagination : Option PageRequest := none
deriving Inhabited

/-- No page is larger than this. -/
def largestPage : Nat := 5000

/-- Limits on pages. -/
structure PageLimits where
  maxPageSize : Nat := largestPage
  defaultPageSize : Nat := 50
deriving DecidableEq, Inhabited

/-- The page that a statement returns. -/
structure AppliedPage where
  page : Nat
  pageSize : Nat
  offset : Nat
deriving DecidableEq, Inhabited

/-- A statement, the values of its placeholders in order, and the page when one was asked for. -/
structure AssembledQuery where
  query : Query
  params : List Json
  page : Option AppliedPage
deriving Inhabited

/-- The text of the statement. -/
def AssembledQuery.sql (a : AssembledQuery) : String := a.query.sql

/-- The column that holds the number of all rows. -/
def totalCountColumn : String := "__total_count"

/-- The column that is set on each row of a page and null on the row that only counts. -/
def pageRowColumn : String := "__page_row"

/-- The relation of all rows of a wrapped statement. -/
def rowsRelation : String := "report_rows"

/-- The relation of the row count of a wrapped statement. -/
def countRelation : String := "report_count"

/-- The relation of the page of a wrapped statement. -/
def pageRelation : String := "report_page"

/-- A source with its alias. -/
def DataSource.ref (s : DataSource) : TableRef := ⟨s.name, s.aliasName⟩

/-- A column's expression in the statement. -/
def ReportTemplate.reference (t : ReportTemplate) (c : ColumnDefinition) : ColumnExpr :=
  match c.expression, c.source with
  | some expression, _ => .raw expression
  | none, some source =>
    .column (((t.findSource? source).map (·.qualifier)).getD source) c.storageName
  | none, none => .column none c.storageName

/-- A column in the select list; it is renamed unless it goes by its name already. -/
def ReportTemplate.selectColumn (t : ReportTemplate) (c : ColumnDefinition) : SelectItem :=
  let expr := t.reference c
  if expr = .column none c.name then { expr } else { expr, outputName := some c.name }

/-- The expression of an aggregate. -/
def Aggregation.sql (a : Aggregation) : String :=
  match a.function with
  | .count => "COUNT(" ++ a.column ++ ")"
  | .countDistinct => "COUNT(DISTINCT " ++ a.column ++ ")"
  | .sum => "SUM(" ++ a.column ++ ")"
  | .avg => "AVG(" ++ a.column ++ ")"
  | .min => "MIN(" ++ a.column ++ ")"
  | .max => "MAX(" ++ a.column ++ ")"

/-- An aggregate in the select list. -/
def Aggregation.selectItem (a : Aggregation) : SelectItem := ⟨.raw a.sql, some a.outputName⟩

namespace ReportTemplate

/-- The select list: the visible columns, then the aggregates. -/
def selectList (t : ReportTemplate) : List SelectItem :=
  t.visibleColumns.map t.selectColumn ++ t.config.aggregations.map (·.selectItem)

/-- The source on one side of a join. -/
def joinSide (t : ReportTemplate) (index : Nat) (side source : String) :
    Except ValidationError DataSource :=
  match t.findSource? source with
  | some s => .ok s
  | none => .error (.unknownSource (JoinDefinition.context index side) source)

/-- The condition of a join. -/
def joinCondition (left right : DataSource) (j : JoinDefinition) : String :=
  let columns :=
    left.qualifier ++ "." ++ j.leftColumn ++ " = " ++ right.qualifier ++ "." ++ j.rightColumn
  match j.condition with
  | some extra => columns ++ " AND (" ++ extra ++ ")"
  | none => columns

/-- The joins from an index on. Each one adds the side that is not in the statement yet; `joined` holds the
qualifiers that are. -/
def joinsFrom (t : ReportTemplate) (index : Nat) (joined : List String) :
    List JoinDefinition → Except ValidationError (List Join)
  | [] => .ok []
  | j :: rest => do
    let left ← t.joinSide index "left" j.leftSource
    let right ← t.joinSide index "right" j.rightSource
    let target := if joined.contains left.qualifier then right else left
    let more ← t.joinsFrom (index + 1) (target.qualifier :: joined) rest
    return ⟨j.kind, target.ref, some (joinCondition left right j)⟩ :: more

/-- The declared column that a request may filter by. -/
def filterColumn (t : ReportTemplate) (name : String) : Except ValidationError ColumnDefinition :=
  match t.findColumn? name with
  | none => .error (.unknownColumn name)
  | some c => if c.filterable then .ok c else .error (.notFilterable c.name)

/-- The declared column that a request may sort by. -/
def sortColumn (t : ReportTemplate) (name : String) : Except ValidationError ColumnDefinition :=
  match t.findColumn? name with
  | none => .error (.unknownColumn name)
  | some c => if c.sortable && c.visible then .ok c else .error (.notSortable c.name)

mutual

/-- Replace the column names of a node by the columns' expressions. -/
def resolveNode (t : ReportTemplate) : FilterNode → Except ValidationError FilterNode
  | .leaf c => do
    let column ← t.filterColumn c.column
    return .leaf { c with column := (t.reference column).sql }
  | .group logic nodes => do return .group logic (← t.resolveNodes nodes)

/-- Replace the column names of nodes from left to right. -/
def resolveNodes (t : ReportTemplate) : List FilterNode → Except ValidationError (List FilterNode)
  | [] => .ok []
  | n :: rest => do
    let first ← t.resolveNode n
    let more ← t.resolveNodes rest
    return first :: more

end

/-- Replace the column names of a request's filter by the columns' expressions. -/
def resolveFilter (t : ReportTemplate) (g : FilterGroup) : Except ValidationError FilterGroup := do
  return { g with nodes := ← t.resolveNodes g.nodes }

/-- The name in the select list that a reference means: a visible column by its name or its expression, or
an aggregate. -/
def outputName? (t : ReportTemplate) (reference : String) : Option String :=
  match t.visibleColumns.find? fun c => c.name == reference || (t.reference c).sql == reference with
  | some c => some c.name
  | none => (t.config.aggregations.find? (·.outputName == reference)).map (·.outputName)

end ReportTemplate

/-- A sort: the reference to sort by inside the statement, and the name in its select list, if there is
one. -/
structure SortKey where
  reference : String
  output : Option String
  direction : SortDirection

namespace SortKey

/-- The order inside the statement. -/
def item (k : SortKey) : OrderItem := ⟨.column none k.reference, k.direction⟩

/-- The order of the statement's rows from outside; it needs a name in the select list. -/
def outputSort (k : SortKey) : Except ValidationError SortSpec :=
  match k.output with
  | some column => .ok ⟨column, k.direction⟩
  | none => .error (.notSortable k.reference)

end SortKey

namespace ReportTemplate

/-- The sorts of a run: those of the request, or else those of the template. -/
def sortKeys (t : ReportTemplate) (requested : List SortSpec) :
    Except ValidationError (List SortKey) :=
  if requested.isEmpty then
    .ok (t.config.orderBy.map fun s => ⟨s.column, t.outputName? s.column, s.direction⟩)
  else
    requested.mapM fun s => do
      let c ← t.sortColumn s.column
      return ⟨c.name, some c.name, s.direction⟩

/-- The page that a run gets: sizes are cut to the limits, and pages are counted from one. -/
def appliedPage (t : ReportTemplate) (wish : PageRequest) (limits : PageLimits) : AppliedPage :=
  let cap := Nat.max 1 (Nat.min limits.maxPageSize largestPage)
  let wanted := (wish.pageSize.or t.config.pageSize).getD limits.defaultPageSize
  let size := Nat.max 1 (Nat.min wanted cap)
  let page := Nat.max 1 wish.page
  ⟨page, size, Nat.min ((page - 1) * size) (Nat.pow 2 64 - 1)⟩

end ReportTemplate

/-- The text of a filter as a conjunct; beside others a disjunction is put in parentheses. -/
def conjunct (others : Bool) (logic : Logic) (f : Fragment) : String :=
  if others && logic = .or then "(" ++ f.sql ++ ")" else f.sql

/-- Compile filters one after another, numbering their placeholders through. -/
def compileFilters (parameters : Fields) (first : Nat) :
    List FilterGroup → List (Logic × Fragment) × Nat
  | [] => ([], first)
  | g :: rest =>
    let f := g.compile parameters first
    let (more, next) := compileFilters parameters f.nextIndex rest
    ((g.logic, f) :: more, next)

/-- Wrap a statement so that it returns one page of its rows and their number. -/
def Query.paged (inner : Query) (sorts : List SortSpec) (page : AppliedPage) : Query :=
  let count : Query :=
    { items := [⟨.raw "COUNT(*)", some totalCountColumn⟩], source := some { table := rowsRelation } }
  let rows : Query :=
    { items := [{ expr := .star (some rowsRelation) }, ⟨.raw "1", some pageRowColumn⟩]
      source := some { table := rowsRelation }
      order := sorts.map fun s => ⟨.column none s.column, s.direction⟩
      limitOffset := some ⟨some page.pageSize, some page.offset⟩ }
  { ctes := [(rowsRelation, inner), (countRelation, count), (pageRelation, rows)]
    items :=
      [{ expr := .star (some pageRelation) },
        { expr := .column (some countRelation) totalCountColumn }]
    source := some { table := countRelation }
    joins := [⟨.left, { table := pageRelation }, some "TRUE"⟩]
    order := sorts.map fun s => ⟨.column (some pageRelation) s.column, s.direction⟩ }

/-- Build the statement of a run. All names are checked before a filter is compiled; of several errors the
first one counts, in the order: template, select list, filters, sorts, page. -/
def ReportTemplate.assemble (t : ReportTemplate) (request : QueryRequest) (limits : PageLimits) :
    Except ValidationError AssembledQuery := do
  if let e :: _ := t.problems then throw e
  if t.selectList.isEmpty then throw (.emptyColumns t.id)
  let filters ← request.filters.mapM t.resolveFilter
  let sorts ← t.sortKeys request.sorting
  let some primary := t.primarySource? | throw (.noDataSource t.id)
  let joins ← t.joinsFrom 0 [primary.qualifier] t.config.joins
  let (compiled, next) := compileFilters request.parameters 1 (t.config.filters.toList ++ filters.toList)
  let parts := compiled.filter fun (_, f) => !f.isEmpty
  let conjuncts := parts.map fun (logic, f) => conjunct (parts.length > 1) logic f
  let groups := t.config.having.map (·.compile request.parameters next)
  let start : Query :=
    { items := t.selectList
      source := some primary.ref
      joins := joins
      groups := t.config.groupBy.map (.column none) }
  let query := (conjuncts.foldl Query.filter start).having ((groups.map (·.sql)).getD "")
  let params := parts.flatMap (·.2.params) ++ (groups.map (·.params)).getD []
  match request.pagination with
  | some wish => do
    let page := t.appliedPage wish limits
    let outputs ← sorts.mapM SortKey.outputSort
    return ⟨query.paged outputs page, params, some page⟩
  | none => return ⟨query.orderBy (sorts.map (·.item)), params, none⟩

end TabularReport

import TabularReport.Proofs.Run.Labels
import TabularReport.Proofs.Statement.Acceptance
import TabularReport.Proofs.Statement.Scope

/-!
# Names that a wrapped statement captures

A wrapped statement holds the plain one as a common table expression. Where a relation of the plain
statement has the name of such an expression, it is no longer taken from the store; where a column
has a name that serves paging, it is taken out of the answer. Otherwise both read the same relations
and deliver the same columns.
-/

namespace TabularReport

/-- The columns that an item of a select list stands for, when the columns of some relations are
known. -/
def SelectItem.columnNames (known : List (String × List String)) (i : SelectItem) : List String :=
  match i.outputName, i.expr with
  | none, .star (some qualifier) => ((known.find? (·.1 == qualifier)).map (·.2)).getD []
  | none, .star none => known.flatMap (·.2)
  | _, _ => i.label?.toList

private theorem flatMap_columnNames_of_carries {items : List SelectItem} {names : List String}
    (h : List.Forall₂ SelectItem.Carries items names) (hp : ∀ name ∈ names, Identifier.IsPlain name)
    (known : List (String × List String)) :
    items.flatMap (·.columnNames known) = names := by
  induction h with
  | nil => rfl
  | @cons i name items names hi _ ih =>
    obtain ⟨hplain, hrest⟩ := List.forall_mem_cons.mp hp
    have hlabel := hi.label?_eq hplain
    have hcolumn : i.columnNames known = [name] := by
      cases hi with
      | given => rfl
      | bare => exact congrArg Option.toList hlabel
    rw [List.flatMap_cons, hcolumn, ih hrest, List.singleton_append]

namespace Query

/-- The relations that a query names in `FROM` and in its joins. -/
def tables (q : Query) : List String := q.source.toList.map (·.table) ++ q.joins.map (·.table.table)

/-- Whether a name means a common table expression of a query; letter case does not count. -/
def isCte (q : Query) (name : String) : Bool := q.ctes.any (Text.sameIgnoringCase ·.1 name)

/-- The relations that a query takes from the store: those that it and its common table expressions
name, apart from these expressions, which are in sight of one another and of themselves. -/
def storeTables (q : Query) : List String :=
  (q.tables ++ q.ctes.flatMap (·.2.tables)).filter (!q.isCte ·)

mutual

/-- The names of the columns that a query delivers, when those of some relations are known. -/
def columnNames (known : List (String × List String)) : Query → List String
  | ⟨ctes, items, _, _, _, _, _, _, _⟩ => items.flatMap (·.columnNames (knownAfter known ctes))

/-- The relations whose columns are known after common table expressions. -/
def knownAfter (known : List (String × List String)) :
    List (String × Query) → List (String × List String)
  | [] => known
  | (name, inner) :: rest => knownAfter ((name, inner.columnNames known) :: known) rest

end

/-- How a wrapped statement stands to the plain one: the plain one, apart from its order, is what it
wraps. Both take the same relations from the store exactly when the plain one names no common table
expression, and both deliver the same columns exactly when the plain one delivers none that serves
paging. -/
structure Wraps (q plain : Query) : Prop where
  report : q.report = plain.orderBy []
  ctes : q.ctes.map (·.1) = [rowsRelation, countRelation, pageRelation]
  reads : q.storeTables = plain.storeTables ↔ ∀ name ∈ plain.tables, q.isCte name = false
  columns : q.columnNames [] = plain.columnNames [] ++ [pageRowColumn, totalCountColumn]
  delivers : (q.columnNames []).filter (· ∉ helperColumns) = plain.columnNames [] ↔
    ∀ name ∈ plain.columnNames [], name ∉ helperColumns

variable {q : Query}

private theorem storeTables_of_ctes (h : q.ctes = []) : q.storeTables = q.tables := by
  rw [storeTables, h, List.flatMap_nil, List.append_nil, List.filter_eq_self]
  intro name _
  rw [isCte, h]
  rfl

private theorem columnNames_of_ctes (h : q.ctes = []) :
    q.columnNames [] = q.items.flatMap (·.columnNames []) := by
  cases q
  cases h
  rw [columnNames, knownAfter]

private theorem storeTables_paged (q : Query) (sorts : List SortSpec) (page : AppliedPage) :
    (q.paged sorts page).storeTables = q.tables.filter (!(q.paged sorts page).isCte ·) := by
  have hown : ∀ name ∈ [rowsRelation, countRelation, pageRelation],
      (q.paged sorts page).isCte name = true := by
    have hnames (name : String) : (q.paged sorts page).isCte name =
        [rowsRelation, countRelation, pageRelation].any (Text.sameIgnoringCase · name) := rfl
    simp only [hnames]
    decide
  simp only [List.forall_mem_cons] at hown
  have hnamed : (q.paged sorts page).tables ++ (q.paged sorts page).ctes.flatMap (·.2.tables) =
      [countRelation, pageRelation] ++ (q.tables ++ [rowsRelation, rowsRelation]) := rfl
  rw [storeTables, hnamed, List.filter_append, List.filter_append]
  simp [hown]

private theorem columnNames_paged (q : Query) (sorts : List SortSpec) (page : AppliedPage) :
    (q.paged sorts page).columnNames [] =
      q.columnNames [] ++ [pageRowColumn, totalCountColumn] := by
  have hcount : Identifier.unqualified totalCountColumn = totalCountColumn := by decide +kernel
  have hrows : (countRelation == rowsRelation) = false := by decide
  simp only [paged, columnNames, knownAfter]
  simp [SelectItem.columnNames, SelectItem.label?, hcount, hrows]

private theorem wraps_paged (h : q.ctes = []) (ho : q.order = []) (order : List OrderItem)
    (sorts : List SortSpec) (page : AppliedPage) :
    (q.paged sorts page).Wraps (q.orderBy order) := by
  have hplain : (q.orderBy order).storeTables = q.tables := storeTables_of_ctes h
  have hnames : (q.orderBy order).columnNames [] = q.columnNames [] := by
    rw [columnNames_of_ctes h]
    exact columnNames_of_ctes h
  have hcolumns := columnNames_paged q sorts page
  refine ⟨?_, rfl, ?_, hnames.symm ▸ hcolumns, ?_⟩
  · change q = { q with order := [] }
    cases q
    cases ho
    rfl
  · rw [storeTables_paged, hplain, List.filter_eq_self]
    simp only [Bool.not_eq_true']
    rfl
  · rw [hnames, hcolumns, List.filter_append]
    have hown : [pageRowColumn, totalCountColumn].filter (· ∉ helperColumns) = [] := by decide
    rw [hown, List.append_nil, List.filter_eq_self]
    simp only [decide_eq_true_eq]

end Query

private theorem StatementPlan.Checked.eq_of_unpaged {t : ReportTemplate} {request : QueryRequest}
    {limits : PageLimits} {p q : StatementPlan} (hp : p.Checked t request limits)
    (hq : q.Checked t { request with pagination := none } limits) :
    q = { p with page := none } := by
  obtain ⟨filters, sorts, primary, joins, page⟩ := q
  cases hq.filters.symm.trans hp.filters
  cases hq.sorts.symm.trans hp.sorts
  cases hq.primary.symm.trans hp.primary
  cases hq.joins.symm.trans hp.joins
  cases hq.page
  rfl

namespace ReportTemplate

variable {t : ReportTemplate} {request : QueryRequest} {limits : PageLimits}

private theorem Permits.unpaged (h : t.Permits request) :
    t.Permits { request with pagination := none } where
  accepted := h.accepted
  shows := h.shows
  filters := h.filters
  sorts := h.sorts
  order hw := by cases hw

private theorem exists_source_of_checked {p : StatementPlan} (hp : p.Checked t request limits)
    {name : String} (hm : name ∈ p.primary.name :: p.joins.map (·.table.table)) :
    ∃ s ∈ t.dataSources, s.name = name := by
  have honto : JoinsOnto t [p.primary.qualifier] t.config.joins p.joins :=
    joinsOnto_of_joinsFrom (fun n ↦ Iff.rfl) hp.joins
  rcases List.mem_cons.mp hm with rfl | hm
  · exact ⟨p.primary, List.mem_of_mem_head? hp.primary, rfl⟩
  · obtain ⟨join, hjoin, rfl⟩ := List.mem_map.mp hm
    obtain ⟨_, -, left, right, hl, hr, -, htable, -⟩ := exists_of_forall₂ honto.forall₂_yields hjoin
    rcases htable with htable | htable
    · exact ⟨left, List.mem_of_find?_eq_some hl, congrArg TableRef.table htable.symm⟩
    · exact ⟨right, List.mem_of_find?_eq_some hr, congrArg TableRef.table htable.symm⟩

/-- The statement that a page is asked of wraps the statement of the same request without a page,
which reads declared sources and has the same values for its placeholders. -/
theorem wraps_assemble {a : AssembledQuery} {wish : PageRequest}
    (h : t.assemble request limits = .ok a) (hw : request.pagination = some wish) :
    ∃ plain, t.assemble { request with pagination := none } limits = .ok plain ∧
      plain.params = a.params ∧ a.query.Wraps plain.query ∧
      (∀ name ∈ plain.query.tables, ∃ s ∈ t.dataSources, s.name = name) ∧
      ((∀ name ∈ t.shownNames, Identifier.IsPlain name) →
        plain.query.columnNames [] = t.shownNames) := by
  obtain ⟨plain, hplain⟩ := exists_assemble_iff.mpr (exists_assemble_iff.mp ⟨a, h⟩).unpaged
  refine ⟨plain, hplain, ?_⟩
  have hsome := isSome_page h
  obtain ⟨p, hp, rfl⟩ := exists_plan_of_assemble h
  obtain ⟨q, hq, rfl⟩ := exists_plan_of_assemble hplain
  cases hp.eq_of_unpaged hq
  rw [StatementPlan.statement, Option.isSome_map, hw] at hsome
  obtain ⟨⟨page, outputs⟩, hpage⟩ := Option.isSome_iff_exists.mp hsome
  let inner := p.rows t (p.whereText t request.parameters) (p.havingText t request.parameters)
  have hwrapped : (p.statement t request.parameters).query = inner.paged outputs page := by
    rw [StatementPlan.statement, StatementPlan.query, hpage]
  refine ⟨rfl, ?_, fun name hm ↦ exists_source_of_checked hp hm, fun hnames ↦ ?_⟩
  · rw [hwrapped]
    exact Query.wraps_paged (q := inner) rfl rfl (p.sorts.map (·.item)) outputs page
  · have hcolumns : inner.columnNames [] = t.selectList.flatMap (·.columnNames []) :=
      Query.columnNames_of_ctes rfl
    exact hcolumns.trans (flatMap_columnNames_of_carries t.carries_selectList hnames [])

end ReportTemplate

/-- A request for the first page. -/
def firstPage : QueryRequest := { pagination := some { page := 1 } }

/-- A page of orders takes the orders from the store and delivers their columns. -/
theorem wraps_orders :
    ∃ a plain, (reportShowing (.table "orders") ["id"]).assemble firstPage {} = .ok a ∧
      (reportShowing (.table "orders") ["id"]).assemble {} {} = .ok plain ∧
      a.query.Wraps plain.query ∧ a.query.storeTables = ["orders"] ∧
      (a.query.columnNames []).filter (· ∉ helperColumns) = ["id"] := by
  have hok : ((reportShowing (.table "orders") ["id"]).assemble firstPage {}).toOption.map
      (·.query.storeTables) = some ["orders"] := by
    decide +kernel
  obtain ⟨a, ha, hstore⟩ := Except.exists_ok_of_toOption hok
  obtain ⟨plain, hplain, -, hwraps, -, hcolumns⟩ := ReportTemplate.wraps_assemble ha rfl
  have hnames : plain.query.columnNames [] = ["id"] := hcolumns (by
    unfold Identifier.IsPlain
    decide +kernel)
  refine ⟨a, plain, ha, hplain, hwraps, hstore, ?_⟩
  rw [hwraps.delivers.mpr (by rw [hnames]; decide), hnames]

/-- Accepted templates whose pages take nothing from the store, since their source has the name of a
common table expression, or lose a column, since it has the name of the mark of a row. -/
theorem captured_rows :
    (reportShowing (.table "report_rows") ["id"]).problems = [] ∧
      ((reportShowing (.table "report_rows") ["id"]).assemble {} {}).toOption.map
        (·.query.storeTables) = some ["report_rows"] ∧
      ((reportShowing (.table "report_rows") ["id"]).assemble firstPage {}).toOption.map
        (·.query.storeTables) = some [] ∧
      (reportShowing (.table "orders") ["id", "__page_row"]).problems = [] ∧
      ((reportShowing (.table "orders") ["id", "__page_row"]).assemble {} {}).toOption.map
        (·.query.columnNames []) = some ["id", "__page_row"] ∧
      ((reportShowing (.table "orders") ["id", "__page_row"]).assemble firstPage {}).toOption.map
        (fun a ↦ (a.query.columnNames []).filter (· ∉ helperColumns)) = some ["id"] := by
  decide +kernel

end TabularReport

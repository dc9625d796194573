import TabularReport.Proofs.Json.Fields
import TabularReport.Proofs.Run.Discipline
import TabularReport.Proofs.Statement.Page
import TabularReport.Proofs.Validation.Names

/-!
# Pages of reports

A run that asks for a page sends a wrapped statement. When storage answers it with the rows that it
means, the response holds the page of the sorted rows, under the names of the report and without the
columns that serve paging, and the number of all rows, also when the page lies behind the last row.
-/

namespace TabularReport

private theorem filterMap_eq_of_forall₂ {α β : Type} {f : α → Option β} {l : List α} {m : List β}
    (h : List.Forall₂ (fun a b ↦ f a = some b) l m) : l.filterMap f = m := by
  induction h with
  | nil => rfl
  | cons hr _ ih => rw [List.filterMap_cons_some hr, ih]

private theorem forall₂_comp {α β γ : Type} {R : α → β → Prop} {S : β → γ → Prop} {T : α → γ → Prop}
    (h : ∀ a b c, R a b → S b c → T a c) {l : List α} {m : List β} {n : List γ}
    (hr : List.Forall₂ R l m) (hs : List.Forall₂ S m n) : List.Forall₂ T l n := by
  induction hr generalizing n with
  | nil =>
    cases hs
    exact .nil
  | cons hab _ ih =>
    cases hs with
    | cons hbc hs => exact .cons (h _ _ _ hab hbc) (ih hs)

namespace ReportTemplate

variable {t : ReportTemplate}

/-- The names in the select list of a report. -/
def shownNames (t : ReportTemplate) : List String :=
  t.visibleColumns.map (·.name) ++ t.config.aggregations.map (·.outputName)

/-- The order of the pages of a run: its own sorts, or else those of the template under their names
in the select list. -/
def pageOrder (t : ReportTemplate) (requested : List SortSpec) : List SortSpec :=
  if requested.isEmpty then
    t.config.orderBy.filterMap fun s ↦ (t.outputName? s.column).map (⟨·, s.direction⟩)
  else requested

/-- The names in the select list are declared. -/
theorem shownNames_sublist (t : ReportTemplate) : t.shownNames.Sublist t.declaredNames :=
  List.Sublist.append (List.filter_sublist.map _) (List.Sublist.refl _)

/-- The names in the select list of an accepted template differ. -/
theorem nodup_shownNames (h : t.problems = []) : t.shownNames.Nodup :=
  (nodup_outputNames h).sublist t.shownNames_sublist

private theorem outputName?_mem_shownNames {reference name : String}
    (h : t.outputName? reference = some name) : name ∈ t.shownNames := by
  unfold outputName? at h
  rw [shownNames, List.mem_append]
  split at h
  · next c hc =>
    cases h
    exact .inl (List.mem_map_of_mem (List.mem_of_find?_eq_some hc))
  · obtain ⟨a, ha, rfl⟩ := Option.map_eq_some_iff.mp h
    exact .inr (List.mem_map_of_mem (List.mem_of_find?_eq_some ha))

private theorem outputSort_eq_ok_iff {k : SortKey} {s : SortSpec} :
    k.outputSort = .ok s ↔ k.output = some s.column ∧ k.direction = s.direction := by
  obtain ⟨column, direction⟩ := s
  unfold SortKey.outputSort
  cases k.output <;> simp

private theorem outputSort_of_sortColumn {s out : SortSpec} {k : SortKey}
    (hk : (t.sortColumn s.column >>= fun c ↦ .ok ⟨c.name, some c.name, s.direction⟩) = .ok k)
    (ho : k.outputSort = .ok out) : out = s ∧ s.column ∈ t.shownNames := by
  obtain ⟨c, hc, hk⟩ := Except.bind_eq_ok_iff.mp hk
  obtain ⟨hf, -, hv⟩ := sortColumn_eq_ok hc
  obtain ⟨hm, hn⟩ := mem_of_findColumn? hf
  cases hk
  cases ho
  rw [hn]
  refine ⟨rfl, List.mem_append_left _ ?_⟩
  rw [← hn]
  exact List.mem_map_of_mem (List.mem_filter.mpr ⟨hm, hv⟩)

private theorem pageOrder_eq_of_mapM {requested : List SortSpec} {keys : List SortKey}
    {outputs : List SortSpec} (hk : t.sortKeys requested = .ok keys)
    (ho : keys.mapM SortKey.outputSort = .ok outputs) :
    t.pageOrder requested = outputs ∧ ∀ s ∈ outputs, s.column ∈ t.shownNames := by
  have houtputs := Except.forall₂_of_mapM ho
  unfold sortKeys at hk
  unfold pageOrder
  split at hk
  · next hr =>
    cases hk
    have hall : List.Forall₂ (fun s out ↦
        (t.outputName? s.column).map (SortSpec.mk · s.direction) = some out)
        t.config.orderBy outputs := by
      refine (List.forall₂_map_left_iff.mp houtputs).imp fun s out h ↦ ?_
      obtain ⟨hc, hd⟩ := outputSort_eq_ok_iff.mp h
      rw [Option.map_eq_some_iff]
      exact ⟨out.column, hc, congrArg (SortSpec.mk out.column) hd⟩
    rw [if_pos hr]
    refine ⟨filterMap_eq_of_forall₂ hall, fun out hm ↦ ?_⟩
    obtain ⟨s, -, h⟩ := exists_of_forall₂ hall hm
    obtain ⟨name, hn, rfl⟩ := Option.map_eq_some_iff.mp h
    exact outputName?_mem_shownNames hn
  · next hr =>
    have hall : List.Forall₂ (fun s out ↦ out = s ∧ s.column ∈ t.shownNames) requested outputs := by
      refine forall₂_comp ?_ (Except.forall₂_of_mapM hk) houtputs
      exact fun s k out hs ho ↦ outputSort_of_sortColumn hs ho
    have heq : requested.filterMap some = outputs :=
      filterMap_eq_of_forall₂ (hall.imp fun s out h ↦ congrArg some h.1.symm)
    rw [if_neg hr, ← heq, List.filterMap_some]
    refine ⟨rfl, fun s hm ↦ ?_⟩
    obtain ⟨_, -, h⟩ := exists_of_forall₂ hall.flip hm
    exact h.2

private theorem externalName_of_mem {key : String} (h : key ∈ t.declaredNames) :
    t.externalName key = key := by
  rw [externalName, if_pos (by simpa using h)]

/-- A row under declared names loses the columns that serve paging and nothing else. -/
theorem shapeRow_ofList {pairs : List (String × Json)} (hn : (pairs.map (·.1)).Nodup)
    (hd : ∀ p ∈ pairs, p.1 ≠ totalCountColumn ∧ p.1 ≠ pageRowColumn → p.1 ∈ t.declaredNames) :
    t.shapeRow (Fields.ofList pairs) = Fields.ofList
      (pairs.filter fun p ↦ p.1 ≠ totalCountColumn && p.1 ≠ pageRowColumn) := by
  let serves (p : String × Json) : Bool := p.1 ≠ totalCountColumn && p.1 ≠ pageRowColumn
  let kept := (Fields.ofList pairs).filter serves
  have hkept : Fields.IsSorted kept := (Fields.isSorted_ofList pairs).sublist List.filter_sublist
  have hnames : kept.map (fun p ↦ (t.externalName p.1, p.2)) = kept := by
    refine (List.map_congr_left fun p hp ↦ ?_).trans (List.map_id _)
    obtain ⟨hp, hs⟩ := List.mem_filter.mp hp
    have hm := hd p ((Fields.mem_ofList hn).mp hp) (by simpa [serves] using hs)
    exact Prod.ext (externalName_of_mem hm) rfl
  have hpairs : ((pairs.filter serves).map (·.1)).Nodup :=
    hn.sublist (List.filter_sublist.map _)
  refine (congrArg Fields.ofList hnames).trans ?_
  refine (Fields.isSorted_ofList _).eq_of_mem_iff (Fields.isSorted_ofList _) fun p ↦ ?_
  rw [Fields.mem_ofList hkept.nodup_keys, Fields.mem_ofList hpairs, List.mem_filter,
    List.mem_filter, Fields.mem_ofList hn]

end ReportTemplate

/-- A row of a page as a map: its own values, its mark, and the number of all rows. -/
def markedFields (columns : List String) (row : List Json) (mark : Json) (total : Nat) : Fields :=
  Fields.ofList (columns.zip row ++ [(pageRowColumn, mark), (totalCountColumn, .ofNat total)])

private theorem Grid.fields_marked (g : Grid String) (total : Nat) :
    (g.marked total).fields =
      if g.rows.isEmpty then
        [markedFields g.columns (List.replicate g.columns.length .null) .null total]
      else g.rows.map fun row ↦ markedFields g.columns row (.ofNat 1) total := by
  have hzip {row : List Json} (hr : row.length = g.columns.length) (mark : Json) :
      Fields.ofList ((g.marked total).columns.zip (row ++ [mark, .ofNat total])) =
        markedFields g.columns row mark total :=
    congrArg Fields.ofList (List.zip_append hr.symm)
  unfold fields
  split
  · next he =>
    have hm : (g.marked total).rows =
        [List.replicate g.columns.length .null ++ [.null, .ofNat total]] := if_pos he
    rw [hm, List.map_singleton, hzip (by simp)]
  · next he =>
    have hm : (g.marked total).rows = g.rows.map (· ++ [.ofNat 1, .ofNat total]) := if_neg he
    rw [hm, List.map_map]
    exact List.map_congr_left fun row hm ↦ hzip (g.width row hm) _

section markedFields

variable {t : ReportTemplate} {columns : List String} {row : List Json}

private theorem nodup_markedFields (hn : columns.Nodup) (htotal : totalCountColumn ∉ columns)
    (hmark : pageRowColumn ∉ columns) (hr : row.length = columns.length) (mark : Json)
    (total : Nat) :
    ((columns.zip row ++ [(pageRowColumn, mark), (totalCountColumn, .ofNat total)]).map
      (·.1)).Nodup := by
  rw [List.map_append, List.map_fst_zip (by omega)]
  have hdiffer : [pageRowColumn, totalCountColumn].Nodup := by decide
  refine List.nodup_append.mpr ⟨hn, hdiffer, ?_⟩
  rintro name hm _ hs rfl
  rcases List.mem_pair.mp hs with rfl | rfl
  · exact hmark hm
  · exact htotal hm

private theorem shape_markedFields (hn : columns.Nodup)
    (hd : ∀ name ∈ columns, name ∈ t.declaredNames) (htotal : totalCountColumn ∉ columns)
    (hmark : pageRowColumn ∉ columns) (hr : row.length = columns.length) (mark : Json)
    (total : Nat) :
    isCountOnly (markedFields columns row mark total) = mark.isNull ∧
      (Fields.get? (markedFields columns row mark total) totalCountColumn).bind Json.count? =
        some total ∧
      t.shapeRow (markedFields columns row mark total) = Fields.ofList (columns.zip row) := by
  have hkeys := nodup_markedFields hn htotal hmark hr mark total
  refine ⟨?_, ?_, ?_⟩
  · have hg : Fields.get? (markedFields columns row mark total) pageRowColumn = some mark :=
      (Fields.get?_ofList_eq_some_iff hkeys).mpr (by simp)
    rw [isCountOnly, hg]
  · have hg : Fields.get? (markedFields columns row mark total) totalCountColumn =
        some (.ofNat total) := (Fields.get?_ofList_eq_some_iff hkeys).mpr (by simp)
    rw [hg]
    rfl
  · have hown : ∀ p ∈ columns.zip row, p.1 ≠ totalCountColumn ∧ p.1 ≠ pageRowColumn := by
      intro p hp
      have hm := (List.of_mem_zip hp).1
      exact ⟨fun he ↦ htotal (he ▸ hm), fun he ↦ hmark (he ▸ hm)⟩
    refine (ReportTemplate.shapeRow_ofList hkeys fun p hp hne ↦ ?_).trans ?_
    · rcases List.mem_append.mp hp with hp | hp
      · exact hd p.1 (List.of_mem_zip hp).1
      · rcases List.mem_pair.mp hp with rfl | rfl
        · exact absurd rfl hne.2
        · exact absurd rfl hne.1
    · rw [List.filter_append, List.filter_eq_self.mpr (by simpa using hown)]
      simp

private theorem ReportTemplate.shapeRows_marked {g : Grid String} (hn : g.columns.Nodup)
    (hd : ∀ name ∈ g.columns, name ∈ t.declaredNames) (htotal : totalCountColumn ∉ g.columns)
    (hmark : pageRowColumn ∉ g.columns) (total : Nat) :
    t.shapeRows (g.marked total).fields = ⟨g.fields, some total⟩ := by
  have hshape {row : List Json} (hr : row.length = g.columns.length) (mark : Json) :=
    shape_markedFields hn hd htotal hmark hr mark total
  rw [shapeRows, Grid.fields_marked]
  split
  · next he =>
    have hblank : (List.replicate g.columns.length Json.null).length = g.columns.length := by simp
    obtain ⟨hcount, htell, -⟩ := hshape hblank .null
    have hnone : g.rows = [] := List.isEmpty_iff.mp he
    simp [hcount, htell, hnone, Grid.fields, Json.isNull]
  · next he =>
    let mk (row : List Json) : Fields := markedFields g.columns row (.ofNat 1) total
    have hkeep : (g.rows.map mk).filter (fun row ↦ !isCountOnly row) = g.rows.map mk := by
      refine List.filter_eq_self.mpr (List.forall_mem_map.mpr fun row hm ↦ ?_)
      rw [(hshape (g.width row hm) _).1]
      rfl
    have hrows : (g.rows.map mk).map t.shapeRow = g.fields := by
      rw [List.map_map]
      exact List.map_congr_left fun row hm ↦ (hshape (g.width row hm) _).2.2
    have htell : ((g.rows.map mk).findSome? fun row ↦
        (Fields.get? row totalCountColumn).bind Json.count?) = some total := by
      obtain ⟨row, rest, hcons⟩ := List.exists_cons_of_ne_nil (mt List.isEmpty_iff.mpr he)
      have hr := g.width row (hcons ▸ List.mem_cons_self)
      rw [hcons, List.map_cons, List.findSome?_cons, (hshape hr _).2.1]
    exact congrArg₂ ShapedRows.mk ((congrArg (List.map _) hkeep).trans hrows) htell

end markedFields

/-- A statement that a page is asked of wraps the query over the sources. -/
theorem ReportTemplate.exists_paged_of_assemble {t : ReportTemplate} {request : QueryRequest}
    {limits : PageLimits} {a : AssembledQuery} (h : t.assemble request limits = .ok a)
    {wish : PageRequest} (hw : request.pagination = some wish) :
    t.problems = [] ∧ a.page = some (t.appliedPage wish limits) ∧
      (∀ s ∈ t.pageOrder request.sorting, s.column ∈ t.shownNames) ∧
      ∃ inner : Query, inner.ctes = [] ∧ inner.limitOffset = none ∧
        a.query = inner.paged (t.pageOrder request.sorting) (t.appliedPage wish limits) := by
  obtain ⟨q, hq, rfl⟩ := exists_plan_of_assemble h
  have hpage := hq.page
  unfold planPage at hpage
  rw [hw] at hpage
  dsimp only at hpage
  cases hm : q.sorts.mapM SortKey.outputSort with
  | error e =>
    rw [hm] at hpage
    cases hpage
  | ok outputs =>
    rw [hm] at hpage
    have hp : q.page = some (t.appliedPage wish limits, outputs) := (Except.ok.inj hpage).symm
    obtain ⟨rfl, hshown⟩ := pageOrder_eq_of_mapM hq.sorts hm
    refine ⟨hq.accepted, ?_, hshown,
      q.rows t (q.whereText t request.parameters) (q.havingText t request.parameters), rfl, rfl,
      ?_⟩
    · rw [StatementPlan.statement, hp]
      rfl
    · rw [StatementPlan.statement, StatementPlan.query, hp]

namespace RunRequest

variable {r : RunRequest} {e : Engine} {c : Catalog} {saved : Option SavedQuery} {p : PreparedRun}
  {wish : PageRequest} {g : Grid String}

private theorem result?_of_readies (hr : r.Readies e c saved p) (hw : r.pagination = some wish)
    (o : ValueOrder) (stored : Query → Option (Grid String))
    (hcolumns : g.columns = p.template.shownNames)
    (hrows : ∀ inner, (rowsRelation, inner) ∈ p.statement.query.ctes → stored inner = some g) :
    let page := p.template.appliedPage wish e.settings.pageLimits
    p.statement.query.result? o stored [] =
      some (((g.sortedBy o (p.template.pageOrder r.sorting)).cut page.pageSize page.offset).marked
        g.rows.length) := by
  intro page
  obtain ⟨-, -, hshown, inner, hctes, -, hquery⟩ :=
    ReportTemplate.exists_paged_of_assemble hr.statement hw
  have hinner : stored inner = some g := hrows inner (by rw [hquery]; exact List.mem_cons_self)
  rw [hquery]
  exact Query.result?_paged hctes hinner (fun s hm ↦ hcolumns ▸ hshown s hm) page

/-- A run that asks for a page gets this page of the sorted rows, without the columns that serve
paging, and the number of all rows. Behind the last row there are no rows, but their number is the
same. -/
theorem paged_execute (hr : r.Readies e c saved p) (hw : r.pagination = some wish) (o : ValueOrder)
    (stored : Query → Option (Grid String)) (hcolumns : g.columns = p.template.shownNames)
    (htotal : totalCountColumn ∉ g.columns) (hmark : pageRowColumn ∉ g.columns)
    (hrows : ∀ inner, (rowsRelation, inner) ∈ p.statement.query.ctes → stored inner = some g)
    (hstorage : ∀ answer, p.statement.query.result? o stored [] = some answer →
      ((e.storage p.statement.bound).run c).1 = .ok answer.fields) :
    let page := p.template.appliedPage wish e.settings.pageLimits
    let sorted := g.sortedBy o (p.template.pageOrder r.sorting)
    ∃ response, (r.execute e c).result = .ok response ∧
      response.data = (sorted.fields.drop page.offset).take page.pageSize ∧
      response.totalCount = some g.rows.length ∧
      (g.rows.length ≤ page.offset → response.data = []) := by
  intro page sorted
  obtain ⟨haccepted, hpage, -⟩ := ReportTemplate.exists_paged_of_assemble hr.statement hw
  let cut := sorted.cut page.pageSize page.offset
  have hsent : ((e.storage p.statement.bound).run c).1 =
      .ok (cut.marked g.rows.length).fields :=
    hstorage _ (result?_of_readies hr hw o stored hcolumns hrows)
  have hshaped : p.template.shapeRows (cut.marked g.rows.length).fields =
      ⟨cut.fields, some g.rows.length⟩ := by
    refine ReportTemplate.shapeRows_marked (g := cut) ?_ (fun name hm ↦ ?_) htotal hmark _
    · exact hcolumns ▸ ReportTemplate.nodup_shownNames haccepted
    · exact p.template.shownNames_sublist.mem (hcolumns ▸ hm)
  have hdata : cut.fields = (sorted.fields.drop page.offset).take page.pageSize :=
    (Grid.window_map (some page.pageSize) (some page.offset) _ _).symm
  have hlength : sorted.fields.length = g.rows.length :=
    (List.length_map _).trans (List.length_mergeSort g.rows)
  refine ⟨_, result_of_readies hr hsent, (congrArg ShapedRows.rows hshaped).trans hdata, ?_,
    fun hpast ↦ ?_⟩
  · rw [PreparedRun.response, hpage, hshaped]
    rfl
  · refine ((congrArg ShapedRows.rows hshaped).trans hdata).trans ?_
    rw [List.drop_eq_nil_of_le (by omega), List.take_nil]

end RunRequest

/-- The order of values by a number that stands for each. -/
def ValueOrder.byKey (key : Json → Int) : ValueOrder where
  le a b := key a ≤ key b
  trans a b c hab hbc := by
    simp only [decide_eq_true_eq] at *
    omega
  total a b := by
    simp only [Bool.or_eq_true, decide_eq_true_eq]
    omega

/-- The order of natural numbers and null, which comes first. -/
def nullFirst : ValueOrder := .byKey fun v ↦
  match v with
  | .number (.int i) => i
  | _ => -1

/-- Three orders, the first of which has no total. -/
def threeOrders : Grid String where
  columns := ["id", "total"]
  rows := [[.ofNat 1, .null], [.ofNat 2, .ofNat 5], [.ofNat 3, .ofNat 7]]
  width := by simp

/-- A catalog with a public report on the totals of orders. -/
def totalsCatalog : Catalog :=
  { templates :=
      [("orders",
        "\x7b\"id\":\"orders\",\"name\":\"\",\"isPublic\":true," ++
          "\"dataSources\":[\x7b\"name\":\"orders\"\x7d],\"config\":\x7b\"columns\":[" ++
          "\x7b\"name\":\"id\"\x7d,\x7b\"name\":\"total\",\"sortable\":true\x7d]\x7d\x7d")] }

/-- A request for the second page of orders by falling total, two on a page. -/
def secondPage : RunRequest :=
  { reportId := "orders"
    sorting := [⟨"total", .desc⟩]
    pagination := some { page := 2, pageSize := some 2 } }

/-- An engine whose storage holds three orders and is asked for the last of them by falling total.
-/
def threeOrdersEngine : Engine :=
  { storage := fun _ ↦ .ok
      [Fields.ofList [("id", .ofNat 1), ("total", .null), (pageRowColumn, .ofNat 1),
        (totalCountColumn, .ofNat 3)]] }

/-- The second page of three orders holds the one without a total, and tells that there are three.
-/
theorem paged_threeOrders :
    ∃ response, (secondPage.execute threeOrdersEngine totalsCatalog).result = .ok response ∧
      response.data = [Fields.ofList [("id", .ofNat 1), ("total", .null)]] ∧
      response.totalCount = some 3 := by
  have hready : ((secondPage.prepare threeOrdersEngine totalsCatalog).toOption.map fun p ↦
      (p.template.shownNames,
        p.template.appliedPage ⟨2, some 2⟩ threeOrdersEngine.settings.pageLimits,
        p.template.pageOrder secondPage.sorting)) =
      some (threeOrders.columns, ⟨2, 2, 2⟩, [⟨"total", .desc⟩]) := by
    decide +kernel
  obtain ⟨p, hp, hparts⟩ := Except.exists_ok_of_toOption hready
  simp only [Prod.mk.injEq] at hparts
  obtain ⟨hcolumns, hpage, horder⟩ := hparts
  obtain ⟨saved, hr⟩ := RunRequest.prepare_eq_ok_iff.mp hp
  have hsorted : (threeOrders.sortedBy nullFirst [⟨"total", .desc⟩]).rows =
      [[.ofNat 3, .ofNat 7], [.ofNat 2, .ofNat 5], [.ofNat 1, .null]] := by
    simp [Grid.sortedBy, Grid.sorted, Grid.cell, threeOrders, nullFirst, ValueOrder.byKey,
      ValueOrder.rowLe, ValueOrder.directed, List.mergeSort, List.MergeSort.Internal.splitInTwo,
      Json.ofNat]
  obtain ⟨response, hresult, hdata, htotal, -⟩ :=
    RunRequest.paged_execute (g := threeOrders) hr rfl nullFirst (fun _ ↦ some threeOrders)
      hcolumns.symm (by decide) (by decide) (fun _ _ ↦ rfl) fun answer hanswer ↦ by
        rw [RunRequest.result?_of_readies (g := threeOrders) hr rfl nullFirst
          (fun _ ↦ some threeOrders) hcolumns.symm fun _ _ ↦ rfl, horder, hpage] at hanswer
        cases hanswer
        rw [Grid.fields_marked, Grid.rows_cut, hsorted]
        rfl
  refine ⟨response, hresult, ?_, htotal⟩
  rw [hdata, hpage, horder, Grid.fields, hsorted]
  rfl

end TabularReport

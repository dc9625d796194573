import TabularReport.Proofs.Run.RowNames

/-!
# Runs without pages

A run that asks for no page returns the rows of storage. Rows that have the names of the report for
keys come back as they are, unless the report shows a name that serves paging: what is stored under
it is taken out of every run, and a row that is marked as a mere count goes as a whole.
-/

namespace TabularReport

/-- The columns that serve paging. -/
def helperColumns : List String := [totalCountColumn, pageRowColumn]

private theorem isCountOnly_eq_true_iff {row : Fields} :
    isCountOnly row = true ↔ Fields.get? row pageRowColumn = some .null := by
  unfold isCountOnly
  cases Fields.get? row pageRowColumn with
  | none => simp
  | some v => cases v <;> simp [Json.isNull]

namespace ReportTemplate

/-- Whether a row has one value for each name that a report shows, and nothing else. -/
structure Fills (t : ReportTemplate) (row : Fields) : Prop where
  sorted : Fields.IsSorted row
  keys : (row.map (·.1)).Perm t.shownNames

variable {t : ReportTemplate} {row : Fields}

private theorem Fills.shapeRow_eq (h : t.Fills row) :
    t.shapeRow row = row.filter fun p ↦ p.1 ∉ helperColumns := by
  have hkeys := h.sorted.nodup_keys
  have hshape := shapeRow_ofList (t := t) hkeys fun p hp _ ↦
    t.shownNames_sublist.mem (h.keys.mem_iff.mp (List.mem_map_of_mem hp))
  rw [h.sorted.ofList_eq] at hshape
  have hserves : (fun p : String × Json ↦ decide (p.1 ≠ totalCountColumn) &&
      decide (p.1 ≠ pageRowColumn)) = fun p ↦ decide (p.1 ∉ helperColumns) := by
    funext p
    simp [helperColumns]
  rw [hshape, hserves]
  exact Fields.IsSorted.ofList_eq (List.Pairwise.sublist List.filter_sublist h.sorted)

private theorem Fills.shapeRow_eq_self_iff (h : t.Fills row) :
    t.shapeRow row = row ↔ ∀ name ∈ t.shownNames, name ∉ helperColumns := by
  rw [h.shapeRow_eq, List.filter_eq_self]
  simp only [decide_eq_true_eq]
  rw [← List.forall_mem_map (f := fun p : String × Json ↦ p.1)
    (P := fun name ↦ name ∉ helperColumns)]
  exact forall_congr' fun name ↦ imp_congr_left h.keys.mem_iff

private theorem Fills.not_isCountOnly (h : t.Fills row) (hn : pageRowColumn ∉ t.shownNames) :
    isCountOnly row = false := by
  have hnone : Fields.get? row pageRowColumn = none :=
    Fields.get?_eq_none fun p hp he ↦
      hn (he ▸ h.keys.mem_iff.mp (List.mem_map_of_mem (f := (·.1)) hp))
  rw [isCountOnly, hnone]

private theorem shapeRows_eq {rows : List Fields} (h : ∀ row ∈ rows, t.Fills row) :
    (t.shapeRows rows).rows =
      (rows.filter (!isCountOnly ·)).map (·.filter fun p ↦ p.1 ∉ helperColumns) :=
  List.map_congr_left fun row hm ↦ (h row (List.mem_of_mem_filter hm)).shapeRow_eq

private theorem shapeRows_eq_self_iff {rows : List Fields} (h : ∀ row ∈ rows, t.Fills row) :
    (t.shapeRows rows).rows = rows ↔
      rows = [] ∨ ∀ name ∈ t.shownNames, name ∉ helperColumns := by
  constructor
  · intro hrows
    cases rows with
    | nil => exact .inl rfl
    | cons row rest =>
      have hlength := congrArg List.length hrows
      rw [shapeRows, List.length_map, List.length_filter_eq_length_iff] at hlength
      have hkept := List.filter_eq_self.mpr hlength
      rw [shapeRows, hkept, List.map_cons, List.cons.injEq] at hrows
      exact .inr ((h row List.mem_cons_self).shapeRow_eq_self_iff.mp hrows.1)
  · rintro (rfl | hclear)
    · rfl
    · have hmark : pageRowColumn ∉ t.shownNames := fun hm ↦ hclear _ hm (by decide)
      have hkept : rows.filter (fun row ↦ !isCountOnly row) = rows :=
        List.filter_eq_self.mpr fun row hm ↦ by rw [(h row hm).not_isCountOnly hmark]; rfl
      rw [shapeRows, hkept]
      refine (List.map_congr_left fun row hm ↦ ?_).trans (List.map_id _)
      exact (h row hm).shapeRow_eq_self_iff.mpr hclear

end ReportTemplate

namespace RunRequest

variable {r : RunRequest} {e : Engine} {c : Catalog} {saved : Option SavedQuery} {p : PreparedRun}

private theorem result_of_unpaged (hr : r.Readies e c saved p) (hw : r.pagination = none)
    {rows : List Fields} (hrows : ((e.storage p.statement.bound).run c).1 = .ok rows) :
    ∃ response, (r.execute e c).result = .ok response ∧
      response.data = (p.template.shapeRows rows).rows ∧
      response.execution.rowCount = response.data.length ∧ response.totalCount = none := by
  have hpage : p.statement.page = none := by
    have hsome := ReportTemplate.isSome_page hr.statement
    rw [query, hw] at hsome
    exact Option.isNone_iff_eq_none.mp (by simpa using hsome)
  exact ⟨_, result_of_readies hr hrows, rfl, rfl, by rw [PreparedRun.response, hpage]; rfl⟩

/-- A run that asks for no page returns the rows of storage that are not mere counts, without what
they hold under names that serve paging. They are all rows as they are exactly when there are none
or the report shows no such name, and no row is missing exactly when none is marked as a mere count.
-/
theorem unpaged_execute (hr : r.Readies e c saved p) (hw : r.pagination = none)
    {rows : List Fields} (hrows : ((e.storage p.statement.bound).run c).1 = .ok rows)
    (hf : ∀ row ∈ rows, p.template.Fills row) :
    ∃ response, (r.execute e c).result = .ok response ∧
      response.data = (rows.filter (!isCountOnly ·)).map
        (·.filter fun pair ↦ pair.1 ∉ helperColumns) ∧
      response.execution.rowCount = response.data.length ∧ response.totalCount = none ∧
      (response.data = rows ↔
        rows = [] ∨ ∀ name ∈ p.template.shownNames, name ∉ helperColumns) ∧
      (response.execution.rowCount = rows.length ↔
        ∀ row ∈ rows, Fields.get? row pageRowColumn ≠ some .null) := by
  obtain ⟨response, hresult, hdata, hcount, htotal⟩ := result_of_unpaged hr hw hrows
  refine ⟨response, hresult, ?_, hcount, htotal, ?_, ?_⟩
  · rw [hdata, ReportTemplate.shapeRows_eq hf]
  · rw [hdata, ReportTemplate.shapeRows_eq_self_iff hf]
  · rw [hcount, hdata, ReportTemplate.shapeRows_eq hf, List.length_map,
      List.length_filter_eq_length_iff]
    refine forall₂_congr fun row _ ↦ ?_
    rw [Bool.not_eq_true', ← Bool.not_eq_true, isCountOnly_eq_true_iff]

end RunRequest

/-- A request for all orders. -/
def allOrders : RunRequest := { reportId := "orders" }

/-- Two orders, the second of which has no total. -/
def twoOrders : List Fields :=
  [[("id", .ofNat 1), ("total", .ofNat 5)], [("id", .ofNat 2), ("total", .null)]]

/-- All orders come back as storage holds them. -/
theorem unpaged_twoOrders :
    ∃ response, (allOrders.execute { storage := fun _ ↦ .ok twoOrders } totalsCatalog).result =
        .ok response ∧
      response.data = twoOrders ∧ response.execution.rowCount = 2 := by
  have hshown : ((allOrders.prepare { storage := fun _ ↦ .ok twoOrders } totalsCatalog).toOption.map
      (·.template.shownNames)) = some ["id", "total"] := by
    decide +kernel
  obtain ⟨p, hp, hshown⟩ := Except.exists_ok_of_toOption hshown
  obtain ⟨saved, hr⟩ := RunRequest.prepare_eq_ok_iff.mp hp
  have hf : ∀ row ∈ twoOrders, p.template.Fills row := by
    have hsorted : ∀ row ∈ twoOrders, Fields.IsSorted row := by
      unfold Fields.IsSorted
      decide +kernel
    have hkeys : ∀ row ∈ twoOrders, row.map (·.1) = ["id", "total"] := by decide +kernel
    exact fun row hm ↦ ⟨hsorted row hm, by rw [hkeys row hm, hshown]⟩
  obtain ⟨response, hresult, -, hcount, -, hall, -⟩ :=
    RunRequest.unpaged_execute hr rfl rfl hf
  have hdata : response.data = twoOrders := hall.mpr (.inr (by rw [hshown]; decide +kernel))
  exact ⟨response, hresult, hdata, by rw [hcount, hdata]; rfl⟩

/-- A catalog with a public report on orders that shows a mark of each order, under the name that
marks the rows of a page. -/
def marksCatalog : Catalog :=
  { templates :=
      [("orders",
        "\x7b\"id\":\"orders\",\"name\":\"\",\"isPublic\":true," ++
          "\"dataSources\":[\x7b\"name\":\"orders\"\x7d],\"config\":\x7b\"columns\":[" ++
          "\x7b\"name\":\"id\"\x7d,\x7b\"name\":\"__page_row\"\x7d]\x7d\x7d")] }

/-- Two orders, the second of which has no mark. -/
def markedOrders : List Fields :=
  [[("__page_row", .ofNat 7), ("id", .ofNat 1)], [("__page_row", .null), ("id", .ofNat 2)]]

/-- A run that asks for no page loses the marks of the orders, and the order without a mark. -/
theorem unpaged_markedOrders :
    ∃ p response,
      allOrders.prepare { storage := fun _ ↦ .ok markedOrders } marksCatalog = .ok p ∧
      p.template.problems = [] ∧ p.template.shownNames = ["id", "__page_row"] ∧
      (∀ row ∈ markedOrders, p.template.Fills row) ∧
      (allOrders.execute { storage := fun _ ↦ .ok markedOrders } marksCatalog).result =
        .ok response ∧
      response.data = [[("id", .ofNat 1)]] ∧ response.execution.rowCount = 1 := by
  have hshown : ((allOrders.prepare { storage := fun _ ↦ .ok markedOrders }
      marksCatalog).toOption.map fun p ↦ (p.template.problems, p.template.shownNames)) =
      some ([], ["id", "__page_row"]) := by
    decide +kernel
  obtain ⟨p, hp, hparts⟩ := Except.exists_ok_of_toOption hshown
  obtain ⟨haccepted, hshown⟩ := Prod.mk.inj hparts
  obtain ⟨saved, hr⟩ := RunRequest.prepare_eq_ok_iff.mp hp
  have hf : ∀ row ∈ markedOrders, p.template.Fills row := by
    have hsorted : ∀ row ∈ markedOrders, Fields.IsSorted row := by
      unfold Fields.IsSorted
      decide +kernel
    have hkeys : ∀ row ∈ markedOrders, row.map (·.1) = ["__page_row", "id"] := by decide +kernel
    exact fun row hm ↦ ⟨hsorted row hm, by rw [hkeys row hm, hshown]; exact .swap _ _ _⟩
  obtain ⟨response, hresult, hdata, hcount, -⟩ :=
    RunRequest.result_of_unpaged hr rfl rfl
  have hleft : response.data = [[("id", .ofNat 1)]] := by
    rw [hdata, ReportTemplate.shapeRows_eq hf]
    rfl
  exact ⟨p, response, hp, haccepted, hshown, hf, hresult, hleft, by rw [hcount, hleft]; rfl⟩

end TabularReport

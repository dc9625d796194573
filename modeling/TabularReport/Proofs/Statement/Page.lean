import TabularReport.Proofs.Statement.Answer

/-!
# What a wrapped statement answers

The common table expressions of a wrapped statement are the rows of the query over the sources,
their number, and the page that is cut from the sorted rows. Its last part puts the number beside
the page, or beside nulls when the page is empty, and leaves the order of the page as it is.
-/

namespace TabularReport

namespace Grid

/-- One row that holds a number of rows. -/
def counting (n : Nat) : Grid String := ⟨[totalCountColumn], [[.ofNat n]], by simp⟩

/-- A page beside the number of all rows, as a wrapped statement reads them. -/
def beside (h : Grid String) (n : Nat) : Grid Head :=
  ((counting n).renamed (countRelation, ·)).leftJoin (h.renamed (pageRelation, ·))

private theorem columns_beside (h : Grid String) (n : Nat) :
    (h.beside n).columns =
      [(countRelation, totalCountColumn)] ++ h.columns.map (pageRelation, ·) := rfl

private theorem rows_beside (h : Grid String) (n : Nat) :
    (h.beside n).rows = h.rowsOrBlank.map ([.ofNat n] ++ ·) := by
  have hr : (h.renamed (pageRelation, ·)).rowsOrBlank = h.rowsOrBlank := by
    simp [rowsOrBlank, renamed]
  rw [← hr]
  exact List.flatMap_singleton _ _

/-- The rows with two more columns: what marks a row of a page, and the number of all rows. Without
rows there is one that only counts. -/
def marked (g : Grid String) (total : Nat) : Grid String where
  columns := g.columns ++ [pageRowColumn, totalCountColumn]
  rows :=
    if g.rows.isEmpty then [List.replicate g.columns.length .null ++ [.null, .ofNat total]]
    else g.rows.map (· ++ [.ofNat 1, .ofNat total])
  width := by
    intro row hrow
    split at hrow
    · rw [List.mem_singleton.mp hrow]
      simp
    · obtain ⟨row, hr, rfl⟩ := List.mem_map.mp hrow
      simp [g.width row hr]

end Grid

namespace Query

variable {o : ValueOrder} {stored : Query → Option (Grid String)} {relations : Relations}

private theorem selected?_renamed (g : Grid String) (name : String) :
    ∃ h, (g.renamed (name, ·)).selected?
        [{ expr := .star (some name) }, ⟨.raw "1", some pageRowColumn⟩] = some h ∧
      h.columns = g.columns ++ [pageRowColumn] ∧ h.rows = g.rows.map (· ++ [.ofNat 1]) := by
  refine ⟨_, rfl, ?_, ?_⟩
  · exact congrArg (· ++ [pageRowColumn])
      (SelectItem.names_star [] g.columns (by simp) none)
  · refine List.map_congr_left fun row hm ↦ ?_
    exact congrArg (· ++ [Json.ofNat 1]) (SelectItem.values_star [] g.columns (by simp)
      (Eq.refl [].length) (g.width row hm) none)

private theorem selected?_rows {g : Grid String}
    (hg : relations.find? (·.1 == rowsRelation) = some (rowsRelation, g)) {sorts : List SortSpec}
    (hs : ∀ s ∈ sorts, s.column ∈ g.columns) (page : AppliedPage) :
    ∃ h, ({ items := [{ expr := .star (some rowsRelation) }, ⟨.raw "1", some pageRowColumn⟩]
            source := some { table := rowsRelation }
            order := sorts.map fun s => ⟨.column none s.column, s.direction⟩
            limitOffset := some ⟨some page.pageSize, some page.offset⟩ } : Query).selected? o
          relations = some h ∧
      h.columns = g.columns ++ [pageRowColumn] ∧
      h.rows = ((g.sortedBy o sorts).cut page.pageSize page.offset).rows.map (· ++ [.ofNat 1]) := by
  obtain ⟨h, hh, hcolumns, hrows⟩ := selected?_renamed (g.sortedBy o sorts) rowsRelation
  refine ⟨h.cut page.pageSize page.offset, ?_, hcolumns, ?_⟩
  · unfold selected?
    rw [if_neg (by simp)]
    simp only [Option.bind_eq_bind, Option.bind_some, grid?_eq hg, List.foldlM_nil, Option.pure_def,
      ordered?_renamed rowsRelation hs, hh]
  · rw [Grid.rows_cut, hrows, Grid.window_map, Grid.rows_cut]

private theorem selected?_count {g : Grid String}
    (hg : relations.find? (·.1 == rowsRelation) = some (rowsRelation, g)) :
    ({ items := [⟨.raw "COUNT(*)", some totalCountColumn⟩]
       source := some { table := rowsRelation } } : Query).selected? o relations =
      some (Grid.counting g.rows.length) := by
  unfold selected?
  rw [if_neg (by simp)]
  simp only [Option.bind_eq_bind, Option.bind_some, grid?_eq hg, List.foldlM_nil, Option.pure_def]
  refine congrArg some (Grid.ext rfl ?_)
  exact congrArg (fun n ↦ [[Json.ofNat n]]) (List.length_mergeSort g.rows)

private theorem ordered?_beside {h : Grid String} {sorts : List SortSpec}
    (hs : ∀ s ∈ sorts, s.column ∈ h.columns)
    (hsorted : h.rows.Pairwise fun a b ↦ o.rowLe
      (sorts.map fun s ↦ (s.direction, Grid.cell h.columns (· == s.column))) a b = true) (n : Nat) :
    (h.beside n).ordered? o
        (sorts.map fun s ↦ ⟨.column (some pageRelation) s.column, s.direction⟩) =
      some (h.beside n) := by
  have hcell (s : SortSpec) (row : List Json) :
      Grid.cell (h.beside n).columns (ColumnExpr.column (some pageRelation) s.column).means
        ([.ofNat n] ++ row) = Grid.cell h.columns (· == s.column) row := by
    have hcount : (ColumnExpr.column (some pageRelation) s.column).means
        (countRelation, totalCountColumn) = false := rfl
    rw [Grid.columns_beside, List.singleton_append, List.singleton_append,
      Grid.cell_cons hcount, Grid.cell_map]
    rfl
  unfold Grid.ordered?
  rw [List.map_map, if_pos]
  · refine congrArg some (Grid.ext rfl (List.mergeSort_of_pairwise ?_))
    rw [Grid.rows_beside, List.pairwise_map]
    unfold Grid.rowsOrBlank
    split
    · exact List.pairwise_singleton _ _
    · refine hsorted.imp fun {a b} hab ↦ ?_
      rw [← hab]
      exact o.rowLe_congr fun s _ ↦ ⟨hcell s a, hcell s b⟩
  · refine List.all_eq_true.mpr (List.forall_mem_map.mpr fun s hm ↦ ?_)
    simpa [ColumnExpr.isColumnOf, ColumnExpr.means, Grid.columns_beside] using .inr (hs s hm)

private theorem selected?_beside (h : Grid String) (n : Nat) :
    ∃ k, (h.beside n).selected? [{ expr := .star (some pageRelation) },
        { expr := .column (some countRelation) totalCountColumn }] = some k ∧
      k.columns = h.columns ++ [totalCountColumn] ∧
      k.rows = h.rowsOrBlank.map (· ++ [.ofNat n]) := by
  have hne : ∀ head ∈ [(countRelation, totalCountColumn)], head.1 ≠ pageRelation := by decide
  refine ⟨_, rfl, ?_, ?_⟩
  · exact congrArg (· ++ [totalCountColumn]) (SelectItem.names_star _ h.columns hne none)
  · refine (congrArg (List.map _) (Grid.rows_beside h n)).trans ?_
    rw [List.map_map]
    refine List.map_congr_left fun row hm ↦ ?_
    exact congrArg (· ++ [Json.ofNat n]) (SelectItem.values_star _ h.columns hne
      (Eq.refl [Json.ofNat n].length) (h.width_rowsOrBlank row hm) none)

private theorem relations?_paged {inner : Query} (hi : inner.ctes = []) {g : Grid String}
    (hg : stored inner = some g) {sorts : List SortSpec} (hs : ∀ s ∈ sorts, s.column ∈ g.columns)
    (page : AppliedPage) :
    ∃ h, relations? o stored [] (inner.paged sorts page).ctes =
        some [(pageRelation, h), (countRelation, .counting g.rows.length), (rowsRelation, g)] ∧
      h.columns = g.columns ++ [pageRowColumn] ∧
      h.rows = ((g.sortedBy o sorts).cut page.pageSize page.offset).rows.map (· ++ [.ofNat 1]) := by
  have hrows : inner.result? o stored [] = some g := by
    rw [result?_eq, hi, ← hg]
    cases inner
    cases hi
    rfl
  let counted : Relations := [(countRelation, .counting g.rows.length), (rowsRelation, g)]
  have hfound : counted.find? (·.1 == rowsRelation) = some (rowsRelation, g) := rfl
  obtain ⟨h, hh, hparts⟩ := selected?_rows (o := o) hfound hs page
  refine ⟨h, ?_, hparts⟩
  unfold paged
  rw [relations?_cons, hrows, Option.bind_some, relations?_cons, result?_eq, relations?,
    Option.bind_some, if_neg (by simp), selected?_count rfl, Option.bind_some, relations?_cons,
    result?_eq, relations?, Option.bind_some, if_neg (by simp), hh, Option.bind_some, relations?]

private theorem pairwise_page {g h : Grid String}
    (hcolumns : h.columns = g.columns ++ [pageRowColumn]) {sorts : List SortSpec}
    (hs : ∀ s ∈ sorts, s.column ∈ g.columns) {limit offset : Option Nat}
    (hrows : h.rows = ((g.sortedBy o sorts).cut limit offset).rows.map (· ++ [.ofNat 1])) :
    h.rows.Pairwise fun a b ↦ o.rowLe
      (sorts.map fun s ↦ (s.direction, Grid.cell h.columns (· == s.column))) a b = true := by
  let shown := (g.sortedBy o sorts).cut limit offset
  have hsorted : shown.rows.Pairwise fun a b ↦ o.rowLe
      (sorts.map fun s ↦ (s.direction, Grid.cell g.columns (· == s.column))) a b = true :=
    (g.pairwise_sortedBy o sorts).sublist (Grid.window_sublist limit offset _)
  have hcell {row : List Json} (hrow : row ∈ shown.rows) : ∀ s ∈ sorts,
      Grid.cell h.columns (· == s.column) (row ++ [.ofNat 1]) =
        Grid.cell g.columns (· == s.column) row := by
    intro s hm
    rw [hcolumns]
    exact Grid.cell_append (by simpa using hs s hm) (shown.width row hrow)
  rw [hrows, List.pairwise_map]
  refine hsorted.imp_of_mem fun {a b} ha hb hab ↦ ?_
  rw [← hab]
  exact o.rowLe_congr fun s hm ↦ ⟨hcell ha s hm, hcell hb s hm⟩

private theorem selected?_paged {h : Grid String} {n : Nat}
    (hcount : relations.find? (·.1 == countRelation) = some (countRelation, .counting n))
    (hpage : relations.find? (·.1 == pageRelation) = some (pageRelation, h))
    {sorts : List SortSpec} (hs : ∀ s ∈ sorts, s.column ∈ h.columns)
    (hsorted : h.rows.Pairwise fun a b ↦ o.rowLe
      (sorts.map fun s ↦ (s.direction, Grid.cell h.columns (· == s.column))) a b = true)
    (inner : Query) (page : AppliedPage) :
    ∃ k, (inner.paged sorts page).selected? o relations = some k ∧
      k.columns = h.columns ++ [totalCountColumn] ∧
      k.rows = h.rowsOrBlank.map (· ++ [.ofNat n]) := by
  obtain ⟨k, hk, hparts⟩ := selected?_beside h n
  have hjoined : ((Grid.counting n).renamed (countRelation, ·)).joined?
      (h.renamed (pageRelation, ·)) ⟨.left, { table := pageRelation }, some "TRUE"⟩ =
        some (h.beside n) := rfl
  refine ⟨k, ?_, hparts⟩
  unfold selected? paged
  rw [if_neg (by simp)]
  simp only [Option.bind_eq_bind, Option.bind_some, List.foldlM_cons, List.foldlM_nil,
    Option.pure_def, grid?_eq hcount, grid?_eq hpage, hjoined, ordered?_beside hs hsorted n, hk,
    Option.bind_none, Grid.cut_none]

/-- A wrapped statement answers with the page of the rows and their number. -/
theorem result?_paged {inner : Query} (hi : inner.ctes = []) {g : Grid String}
    (hg : stored inner = some g) {sorts : List SortSpec} (hs : ∀ s ∈ sorts, s.column ∈ g.columns)
    (page : AppliedPage) :
    (inner.paged sorts page).result? o stored [] =
      some (((g.sortedBy o sorts).cut page.pageSize page.offset).marked g.rows.length) := by
  obtain ⟨h, hrelations, hcolumns, hrows⟩ := relations?_paged (o := o) hi hg hs page
  have hs' : ∀ s ∈ sorts, s.column ∈ h.columns := fun s hm ↦ by simp [hcolumns, hs s hm]
  let found : Relations :=
    [(pageRelation, h), (countRelation, .counting g.rows.length), (rowsRelation, g)]
  have hcount : found.find? (·.1 == countRelation) =
      some (countRelation, .counting g.rows.length) := rfl
  have hpage : found.find? (·.1 == pageRelation) = some (pageRelation, h) := rfl
  obtain ⟨k, hk, hkcolumns, hkrows⟩ :=
    selected?_paged hcount hpage hs' (pairwise_page hcolumns hs hrows) inner page
  rw [result?_eq, hrelations, Option.bind_some, if_neg (by simp), hk]
  refine congrArg some (Grid.ext ?_ ?_)
  · rw [hkcolumns, hcolumns, List.append_assoc]
    rfl
  · rw [hkrows, Grid.rowsOrBlank, hrows, Grid.marked, List.isEmpty_map]
    dsimp only
    split
    · simp [hcolumns, List.replicate_succ']
    · simp

end Query

end TabularReport

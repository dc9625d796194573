import TabularReport.Proofs.Statement.Scope

/-!
# What queries answer

Queries over common table expressions are given the meaning that the language gives them: the
relation that a query starts from, others joined to it, the rows in an order and cut to a number,
and the items of the select list taken from each row. Only what a wrapped statement is made of has a
meaning here; a query that reads no common table expression is answered by the store.
-/

namespace TabularReport

/-- How values are ordered when rows are sorted: by any total preorder, so that nulls may come first
or last and different values may stand at one place. -/
structure ValueOrder where
  le : Json → Json → Bool
  trans : ∀ a b c, le a b = true → le b c = true → le a c = true
  total : ∀ a b, (le a b || le b a) = true

namespace ValueOrder

variable {α β σ : Type} (o : ValueOrder)

/-- Whether a value may stand before another in a direction. -/
def directed : SortDirection → Json → Json → Bool
  | .asc, a, b => o.le a b
  | .desc, a, b => o.le b a

/-- Whether a row may stand before another: the first key in which they differ decides. -/
def rowLe : List (SortDirection × (α → Json)) → α → α → Bool
  | [], _, _ => true
  | (d, key) :: rest, a, b =>
    o.directed d (key a) (key b) && (!o.directed d (key b) (key a) || rowLe rest a b)

private theorem directed_trans {d : SortDirection} {a b c : Json} (hab : o.directed d a b = true)
    (hbc : o.directed d b c = true) : o.directed d a c = true := by
  cases d with
  | asc => exact o.trans a b c hab hbc
  | desc => exact o.trans c b a hbc hab

private theorem directed_total (d : SortDirection) (a b : Json) :
    o.directed d a b = true ∨ o.directed d b a = true := by
  cases d with
  | asc => exact Bool.or_eq_true _ _ ▸ o.total a b
  | desc => exact Bool.or_eq_true _ _ ▸ o.total b a

private theorem rowLe_trans (keys : List (SortDirection × (α → Json))) (a b c : α)
    (hab : o.rowLe keys a b = true) (hbc : o.rowLe keys b c = true) : o.rowLe keys a c = true := by
  induction keys with
  | nil => rfl
  | cons k rest ih =>
    simp only [rowLe, Bool.and_eq_true, Bool.or_eq_true, Bool.not_eq_true'] at hab hbc ⊢
    refine ⟨o.directed_trans hab.1 hbc.1, ?_⟩
    -- When `c` may stand before `a` in the first key, all three are equal in it.
    by_cases hca : o.directed k.1 (k.2 c) (k.2 a) = true
    · have hba := o.directed_trans hbc.1 hca
      have hcb := o.directed_trans hca hab.1
      exact .inr (ih (hab.2.resolve_left (by simp [hba])) (hbc.2.resolve_left (by simp [hcb])))
    · exact .inl (Bool.eq_false_iff.mpr hca)

private theorem rowLe_total (keys : List (SortDirection × (α → Json))) (a b : α) :
    (o.rowLe keys a b || o.rowLe keys b a) = true := by
  induction keys with
  | nil => rfl
  | cons k rest ih =>
    have ht := o.directed_total k.1 (k.2 a) (k.2 b)
    simp only [rowLe, Bool.or_eq_true, Bool.and_eq_true, Bool.not_eq_true'] at ih ⊢
    by_cases hab : o.directed k.1 (k.2 a) (k.2 b) = true
    · by_cases hba : o.directed k.1 (k.2 b) (k.2 a) = true
      · exact ih.imp (fun h ↦ ⟨hab, .inr h⟩) fun h ↦ ⟨hba, .inr h⟩
      · exact .inl ⟨hab, .inl (Bool.eq_false_iff.mpr hba)⟩
    · exact .inr ⟨ht.resolve_left hab, .inl (Bool.eq_false_iff.mpr hab)⟩

/-- Rows with equal keys compare alike. -/
theorem rowLe_congr {specs : List σ} {direction : σ → SortDirection} {f : σ → α → Json}
    {g : σ → β → Json} {a b : α} {a' b' : β} (h : ∀ s ∈ specs, f s a = g s a' ∧ f s b = g s b') :
    o.rowLe (specs.map fun s ↦ (direction s, f s)) a b =
      o.rowLe (specs.map fun s ↦ (direction s, g s)) a' b' := by
  induction specs with
  | nil => rfl
  | cons s rest ih =>
    obtain ⟨hs, hrest⟩ := List.forall_mem_cons.mp h
    simp only [List.map_cons, rowLe, hs.1, hs.2, ih hrest]

end ValueOrder

/-- Rows of values under columns. -/
@[ext] structure Grid (κ : Type) where
  columns : List κ
  rows : List (List Json)
  width : ∀ row ∈ rows, row.length = columns.length

namespace Grid

variable {κ : Type}

/-- The value of a row in the first column that is meant. -/
def cell (columns : List κ) (means : κ → Bool) (row : List Json) : Json :=
  (((columns.zip row).find? fun p ↦ means p.1).map (·.2)).getD .null

/-- The rows as maps. -/
def fields (g : Grid String) : List Fields := g.rows.map fun row ↦ Fields.ofList (g.columns.zip row)

/-- The rows, or one row of nulls when there are none. -/
def rowsOrBlank (g : Grid κ) : List (List Json) :=
  if g.rows.isEmpty then [List.replicate g.columns.length .null] else g.rows

/-- Rows are as wide as the columns, the row of nulls too. -/
theorem width_rowsOrBlank (g : Grid κ) : ∀ row ∈ g.rowsOrBlank, row.length = g.columns.length := by
  unfold rowsOrBlank
  split
  · simp
  · exact g.width

/-- The rows under other columns of the same number. -/
def renamed {ι : Type} (g : Grid κ) (f : κ → ι) : Grid ι where
  columns := g.columns.map f
  rows := g.rows
  width := by simpa using g.width

/-- Each row of the first grid beside each of the second, or beside nulls when there is none. -/
def leftJoin (g h : Grid κ) : Grid κ where
  columns := g.columns ++ h.columns
  rows := g.rows.flatMap fun a ↦ h.rowsOrBlank.map (a ++ ·)
  width := by
    intro row hrow
    obtain ⟨a, ha, hrow⟩ := List.mem_flatMap.mp hrow
    obtain ⟨b, hb, rfl⟩ := List.mem_map.mp hrow
    rw [List.length_append, List.length_append, g.width a ha, h.width_rowsOrBlank b hb]

/-- The rows in an order; rows that stand at one place of it stay as they were. -/
def sorted (g : Grid κ) (le : List Json → List Json → Bool) : Grid κ where
  columns := g.columns
  rows := g.rows.mergeSort le
  width row hrow := g.width row (List.mem_mergeSort.mp hrow)

/-- So many elements of a list after those that are skipped. -/
def window {α : Type} (limit offset : Option Nat) (l : List α) : List α :=
  (limit.map fun n ↦ (l.drop (offset.getD 0)).take n).getD (l.drop (offset.getD 0))

/-- The elements in a window stand in the list in the same order. -/
theorem window_sublist {α : Type} (limit offset : Option Nat) (l : List α) :
    (window limit offset l).Sublist l := by
  cases limit with
  | none => exact List.drop_sublist _ l
  | some n => exact (List.take_sublist n _).trans (List.drop_sublist _ l)

/-- Changing each element and taking a window can be done in either order. -/
theorem window_map {α β : Type} (limit offset : Option Nat) (f : α → β) (l : List α) :
    window limit offset (l.map f) = (window limit offset l).map f := by
  cases limit <;> simp [window]

/-- So many of the rows after those that are skipped. -/
def cut (g : Grid κ) (limit offset : Option Nat) : Grid κ where
  columns := g.columns
  rows := window limit offset g.rows
  width row hrow := g.width row ((window_sublist limit offset g.rows).mem hrow)

@[simp] theorem columns_cut (g : Grid κ) (limit offset : Option Nat) :
    (g.cut limit offset).columns = g.columns := rfl

@[simp] theorem rows_cut (g : Grid κ) (limit offset : Option Nat) :
    (g.cut limit offset).rows = window limit offset g.rows := rfl

/-- All rows after none that are skipped are all rows. -/
@[simp] theorem cut_none (g : Grid κ) : g.cut none none = g := rfl

end Grid

/-- A column of a relation in a query: the name that qualifies it, and its own. -/
abbrev Head := String × String

namespace ColumnExpr

/-- Whether an expression means a column. -/
def means : ColumnExpr → Head → Bool
  | .column (some qualifier) name, head => head.1 == qualifier && head.2 == name
  | .column none name, head => head.2 == name
  | .star (some qualifier), head => head.1 == qualifier
  | .star none, _ => true
  | .raw _, _ => false

/-- Whether an expression is a column that is there. -/
def isColumnOf (heads : List Head) : ColumnExpr → Bool
  | .column qualifier name => heads.any (ColumnExpr.column qualifier name).means
  | _ => false

end ColumnExpr

namespace SelectItem

/-- Whether an item counts rows. -/
def isCount (i : SelectItem) : Bool := i.expr == .raw "COUNT(*)"

/-- Whether an item has a meaning over the columns that are there. -/
def isMeaningful (heads : List Head) (i : SelectItem) : Bool :=
  match i.expr with
  | .star _ => true
  | .column qualifier name => (ColumnExpr.column qualifier name).isColumnOf heads
  | .raw text => text == "1"

/-- The names of the columns that an item stands for. -/
def names (heads : List Head) (i : SelectItem) : List String :=
  match i.expr with
  | .star qualifier => (heads.filter (ColumnExpr.star qualifier).means).map (·.2)
  | .column _ name => [i.outputName.getD name]
  | .raw text => [i.outputName.getD text]

/-- The values that an item takes from a row. -/
def values (heads : List Head) (row : List Json) (i : SelectItem) : List Json :=
  match i.expr with
  | .star qualifier =>
    ((heads.zip row).filter fun p ↦ (ColumnExpr.star qualifier).means p.1).map (·.2)
  | .column qualifier name => [Grid.cell heads (ColumnExpr.column qualifier name).means row]
  | .raw _ => [.ofNat 1]

private theorem length_values {heads : List Head} {row : List Json} (h : row.length = heads.length)
    (i : SelectItem) : (i.values heads row).length = (i.names heads).length := by
  unfold values names
  cases i.expr with
  | star qualifier =>
    have hz : heads = (heads.zip row).map (·.1) := (List.map_fst_zip (by omega)).symm
    have hf : heads.filter (ColumnExpr.star qualifier).means =
        ((heads.zip row).filter fun p ↦ (ColumnExpr.star qualifier).means p.1).map (·.1) := by
      conv_lhs => rw [hz]
      exact List.filter_map
    rw [List.length_map, List.length_map, hf, List.length_map]
  | column => rfl
  | raw => rfl

end SelectItem

namespace Grid

/-- The rows of a select list that counts. -/
def counted (g : Grid Head) (items : List SelectItem) : Grid String where
  columns := items.map fun i ↦ i.outputName.getD "COUNT(*)"
  rows := [items.map fun _ ↦ .ofNat g.rows.length]
  width := by simp

/-- The rows of a select list that takes values from each row. -/
def projected (g : Grid Head) (items : List SelectItem) : Grid String where
  columns := items.flatMap (·.names g.columns)
  rows := g.rows.map fun row ↦ items.flatMap (·.values g.columns row)
  width := by
    intro _ hm
    obtain ⟨row, hrow, rfl⟩ := List.mem_map.mp hm
    rw [List.length_flatMap, List.length_flatMap]
    exact congrArg List.sum (List.map_congr_left fun i _ ↦ i.length_values (g.width row hrow))

/-- The rows of a select list. -/
def selected? (g : Grid Head) (items : List SelectItem) : Option (Grid String) :=
  if items.any (·.isCount) then
    if items.all (·.isCount) then some (g.counted items) else none
  else if items.all (·.isMeaningful g.columns) then some (g.projected items)
  else none

/-- The rows in the order of a query. -/
def ordered? (g : Grid Head) (o : ValueOrder) (order : List OrderItem) : Option (Grid Head) :=
  if order.all (·.expr.isColumnOf g.columns) then
    some (g.sorted (o.rowLe (order.map fun i ↦ (i.direction, cell g.columns i.expr.means))))
  else none

/-- A grid joined to another as a query asks for it: only joins that keep all rows of the first one
and have no condition have a meaning here. -/
def joined? (g h : Grid Head) (j : Join) : Option (Grid Head) :=
  if j.kind = .left ∧ j.on = some "TRUE" then some (g.leftJoin h) else none

end Grid

/-- The common table expressions that a query may read, each under its name. -/
abbrev Relations := List (String × Grid String)

/-- The rows of a relation under the qualified names of its columns. -/
def TableRef.grid? (relations : Relations) (r : TableRef) : Option (Grid Head) :=
  (relations.find? (·.1 == r.table)).map fun found ↦
    found.2.renamed (r.qualifier, ·)

namespace Query

/-- The rows of a query over common table expressions. Conditions and groups have no meaning here.
-/
def selected? (o : ValueOrder) (relations : Relations) (q : Query) : Option (Grid String) :=
  if q.condition.isSome || !q.groups.isEmpty || q.groupCondition.isSome then none
  else do
    let source ← q.source
    let first ← source.grid? relations
    let read ← q.joins.foldlM (fun g j ↦ do g.joined? (← j.table.grid? relations) j) first
    let ordered ← read.ordered? o q.order
    let shown ← ordered.selected? q.items
    return shown.cut (q.limitOffset.bind (·.limit)) (q.limitOffset.bind (·.offset))

mutual

/-- The rows of a query. Its common table expressions come first; without any in sight the store is
asked. -/
def result? (o : ValueOrder) (stored : Query → Option (Grid String)) (relations : Relations) :
    Query → Option (Grid String)
  | ⟨ctes, items, source, joins, condition, groups, groupCondition, order, limitOffset⟩ => do
    let relations ← relations? o stored relations ctes
    let q : Query :=
      ⟨[], items, source, joins, condition, groups, groupCondition, order, limitOffset⟩
    if relations.isEmpty then stored q else q.selected? o relations

/-- The relations in sight after common table expressions, each of which sees those before it. -/
def relations? (o : ValueOrder) (stored : Query → Option (Grid String)) (relations : Relations) :
    List (String × Query) → Option Relations
  | [] => some relations
  | (name, inner) :: rest => do
    let g ← inner.result? o stored relations
    relations? o stored ((name, g) :: relations) rest

end

end Query

namespace Grid

/-- The rows sorted by columns of theirs. -/
def sortedBy (g : Grid String) (o : ValueOrder) (sorts : List SortSpec) : Grid String :=
  g.sorted (o.rowLe (sorts.map fun s ↦ (s.direction, cell g.columns (· == s.column))))

/-- The rows are sorted by the columns. -/
theorem pairwise_sortedBy (g : Grid String) (o : ValueOrder) (sorts : List SortSpec) :
    (g.sortedBy o sorts).rows.Pairwise fun a b ↦
      o.rowLe (sorts.map fun s ↦ (s.direction, cell g.columns (· == s.column))) a b = true :=
  List.pairwise_mergeSort (o.rowLe_trans _) (o.rowLe_total _) g.rows

@[simp] theorem columns_sortedBy (g : Grid String) (o : ValueOrder) (sorts : List SortSpec) :
    (g.sortedBy o sorts).columns = g.columns := rfl

/-- The first column that is meant is found in the columns that come first. -/
theorem cell_append {κ : Type} {columns more : List κ} {means : κ → Bool}
    (h : columns.any means = true) {row rest : List Json} (hrow : row.length = columns.length) :
    cell (columns ++ more) means (row ++ rest) = cell columns means row := by
  have hsome : ((columns.zip row).find? fun p ↦ means p.1).isSome = true := by
    obtain ⟨c, hc, hm⟩ := List.any_eq_true.mp h
    rw [← List.map_fst_zip (show columns.length ≤ row.length by omega)] at hc
    obtain ⟨p, hp, rfl⟩ := List.mem_map.mp hc
    exact List.find?_isSome.mpr ⟨p, hp, hm⟩
  obtain ⟨p, hp⟩ := Option.isSome_iff_exists.mp hsome
  rw [cell, cell, List.zip_append hrow.symm, List.find?_append, hp, Option.some_or]

/-- A column that is not meant is passed over. -/
theorem cell_cons {κ : Type} {column : κ} {columns : List κ} {means : κ → Bool}
    (h : means column = false) (v : Json) (row : List Json) :
    cell (column :: columns) means (v :: row) = cell columns means row := by
  unfold cell
  rw [List.zip_cons_cons, List.find?_cons, h]

/-- Under other columns of the same number a row has the same values. -/
theorem cell_map {κ ι : Type} (f : κ → ι) (columns : List κ) (means : ι → Bool) (row : List Json) :
    cell (columns.map f) means row = cell columns (means ∘ f) row := by
  unfold cell
  rw [List.zip_map_left, List.find?_map]
  rw [Option.map_map]
  rfl

end Grid

namespace SelectItem

variable (before : List Head) {qualifier : String} (columns : List String)

/-- All columns of a relation go by their own names. -/
theorem names_star (hb : ∀ head ∈ before, head.1 ≠ qualifier) (name : Option String) :
    names (before ++ columns.map (qualifier, ·)) ⟨.star (some qualifier), name⟩ = columns := by
  have hfront : before.filter (ColumnExpr.star (some qualifier)).means = [] :=
    List.filter_eq_nil_iff.mpr fun head hm ↦ by simpa [ColumnExpr.means] using hb head hm
  have hback : (columns.map (qualifier, ·)).filter (ColumnExpr.star (some qualifier)).means =
      columns.map (qualifier, ·) :=
    List.filter_eq_self.mpr (List.forall_mem_map.mpr fun c _ ↦ by simp [ColumnExpr.means])
  unfold names
  dsimp only
  rw [List.filter_append, hfront, hback, List.nil_append, List.map_map]
  exact List.map_id columns

/-- All columns of a relation take the values of the relation from a row. -/
theorem values_star (hb : ∀ head ∈ before, head.1 ≠ qualifier) {front row : List Json}
    (hf : front.length = before.length) (hr : row.length = columns.length) (name : Option String) :
    values (before ++ columns.map (qualifier, ·)) (front ++ row) ⟨.star (some qualifier), name⟩ =
      row := by
  have hfront : (before.zip front).filter
      (fun p ↦ (ColumnExpr.star (some qualifier)).means p.1) = [] :=
    List.filter_eq_nil_iff.mpr fun p hm ↦ by
      simpa [ColumnExpr.means] using hb p.1 (List.of_mem_zip hm).1
  have hback : ((columns.map (qualifier, ·)).zip row).filter
      (fun p ↦ (ColumnExpr.star (some qualifier)).means p.1) =
        (columns.map (qualifier, ·)).zip row := by
    refine List.filter_eq_self.mpr fun p hm ↦ ?_
    obtain ⟨c, -, hc⟩ := List.mem_map.mp (List.of_mem_zip hm).1
    simp [ColumnExpr.means, ← hc]
  unfold values
  dsimp only
  rw [List.zip_append hf.symm, List.filter_append, hfront, hback, List.nil_append]
  exact List.map_snd_zip (by simp [hr])

end SelectItem

namespace Query

variable {o : ValueOrder} {stored : Query → Option (Grid String)} {relations : Relations}

/-- A relation in sight is read under its own name. -/
theorem grid?_eq {name : String} {g : Grid String}
    (h : relations.find? (·.1 == name) = some (name, g)) :
    ({ table := name } : TableRef).grid? relations = some (g.renamed (name, ·)) := by
  rw [TableRef.grid?, h]
  rfl

/-- The rows of a relation are sorted by its columns. -/
theorem ordered?_renamed {g : Grid String} (name : String) {sorts : List SortSpec}
    (hs : ∀ s ∈ sorts, s.column ∈ g.columns) :
    (g.renamed (name, ·)).ordered? o (sorts.map fun s ↦ ⟨.column none s.column, s.direction⟩) =
      some ((g.sortedBy o sorts).renamed (name, ·)) := by
  unfold Grid.ordered?
  rw [List.map_map, if_pos]
  · have hkeys : (sorts.map fun s ↦ (s.direction, Grid.cell (g.columns.map (name, ·))
        (ColumnExpr.column none s.column).means)) =
        sorts.map fun s ↦ (s.direction, Grid.cell g.columns (· == s.column)) :=
      List.map_congr_left fun s _ ↦ Prod.ext rfl (funext fun row ↦ Grid.cell_map _ _ _ row)
    exact congrArg (fun keys ↦ some ((g.renamed (name, ·)).sorted (o.rowLe keys))) hkeys
  · refine List.all_eq_true.mpr (List.forall_mem_map.mpr fun s hm ↦ ?_)
    simpa [ColumnExpr.isColumnOf, ColumnExpr.means, Grid.renamed] using hs s hm

/-- A query with common table expressions in sight is answered from them, and any other by the
store. -/
theorem result?_eq (q : Query) (relations : Relations) :
    q.result? o stored relations = (relations? o stored relations q.ctes).bind fun found ↦
      if found.isEmpty then stored { q with ctes := [] } else q.selected? o found := by
  cases q
  rw [result?]
  rfl

/-- A common table expression is in sight of those after it. -/
theorem relations?_cons (relations : Relations) (name : String) (q : Query)
    (rest : List (String × Query)) :
    relations? o stored relations ((name, q) :: rest) =
      (q.result? o stored relations).bind fun g ↦
        relations? o stored ((name, g) :: relations) rest := by
  rw [relations?]
  rfl

end Query

end TabularReport

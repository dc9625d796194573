import TabularReport.Proofs.Run.Paging
import TabularReport.Proofs.Statement.Acceptance

/-!
# The order of pages

Without a page, the order of a report is left to the language: a reference that is a name of the
select list means this name. The wrapped statement of a page sorts by names of the select list
itself, and takes for a reference the first column that goes by it or is read under it. The two
agree on a name unless it is eclipsed: a column that stands before the one of this name is read
under it.
-/

namespace TabularReport

private theorem forall₂_filterMap {α β : Type} {f : α → Option β} {l : List α}
    (h : ∀ a ∈ l, (f a).isSome = true) :
    List.Forall₂ (fun a b ↦ f a = some b) l (l.filterMap f) := by
  induction l with
  | nil => exact .nil
  | cons a rest ih =>
    obtain ⟨ha, hrest⟩ := List.forall_mem_cons.mp h
    obtain ⟨b, hb⟩ := Option.isSome_iff_exists.mp ha
    rw [List.filterMap_cons_some hb]
    exact .cons hb (ih hrest)

private theorem exists_getElem?_of_forall₂ {α β : Type} {R : α → β → Prop} {l : List α} {m : List β}
    (h : List.Forall₂ R l m) {i : Nat} {a : α} (ha : l[i]? = some a) :
    ∃ b, m[i]? = some b ∧ R a b := by
  induction h generalizing i with
  | nil => cases ha
  | cons hr _ ih =>
    cases i with
    | zero =>
      cases ha
      exact ⟨_, rfl, hr⟩
    | succ i => exact ih ha

namespace Query

/-- The relation of the page in a wrapped statement. -/
def pageRows? (q : Query) : Option Query := (q.ctes.find? (·.1 == pageRelation)).map (·.2)

/-- Whether a wrapped statement sorts the rows of the page, and the rows that it returns, by a name
in the place of an index. -/
structure SortsPageBy (q : Query) (index : Nat) (s : SortSpec) : Prop where
  page : (q.pageRows?.bind (·.order[index]?)) = some ⟨.column none s.column, s.direction⟩
  last : q.order[index]? = some ⟨.column (some pageRelation) s.column, s.direction⟩

private theorem sortsPageBy_paged {inner : Query} {sorts : List SortSpec} {page : AppliedPage}
    {index : Nat} {s : SortSpec} (h : sorts[index]? = some s) :
    (inner.paged sorts page).SortsPageBy index s where
  page := by
    change (sorts.map fun s ↦ (⟨.column none s.column, s.direction⟩ : OrderItem))[index]? = _
    rw [List.getElem?_map, h]
    rfl
  last := by
    change (sorts.map fun s ↦
      (⟨.column (some pageRelation) s.column, s.direction⟩ : OrderItem))[index]? = _
    rw [List.getElem?_map, h]
    rfl

end Query

namespace ReportTemplate

variable {t : ReportTemplate}

/-- Whether a visible column is taken for a name that another one has: its expression is spelled
like the name, and no column before it goes by the name or is spelled like it. -/
def Eclipses (t : ReportTemplate) (name : String) (c : ColumnDefinition) : Prop :=
  c.name ≠ name ∧ (t.reference c).sql = name ∧ ∃ before after,
    t.visibleColumns = before ++ c :: after ∧
      ∀ d ∈ before, d.name ≠ name ∧ (t.reference d).sql ≠ name

-- A column is taken for a name that another one has when it is the first one that answers to it.
private theorem eclipses_iff {name : String} {c : ColumnDefinition} :
    t.Eclipses name c ↔ c.name ≠ name ∧
      t.visibleColumns.find? (fun d ↦ d.name == name || (t.reference d).sql == name) = some c := by
  simp only [Eclipses, List.find?_eq_some_iff_append, Bool.or_eq_true, beq_iff_eq,
    Bool.not_eq_true', Bool.or_eq_false_iff, beq_eq_false_iff_ne, ne_eq]
  refine and_congr_right fun hne ↦ and_congr_left fun _ ↦ ?_
  rw [or_iff_right hne]

private theorem outputName?_of_mem_shownNames {name : String} (h : name ∈ t.shownNames) :
    ∃ taken, t.outputName? name = some taken ∧ (taken = name ↔ ∀ c, ¬ t.Eclipses name c) ∧
      ∀ c, t.Eclipses name c → taken = c.name := by
  simp only [eclipses_iff]
  unfold outputName?
  cases hf : t.visibleColumns.find? fun d ↦ d.name == name || (t.reference d).sql == name with
  | some c =>
    refine ⟨c.name, rfl, ?_, ?_⟩
    · constructor
      · rintro he d ⟨hne, hd⟩
        cases hd
        exact hne he
      · intro hn
        by_contra hne
        exact hn c ⟨hne, rfl⟩
    · rintro d ⟨-, hd⟩
      cases hd
      rfl
  | none =>
    -- No column goes by the name, so it is that of an aggregate.
    have haggregation : ∃ a ∈ t.config.aggregations, a.outputName = name := by
      rcases List.mem_append.mp h with h | h
      · obtain ⟨c, hc, hn⟩ := List.mem_map.mp h
        have hcontra := List.find?_eq_none.mp hf c hc
        simp [hn] at hcontra
      · exact List.mem_map.mp h
    cases ha : t.config.aggregations.find? (·.outputName == name) with
    | none =>
      obtain ⟨a, hm, hn⟩ := haggregation
      have hcontra := List.find?_eq_none.mp ha a hm
      simp [hn] at hcontra
    | some a =>
      have hn : a.outputName = name := by simpa using List.find?_some ha
      exact ⟨a.outputName, rfl, by simp [hn], by simp⟩

private theorem forall₂_pageOrder (hshown : ∀ s ∈ t.config.orderBy, t.Shows s.column) :
    List.Forall₂
      (fun s out ↦ t.outputName? s.column = some out.column ∧ s.direction = out.direction)
      t.config.orderBy (t.pageOrder []) := by
  have hall := forall₂_filterMap (f := fun s : SortSpec ↦
    (t.outputName? s.column).map (SortSpec.mk · s.direction)) (l := t.config.orderBy) fun s hs ↦ by
      rw [Option.isSome_map]
      exact (isSome_outputName? s.column).mpr (hshown s hs)
  refine hall.imp fun s out h ↦ ?_
  obtain ⟨name, hname, rfl⟩ := Option.map_eq_some_iff.mp h
  exact ⟨hname, rfl⟩

private theorem order_of_assemble {request : QueryRequest} {limits : PageLimits}
    {a : AssembledQuery} (h : t.assemble request limits = .ok a) (hs : request.sorting = [])
    (hw : request.pagination = none) :
    a.query.order = t.config.orderBy.map fun s ↦ ⟨.column none s.column, s.direction⟩ := by
  obtain ⟨q, hq, rfl⟩ := exists_plan_of_assemble h
  have hpage : q.page = none := by
    have hp := hq.page
    rw [hw] at hp
    exact (Except.ok.inj hp).symm
  have hsorts : q.sorts =
      t.config.orderBy.map fun s ↦ ⟨s.column, t.outputName? s.column, s.direction⟩ := by
    have hk := hq.sorts
    rw [hs] at hk
    exact (Except.ok.inj hk).symm
  rw [StatementPlan.statement, StatementPlan.query, hpage]
  dsimp only [Query.orderBy]
  rw [hsorts, List.map_map]
  rfl

/-- A page is sorted by the references of the template, in their places and directions, as the same
request without a page is: a reference that is a name of the select list is kept, unless a column
eclipses this name, whose own name it is then sorted by. -/
theorem sortsPageBy_assemble {request : QueryRequest} {limits : PageLimits} {a : AssembledQuery}
    {wish : PageRequest} (h : t.assemble request limits = .ok a) (hs : request.sorting = [])
    (hw : request.pagination = some wish) :
    ∃ plain, t.assemble { request with pagination := none } limits = .ok plain ∧
      ∀ i s, t.config.orderBy[i]? = some s → s.column ∈ t.shownNames →
        plain.query.order[i]? = some ⟨.column none s.column, s.direction⟩ ∧
          ∃ name, a.query.SortsPageBy i ⟨name, s.direction⟩ ∧
            (name = s.column ↔ ∀ c, ¬ t.Eclipses s.column c) ∧
            ∀ c, t.Eclipses s.column c → name = c.name := by
  have hsound := exists_assemble_iff.mp ⟨a, h⟩
  have hplain : t.Permits { request with pagination := none } :=
    ⟨hsound.accepted, hsound.shows, hsound.filters, hsound.sorts, nofun⟩
  obtain ⟨plain, hp⟩ := exists_assemble_iff.mpr hplain
  refine ⟨plain, hp, fun i s hi hm ↦ ?_⟩
  obtain ⟨-, -, -, inner, -, -, hquery⟩ := exists_paged_of_assemble h hw
  have hall := forall₂_pageOrder (hsound.order (by rw [hw]; rfl) hs)
  obtain ⟨name, hname, hkept, htaken⟩ := outputName?_of_mem_shownNames hm
  refine ⟨?_, name, ?_, hkept, htaken⟩
  · rw [order_of_assemble hp hs rfl, List.getElem?_map, hi]
    rfl
  · rw [hquery, hs]
    refine Query.sortsPageBy_paged ?_
    obtain ⟨⟨column, direction⟩, hout, ho, hd⟩ := exists_getElem?_of_forall₂ hall hi
    cases ho.symm.trans hname
    rw [hd]
    exact hout

end ReportTemplate

/-- Sales in the descending order of what goes by the name `gross`. -/
def salesByGross (columns : List ColumnDefinition) : ReportTemplate :=
  { id := "sales"
    name := "Sales"
    dataSources := [.table "sales"]
    config := { columns, orderBy := [⟨"gross", .desc⟩] } }

/-- The column `gross` of a report, stored as `total`. -/
def grossColumn : ColumnDefinition := { name := "gross", column := some "total" }

/-- A column that is stored as `gross`. -/
def amountColumn : ColumnDefinition := { name := "amount", column := some "gross" }

/-- A page of sales is sorted by the column `gross` when it stands first. -/
theorem sortsPageBy_grossFirst :
    ∃ a, (salesByGross [grossColumn, amountColumn]).assemble { pagination := some ⟨2, none⟩ } {} =
        .ok a ∧
      "gross" ∈ (salesByGross [grossColumn, amountColumn]).shownNames ∧
      a.query.SortsPageBy 0 ⟨"gross", .desc⟩ := by
  have hok : ((salesByGross [grossColumn, amountColumn]).assemble
      { pagination := some ⟨2, none⟩ } {}).toOption.map (·.page) = some (some ⟨2, 50, 50⟩) := by
    decide +kernel
  obtain ⟨a, ha, -⟩ := Except.exists_ok_of_toOption hok
  have hshown : "gross" ∈ (salesByGross [grossColumn, amountColumn]).shownNames := by
    decide +kernel
  obtain ⟨plain, -, hsorts⟩ := ReportTemplate.sortsPageBy_assemble ha rfl rfl
  obtain ⟨-, name, hname, hkept, -⟩ := hsorts 0 ⟨"gross", .desc⟩ rfl hshown
  have hfirst : ((salesByGross [grossColumn, amountColumn]).visibleColumns.find? fun d ↦
      d.name == "gross" ||
        ((salesByGross [grossColumn, amountColumn]).reference d).sql == "gross").map (·.name) =
      some "gross" := by
    decide +kernel
  have hclear : ∀ c, ¬ (salesByGross [grossColumn, amountColumn]).Eclipses "gross" c := by
    intro c hc
    obtain ⟨hne, hf⟩ := ReportTemplate.eclipses_iff.mp hc
    rw [hf] at hfirst
    exact hne (Option.some.inj hfirst)
  rw [hkept.mpr hclear] at hname
  exact ⟨a, ha, hshown, hname⟩

/-- Behind a column that is stored as `gross`, the column `gross` is eclipsed: all sales are sorted
by it, but a page of them is sorted by the other column. -/
theorem eclipsed_gross :
    (salesByGross [amountColumn, grossColumn]).problems = [] ∧
      "gross" ∈ (salesByGross [amountColumn, grossColumn]).shownNames ∧
      ∃ a plain,
        (salesByGross [amountColumn, grossColumn]).assemble { pagination := some ⟨1, none⟩ } {} =
            .ok a ∧
          (salesByGross [amountColumn, grossColumn]).assemble {} {} = .ok plain ∧
          plain.query.order = [⟨.column none "gross", .desc⟩] ∧
          a.query.SortsPageBy 0 ⟨"amount", .desc⟩ ∧ ¬ a.query.SortsPageBy 0 ⟨"gross", .desc⟩ := by
  have hpaged : ((salesByGross [amountColumn, grossColumn]).assemble
        { pagination := some ⟨1, none⟩ } {}).toOption.map
          (fun a ↦ (a.query.pageRows?.map (·.order), a.query.order)) =
      some (some [⟨.column none "amount", .desc⟩],
        [⟨.column (some "report_page") "amount", .desc⟩]) := by
    decide +kernel
  have hall : ((salesByGross [amountColumn, grossColumn]).assemble {} {}).toOption.map
      (·.query.order) = some [⟨.column none "gross", .desc⟩] := by
    decide +kernel
  obtain ⟨a, ha, horders⟩ := Except.exists_ok_of_toOption hpaged
  obtain ⟨plain, hp, horder⟩ := Except.exists_ok_of_toOption hall
  obtain ⟨hrows, hlast⟩ := Prod.mk.inj horders
  obtain ⟨rows, hr, hpage⟩ := Option.map_eq_some_iff.mp hrows
  refine ⟨by decide +kernel, by decide +kernel, a, plain, ha, hp, horder, ⟨?_, ?_⟩, fun h ↦ ?_⟩
  · rw [hr, Option.bind_some, hpage]
    rfl
  · rw [hlast]
    rfl
  · have hgross := h.last
    rw [hlast] at hgross
    revert hgross
    decide

end TabularReport

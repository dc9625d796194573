import TabularReport.Proofs.Statement.Resolution
import TabularReport.Proofs.Validation.Names

/-!
# Which requests are refused

A statement is assembled exactly when its template is accepted and shows something, and when the
request uses no name that it may not use. Otherwise the first of all objections is the error: those
to the template, then to what it shows, to the filters, to the sorts, and to the order of a page.
-/

namespace TabularReport

/-- The error of a computation, if it fails. -/
def failureOf {ε α : Type} : Except ε α → Option ε
  | .error e => some e
  | .ok _ => none

section failureOf

variable {ε α β : Type}

/-- A computation fails with the error it has. -/
theorem failureOf_eq_some_iff {x : Except ε α} {e : ε} : failureOf x = some e ↔ x = .error e := by
  cases x <;> simp [failureOf]

private theorem failureOf_eq_none_iff {x : Except ε α} : failureOf x = none ↔ ∃ a, x = .ok a := by
  cases x <;> simp [failureOf]

/-- The values of a computation do not matter for its error. -/
@[simp] theorem failureOf_map (x : Except ε α) (f : α → β) : failureOf (x.map f) = failureOf x := by
  cases x <;> rfl

-- Of two steps the first error counts; `o` is that of the second step, whatever the first one
-- yields.
private theorem failureOf_bind {x : Except ε α} {f : α → Except ε β} {o : Option ε}
    (h : ∀ a, x = .ok a → failureOf (f a) = o) : failureOf (x >>= f) = (failureOf x).or o := by
  cases x with
  | error e => rfl
  | ok a => exact h a rfl

/-- A step whose value is only wrapped up has the error of what comes before. -/
theorem failureOf_bind_pure {x : Except ε α} {f : α → β} :
    failureOf (x >>= fun a ↦ .ok (f a)) = failureOf x := by
  cases x <;> rfl

/-- Of steps for each element of a list the first error counts. -/
theorem failureOf_mapM (f : α → Except ε β) (l : List α) :
    failureOf (l.mapM f) = l.findSome? fun a ↦ failureOf (f a) := by
  induction l with
  | nil => rfl
  | cons a rest ih =>
    have hrest : failureOf (rest.mapM f >>= fun more ↦ .ok more) = failureOf (rest.mapM f) :=
      failureOf_bind_pure (f := id)
    rw [List.mapM_cons, List.findSome?_cons]
    cases ha : f a with
    | error e => rfl
    | ok b =>
      rw [← ih]
      exact failureOf_bind_pure (x := rest.mapM f)

end failureOf

/-- An element of a list is found by a key that no other one has. -/
theorem find?_of_nodup {α : Type} {key : α → String} {l : List α} (hn : (l.map key).Nodup) {a : α}
    (ha : a ∈ l) : l.find? (key · == key a) = some a := by
  induction l with
  | nil => cases ha
  | cons b rest ih =>
    obtain ⟨hb, hrest⟩ := List.nodup_cons.mp hn
    rcases List.mem_cons.mp ha with rfl | ha
    · simp
    · have hne : key b ≠ key a := fun he ↦ hb (he ▸ List.mem_map_of_mem ha)
      rw [List.find?_cons_of_neg (by simpa using hne)]
      exact ih hrest ha

namespace ReportTemplate

/-- Whether a request may filter by a name: a declared column has it and is filterable. -/
def MayFilter (t : ReportTemplate) (name : String) : Prop :=
  ∃ c ∈ t.config.columns, c.name = name ∧ c.filterable = true

/-- Whether a request may sort by a name: a declared column has it and is sortable and visible. -/
def MaySort (t : ReportTemplate) (name : String) : Prop :=
  ∃ c ∈ t.config.columns, c.name = name ∧ c.sortable = true ∧ c.visible = true

/-- Whether a reference means something that the report shows: a visible column, by its name or its
expression, or an aggregate. -/
def Shows (t : ReportTemplate) (reference : String) : Prop :=
  (∃ c ∈ t.config.columns, c.visible = true ∧
      (c.name = reference ∨ (t.reference c).sql = reference)) ∨
    ∃ a ∈ t.config.aggregations, a.outputName = reference

instance (t : ReportTemplate) (reference : String) : Decidable (t.Shows reference) :=
  inferInstanceAs (Decidable (_ ∨ _))

/-- Whether a template and a request are sound: all that a statement needs is declared. -/
structure Permits (t : ReportTemplate) (request : QueryRequest) : Prop where
  accepted : t.problems = []
  shows : (∃ c ∈ t.config.columns, c.visible = true) ∨ t.config.aggregations ≠ []
  filters : ∀ c ∈ request.leaves, t.MayFilter c.column
  sorts : ∀ s ∈ request.sorting, t.MaySort s.column
  /-- A page is ordered by what the report shows. -/
  order : request.pagination.isSome = true → request.sorting = [] →
    ∀ s ∈ t.config.orderBy, t.Shows s.column

/-- The objection to a filter by a name. -/
def filterObjection? (t : ReportTemplate) (name : String) : Option ValidationError :=
  match t.findColumn? name with
  | none => some (.unknownColumn name)
  | some c => if c.filterable then none else some (.notFilterable name)

/-- The objection to a sort by a name. -/
def sortObjection? (t : ReportTemplate) (name : String) : Option ValidationError :=
  match t.findColumn? name with
  | none => some (.unknownColumn name)
  | some c => if c.sortable && c.visible then none else some (.notSortable name)

/-- The objection to an order of pages by a reference. -/
def orderObjection? (t : ReportTemplate) (reference : String) : Option ValidationError :=
  if t.Shows reference then none else some (.notSortable reference)

/-- All objections to a template and a request, in the order in which they count. -/
def objections (t : ReportTemplate) (request : QueryRequest) : List ValidationError :=
  t.problems ++
    (if t.visibleColumns.isEmpty && t.config.aggregations.isEmpty then [.emptyColumns t.id]
      else []) ++
    request.leaves.filterMap (fun c ↦ t.filterObjection? c.column) ++
    request.sorting.filterMap (fun s ↦ t.sortObjection? s.column) ++
    if request.pagination.isSome && request.sorting.isEmpty then
      t.config.orderBy.filterMap fun s ↦ t.orderObjection? s.column
    else []

variable {t : ReportTemplate}

/-! ### Each check by itself -/

private theorem findColumn?_eq_some_iff (h : t.problems = []) {name : String}
    {c : ColumnDefinition} :
    t.findColumn? name = some c ↔ c ∈ t.config.columns ∧ c.name = name := by
  refine ⟨mem_of_findColumn?, ?_⟩
  rintro ⟨hm, rfl⟩
  exact find?_of_nodup (List.nodup_append.mp (nodup_outputNames h)).1 hm

private theorem failureOf_filterColumn (name : String) :
    failureOf (t.filterColumn name) = t.filterObjection? name := by
  unfold filterColumn filterObjection?
  cases hf : t.findColumn? name with
  | none => rfl
  | some c =>
    dsimp only
    rw [(mem_of_findColumn? hf).2]
    split <;> rfl

private theorem failureOf_sortColumn (name : String) :
    failureOf (t.sortColumn name) = t.sortObjection? name := by
  unfold sortColumn sortObjection?
  cases hf : t.findColumn? name with
  | none => rfl
  | some c =>
    dsimp only
    rw [(mem_of_findColumn? hf).2]
    split <;> rfl

mutual

private theorem failureOf_resolveNode : (n : FilterNode) →
    failureOf (t.resolveNode n) = n.leaves.findSome? fun c ↦ t.filterObjection? c.column
  | .leaf c => by
    rw [resolveNode, FilterNode.leaves, List.findSome?_singleton, ← failureOf_filterColumn]
    exact failureOf_bind_pure
  | .group logic nodes => by
    rw [resolveNode, FilterNode.leaves, ← failureOf_resolveNodes nodes]
    exact failureOf_bind_pure

private theorem failureOf_resolveNodes : (ns : List FilterNode) →
    failureOf (t.resolveNodes ns) =
      (FilterNode.leavesOf ns).findSome? fun c ↦ t.filterObjection? c.column
  | [] => rfl
  | n :: rest => by
    rw [resolveNodes, FilterNode.leavesOf, List.findSome?_append, ← failureOf_resolveNode n,
      ← failureOf_resolveNodes rest]
    exact failureOf_bind fun _ _ ↦ failureOf_bind_pure

end

private theorem failureOf_filters (request : QueryRequest) :
    failureOf (request.filters.mapM t.resolveFilter) =
      request.leaves.findSome? fun c ↦ t.filterObjection? c.column := by
  unfold QueryRequest.leaves
  cases request.filters with
  | none => rfl
  | some g =>
    rw [Option.toList_some, List.flatMap_singleton, FilterGroup.leaves, ← failureOf_resolveNodes,
      Option.mapM_some, resolveFilter]
    cases t.resolveNodes g.nodes <;> rfl

private theorem failureOf_sortKeys (requested : List SortSpec) :
    failureOf (t.sortKeys requested) = requested.findSome? fun s ↦ t.sortObjection? s.column := by
  unfold sortKeys
  cases requested with
  | nil => rfl
  | cons s rest =>
    rw [if_neg (by simp), failureOf_mapM]
    congr 1
    ext1 s
    rw [← failureOf_sortColumn]
    exact failureOf_bind_pure

private theorem filterObjection?_eq_none_iff (h : t.problems = []) {name : String} :
    t.filterObjection? name = none ↔ t.MayFilter name := by
  unfold filterObjection? MayFilter
  constructor
  · intro hn
    split at hn
    · cases hn
    · next c hc =>
      obtain ⟨hm, he⟩ := mem_of_findColumn? hc
      exact ⟨c, hm, he, by simpa using hn⟩
  · rintro ⟨c, hm, he, hf⟩
    rw [(findColumn?_eq_some_iff h).mpr ⟨hm, he⟩]
    simp [hf]

private theorem sortObjection?_eq_none_iff (h : t.problems = []) {name : String} :
    t.sortObjection? name = none ↔ t.MaySort name := by
  unfold sortObjection? MaySort
  constructor
  · intro hn
    split at hn
    · cases hn
    · next c hc =>
      obtain ⟨hm, he⟩ := mem_of_findColumn? hc
      exact ⟨c, hm, he, by simpa using hn⟩
  · rintro ⟨c, hm, he, hs, hv⟩
    rw [(findColumn?_eq_some_iff h).mpr ⟨hm, he⟩]
    simp [hs, hv]

/-- A reference has a name in the select list exactly when the report shows what it means. -/
theorem isSome_outputName? (reference : String) :
    (t.outputName? reference).isSome = true ↔ t.Shows reference := by
  unfold outputName? Shows
  cases hf : t.visibleColumns.find? fun c ↦
      c.name == reference || (t.reference c).sql == reference with
  | some c =>
    have hm := List.mem_filter.mp (List.mem_of_find?_eq_some hf)
    have hc := List.find?_some hf
    simp only [Option.isSome_some, true_iff]
    exact .inl ⟨c, hm.1, hm.2, by simpa using hc⟩
  | none =>
    have hn (c : ColumnDefinition) (hc : c ∈ t.config.columns) (hv : c.visible = true) :
        ¬ (c.name = reference ∨ (t.reference c).sql = reference) := by
      simpa using List.find?_eq_none.mp hf c (List.mem_filter.mpr ⟨hc, hv⟩)
    simp only [Option.isSome_map, List.find?_isSome, beq_iff_eq]
    constructor
    · exact .inr
    · rintro (⟨c, hc, hv, he⟩ | ha)
      · exact absurd he (hn c hc hv)
      · exact ha

-- A page that is asked for is refused when the template's order names what the report does not
-- show; the sorts of a request always name what it shows.
private theorem failureOf_planPage {request : QueryRequest} {sorts : List SortKey}
    {limits : PageLimits} (hs : t.sortKeys request.sorting = .ok sorts) :
    failureOf (t.planPage sorts request.pagination limits) =
      if request.pagination.isSome && request.sorting.isEmpty then
        t.config.orderBy.findSome? fun s ↦ t.orderObjection? s.column
      else none := by
  unfold planPage
  cases request.pagination with
  | none => rfl
  | some wish =>
    rw [failureOf_map, failureOf_mapM]
    unfold sortKeys at hs
    split at hs
    · next he =>
      cases hs
      rw [if_pos (by simp [he]), List.findSome?_map]
      congr 1
      ext1 s
      have ho := isSome_outputName? (t := t) s.column
      simp only [Function.comp, SortKey.outputSort, orderObjection?, ← ho]
      cases t.outputName? s.column <;> rfl
    · next he =>
      rw [if_neg (by simp [he]), List.findSome?_eq_none_iff]
      intro k hk
      obtain ⟨s, -, hs⟩ := exists_of_forall₂ (Except.forall₂_of_mapM hs) hk
      obtain ⟨c, -, hs⟩ := Except.bind_eq_ok_iff.mp hs
      cases hs
      rfl

private theorem failureOf_joinsFrom (h : t.problems = []) (index : Nat) (joined : List String)
    {joins : List JoinDefinition} (hj : ∀ j ∈ joins, j ∈ t.config.joins) :
    failureOf (t.joinsFrom index joined joins) = none := by
  induction joins generalizing index joined with
  | nil => rfl
  | cons j rest ih =>
    obtain ⟨i, hp⟩ := join_problems h (hj j List.mem_cons_self)
    obtain ⟨⟨left, hl⟩, right, hr⟩ := JoinDefinition.findSource?_of_problems hp
    rw [joinsFrom, joinSide_eq_ok_iff.mpr hl, joinSide_eq_ok_iff.mpr hr]
    let target := if joined.contains left.qualifier then right else left
    have hrest := ih (index + 1) (target.qualifier :: joined)
      fun d hd ↦ hj d (List.mem_cons_of_mem j hd)
    rw [← hrest]
    exact failureOf_bind_pure

private theorem isEmpty_selectList :
    t.selectList.isEmpty = (t.visibleColumns.isEmpty && t.config.aggregations.isEmpty) := by
  unfold selectList
  cases t.visibleColumns <;> cases t.config.aggregations <;> rfl

private theorem failureOf_plan (t : ReportTemplate) (request : QueryRequest) (limits : PageLimits) :
    failureOf (t.plan request limits) = (t.objections request).head? := by
  unfold plan objections
  rw [isEmpty_selectList]
  cases hp : t.problems with
  | cons e rest => rfl
  | nil =>
    cases hs : t.visibleColumns.isEmpty && t.config.aggregations.isEmpty with
    | true => simp [bind, Except.bind, throw, throwThe, MonadExceptOf.throw, failureOf]
    | false =>
      simp only [List.nil_append, List.append_nil, Bool.false_eq_true, if_false, List.append_assoc,
        List.head?_append, List.head?_filterMap]
      rw [← failureOf_filters, ← failureOf_sortKeys]
      refine failureOf_bind fun filters _ ↦ failureOf_bind fun sorts hsorts ↦ ?_
      -- Of an accepted template the sources and the joins are found, which leaves the page.
      obtain ⟨primary, hprimary⟩ := exists_primarySource? hp
      have hjoins : failureOf (t.joinsFrom 0 [primary.qualifier] t.config.joins) = none :=
        failureOf_joinsFrom hp 0 _ fun j hj ↦ hj
      rw [hprimary]
      refine (failureOf_bind fun joins _ ↦ failureOf_bind_pure).trans ?_
      rw [hjoins, Option.none_or, failureOf_planPage hsorts]
      split <;> simp [List.head?_filterMap]

private theorem showsNothing_iff :
    (t.visibleColumns.isEmpty && t.config.aggregations.isEmpty) = true ↔
      ¬ ((∃ c ∈ t.config.columns, c.visible = true) ∨ t.config.aggregations ≠ []) := by
  simp [visibleColumns]

private theorem objections_eq_nil_iff {request : QueryRequest} :
    t.objections request = [] ↔ t.Permits request := by
  simp only [objections, List.append_eq_nil_iff, List.filterMap_eq_nil_iff, showsNothing_iff]
  constructor
  · rintro ⟨⟨⟨⟨hp, hc⟩, hf⟩, hs⟩, ho⟩
    exact
      { accepted := hp
        shows := by
          by_contra hn
          rw [if_pos hn] at hc
          cases hc
        filters := fun c hm ↦ (filterObjection?_eq_none_iff hp).mp (hf c hm)
        sorts := fun s hm ↦ (sortObjection?_eq_none_iff hp).mp (hs s hm)
        order := by
          intro hw hr s hm
          rw [if_pos (by simp [hw, hr]), List.filterMap_eq_nil_iff] at ho
          simpa [orderObjection?] using ho s hm }
  · intro h
    refine ⟨⟨⟨⟨h.accepted, if_neg (not_not_intro h.shows)⟩, ?_⟩, ?_⟩, ?_⟩
    · exact fun c hm ↦ (filterObjection?_eq_none_iff h.accepted).mpr (h.filters c hm)
    · exact fun s hm ↦ (sortObjection?_eq_none_iff h.accepted).mpr (h.sorts s hm)
    · split
      · next hw =>
        rw [Bool.and_eq_true, List.isEmpty_iff] at hw
        rw [List.filterMap_eq_nil_iff]
        exact fun s hm ↦ if_pos (h.order hw.1 hw.2 s hm)
      · rfl

private theorem failureOf_assemble (t : ReportTemplate) (request : QueryRequest)
    (limits : PageLimits) :
    failureOf (t.assemble request limits) = (t.objections request).head? := by
  rw [assemble_eq, failureOf_map, failureOf_plan]

/-- A statement is assembled exactly when the template and the request are sound. -/
theorem exists_assemble_iff {request : QueryRequest} {limits : PageLimits} :
    (∃ a, t.assemble request limits = .ok a) ↔ t.Permits request := by
  rw [← failureOf_eq_none_iff, failureOf_assemble, List.head?_eq_none_iff, objections_eq_nil_iff]

/-- A statement is assembled exactly when the template and the request are sound, and otherwise the
first objection is the error. Values, the page that is asked for and the limits on pages make no
difference. -/
theorem assemble_verdict (t : ReportTemplate) (request : QueryRequest) (limits : PageLimits) :
    ((∃ a, t.assemble request limits = .ok a) ↔ t.Permits request) ∧
      (∀ e, t.assemble request limits = .error e ↔ (t.objections request).head? = some e) ∧
      ∀ parameters wish otherLimits,
        failureOf (t.assemble { request with
            parameters, pagination := request.pagination.map fun _ ↦ wish } otherLimits) =
          failureOf (t.assemble request limits) := by
  refine ⟨?_, fun e ↦ ?_, fun parameters wish otherLimits ↦ ?_⟩
  · rw [← failureOf_eq_none_iff, failureOf_assemble, List.head?_eq_none_iff, objections_eq_nil_iff]
  · rw [← failureOf_eq_some_iff, failureOf_assemble]
  · rw [failureOf_assemble, failureOf_assemble]
    simp only [objections, Option.isSome_map]
    rfl

private theorem objections_of_values (values : Fields) :
    t.objections { parameters := values } =
      t.problems ++
        if t.visibleColumns.isEmpty && t.config.aggregations.isEmpty then [.emptyColumns t.id]
        else [] := by
  simp [objections, QueryRequest.leaves]

/-- An accepted template can be run with any values as long as it shows a column or an aggregate;
one that shows nothing is refused with all of them. -/
theorem assemble_of_accepted (h : t.problems = []) (values : Fields) (limits : PageLimits) :
    ((∃ c ∈ t.config.columns, c.visible = true) ∨ t.config.aggregations ≠ [] →
        ∃ a, t.assemble { parameters := values } limits = .ok a) ∧
      ((∀ c ∈ t.config.columns, c.visible = false) ∧ t.config.aggregations = [] →
        t.assemble { parameters := values } limits = .error (.emptyColumns t.id)) := by
  have hobjections := objections_of_values (t := t) values
  rw [h, List.nil_append] at hobjections
  refine ⟨fun hshows ↦ ?_, fun ⟨hcolumns, haggregations⟩ ↦ ?_⟩
  · rw [if_neg (mt showsNothing_iff.mp (not_not_intro hshows))] at hobjections
    rw [← failureOf_eq_none_iff, failureOf_assemble, hobjections, List.head?_nil]
  · rw [if_pos (showsNothing_iff.mpr (by simpa [haggregations] using hcolumns))] at hobjections
    rw [← failureOf_eq_some_iff, failureOf_assemble, hobjections, List.head?_cons]

end ReportTemplate

/-- Orders of which no column is shown, with aggregates over them. -/
def hiddenOrders (aggregations : List Aggregation) : ReportTemplate :=
  { id := "orders"
    name := "Orders"
    dataSources := [.table "orders"]
    config := { columns := [{ name := "total", visible := false }], aggregations } }

/-- Hidden orders can be counted. -/
theorem assemble_countedOrders :
    (hiddenOrders [⟨.count, "*", "orders"⟩]).problems = [] ∧
      ∃ a,
        (hiddenOrders [⟨.count, "*", "orders"⟩]).assemble { parameters := [("least", .null)] } {} =
          .ok a := by
  have hproblems : (hiddenOrders [⟨.count, "*", "orders"⟩]).problems = [] := by decide +kernel
  have hshows := (ReportTemplate.assemble_of_accepted hproblems [("least", .null)] {}).1
  exact ⟨hproblems, hshows (.inr (by simp [hiddenOrders]))⟩

/-- Hidden orders alone are accepted, and yet they cannot be run. -/
theorem refused_hiddenOrders :
    (hiddenOrders []).problems = [] ∧
      (hiddenOrders []).assemble {} {} = .error (.emptyColumns "orders") := by
  have hfailure : failureOf ((hiddenOrders []).assemble {} {}) = some (.emptyColumns "orders") := by
    decide +kernel
  exact ⟨by decide +kernel, failureOf_eq_some_iff.mp hfailure⟩

end TabularReport

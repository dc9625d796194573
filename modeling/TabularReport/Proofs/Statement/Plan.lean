import TabularReport.Proofs.Filter.Remainder
import TabularReport.Statement.Assembly

/-!
# Planning a statement and writing it

Assembling a statement falls into two parts. The plan checks everything and can fail, but it does
not look at a single value of the run. Writing the plan compiles the filters and cannot fail.
-/

namespace TabularReport

/-- What is known of a statement before its filters are compiled. -/
structure StatementPlan where
  /-- The filter of the request with the expressions of its columns. -/
  filters : Option FilterGroup
  sorts : List SortKey
  primary : DataSource
  joins : List Join
  /-- The page, when one is asked for, and the order of its rows. -/
  page : Option (AppliedPage × List SortSpec)

/-- The page of a run, when it asks for one, with the order of its rows. -/
def ReportTemplate.planPage (t : ReportTemplate) (sorts : List SortKey) (wish : Option PageRequest)
    (limits : PageLimits) : Except ValidationError (Option (AppliedPage × List SortSpec)) :=
  match wish with
  | some wish => (sorts.mapM SortKey.outputSort).map fun outputs =>
    some (t.appliedPage wish limits, outputs)
  | none => .ok none

/-- Check a template and a request and plan the statement. -/
def ReportTemplate.plan (t : ReportTemplate) (request : QueryRequest) (limits : PageLimits) :
    Except ValidationError StatementPlan := do
  if let e :: _ := t.problems then throw e
  if t.selectList.isEmpty then throw (.emptyColumns t.id)
  let filters ← request.filters.mapM t.resolveFilter
  let sorts ← t.sortKeys request.sorting
  let some primary := t.primarySource? | throw (.noDataSource t.id)
  let joins ← t.joinsFrom 0 [primary.qualifier] t.config.joins
  let page ← t.planPage sorts request.pagination limits
  return { filters, sorts, primary, joins, page }

/-- A text, unless it is empty. -/
def Text.unlessEmpty (s : String) : Option String := if s.isEmpty then none else some s

/-- A text that is not empty stays. -/
theorem Text.unlessEmpty_of_ne {s : String} (h : s ≠ "") : unlessEmpty s = some s := by
  rw [unlessEmpty, if_neg (by simpa using h)]

namespace StatementPlan

/-- The filters of rows: that of the template and that of the request. -/
def rowFilters (p : StatementPlan) (t : ReportTemplate) : List FilterGroup :=
  t.config.filters.toList ++ p.filters.toList

/-- The compiled filters of rows of which something is left. -/
def parts (p : StatementPlan) (t : ReportTemplate) (parameters : Fields) :
    List (Logic × Fragment) :=
  (compileFilters parameters 1 (p.rowFilters t)).1.filter fun (_, f) => !f.isEmpty

/-- The compiled condition on groups; its placeholders come after those of the filters of rows. -/
def groupPart (p : StatementPlan) (t : ReportTemplate) (parameters : Fields) : Option Fragment :=
  t.config.having.map (·.compile parameters (compileFilters parameters 1 (p.rowFilters t)).2)

/-- The condition on rows. -/
def whereText (p : StatementPlan) (t : ReportTemplate) (parameters : Fields) : String :=
  let parts := p.parts t parameters
  " AND ".intercalate (parts.map fun (logic, f) => conjunct (parts.length > 1) logic f)

/-- The condition on groups. -/
def havingText (p : StatementPlan) (t : ReportTemplate) (parameters : Fields) : String :=
  ((p.groupPart t parameters).map (·.sql)).getD ""

/-- The values of the placeholders in order. -/
def params (p : StatementPlan) (t : ReportTemplate) (parameters : Fields) : List Json :=
  (p.parts t parameters).flatMap (·.2.params) ++ ((p.groupPart t parameters).map (·.params)).getD []

/-- The statement without order and page, for a condition on rows and one on groups. -/
def rows (p : StatementPlan) (t : ReportTemplate) (condition groupCondition : String) : Query :=
  { items := t.selectList
    source := some p.primary.ref
    joins := p.joins
    condition := Text.unlessEmpty condition
    groups := t.config.groupBy.map (.column none)
    groupCondition := Text.unlessEmpty groupCondition }

/-- The statement for a condition on rows and one on groups. -/
def query (p : StatementPlan) (t : ReportTemplate) (condition groupCondition : String) : Query :=
  match p.page with
  | some (page, outputs) => (p.rows t condition groupCondition).paged outputs page
  | none => (p.rows t condition groupCondition).orderBy (p.sorts.map (·.item))

/-- Write a plan for the values of a run. -/
def statement (p : StatementPlan) (t : ReportTemplate) (parameters : Fields) : AssembledQuery :=
  ⟨p.query t (p.whereText t parameters) (p.havingText t parameters), p.params t parameters,
    p.page.map (·.1)⟩

end StatementPlan

/-- Requiring conditions after another one joins them to it. -/
theorem Query.foldl_filter_some {conditions : List String} (h : ∀ c ∈ conditions, c ≠ "")
    (q : Query) (before : String) :
    conditions.foldl Query.filter { q with condition := some before } =
      { q with condition := some (" AND ".intercalate (before :: conditions)) } := by
  induction conditions generalizing before with
  | nil => simp
  | cons c rest ih =>
    have hc : c.isEmpty = false := by
      rw [Bool.eq_false_iff, ne_eq, String.isEmpty_iff]
      exact h c List.mem_cons_self
    have hf : Query.filter { q with condition := some before } c =
        { q with condition := some (before ++ " AND " ++ c) } := by
      simp only [Query.filter, hc, Bool.false_eq_true, if_false]
    rw [List.foldl_cons, hf, ih (fun d hd ↦ h d (List.mem_cons_of_mem _ hd)),
      String.intercalate_cons_append, String.intercalate_cons_cons]

/-- Requiring conditions one after another joins them. -/
theorem Query.foldl_filter {conditions : List String} (h : ∀ c ∈ conditions, c ≠ "") (q : Query)
    (hq : q.condition = none) :
    conditions.foldl Query.filter q =
      { q with condition := Text.unlessEmpty (" AND ".intercalate conditions) } := by
  cases conditions with
  | nil =>
    cases q
    cases hq
    rfl
  | cons c rest =>
    have hc : c.isEmpty = false := by
      rw [Bool.eq_false_iff, ne_eq, String.isEmpty_iff]
      exact h c List.mem_cons_self
    have hj : (" AND ".intercalate (c :: rest)).isEmpty = false := by
      rw [Bool.eq_false_iff, ne_eq, String.isEmpty_iff, Text.intercalate_eq_empty_iff h]
      exact List.cons_ne_nil c rest
    have hf : q.filter c = { q with condition := some c } := by
      simp only [filter, hc, hq, Bool.false_eq_true, if_false]
    rw [List.foldl_cons, hf, foldl_filter_some (fun d hd ↦ h d (List.mem_cons_of_mem _ hd)) q c,
      Text.unlessEmpty, hj]
    rfl

private theorem Query.having_eq (q : Query) (condition : String) (h : q.groupCondition = none) :
    q.having condition = { q with groupCondition := Text.unlessEmpty condition } := by
  obtain ⟨_, _, _, _, _, _, _, _, _⟩ := q
  subst h
  unfold having Text.unlessEmpty
  split <;> rfl

private theorem conjunct_ne_empty {f : Fragment} (h : f.isEmpty = false) (others : Bool)
    (logic : Logic) :
    conjunct others logic f ≠ "" := by
  unfold conjunct
  split
  · rw [ne_eq, ← String.toList_inj]
    simp
  · intro he
    rw [Fragment.isEmpty, he] at h
    cases h

private theorem StatementPlan.rows_eq (p : StatementPlan) (t : ReportTemplate)
    (parameters : Fields) :
    (((p.parts t parameters).map fun (logic, f) =>
        conjunct ((p.parts t parameters).length > 1) logic f).foldl Query.filter
          (p.rows t "" "")).having
        (p.havingText t parameters) =
      p.rows t (p.whereText t parameters) (p.havingText t parameters) := by
  have hne : ∀ c ∈ (p.parts t parameters).map fun (logic, f) =>
      conjunct ((p.parts t parameters).length > 1) logic f, c ≠ "" := by
    intro c hc
    obtain ⟨⟨logic, f⟩, hm, rfl⟩ := List.mem_map.mp hc
    have hf := (List.mem_filter.mp hm).2
    exact conjunct_ne_empty (by simpa using hf) _ _
  rw [Query.foldl_filter hne _ rfl, Query.having_eq _ _ rfl]
  rfl

/-- Assembling is planning and then writing the plan. -/
theorem ReportTemplate.assemble_eq (t : ReportTemplate) (request : QueryRequest)
    (limits : PageLimits) :
    t.assemble request limits =
      (t.plan request limits).map (·.statement t request.parameters) := by
  unfold assemble plan
  -- Both sides fail at the same step, and once all steps have succeeded they write the same query.
  cases t.problems with
  | cons e rest => rfl
  | nil =>
    cases hs : t.selectList.isEmpty with
    | true => simp [bind, Except.bind, Except.map, throw, throwThe, MonadExceptOf.throw]
    | false =>
      simp only [bind, Except.bind]
      cases request.filters.mapM t.resolveFilter with
      | error e => rfl
      | ok filters =>
        cases t.sortKeys request.sorting with
        | error e => rfl
        | ok sorts =>
          cases t.primarySource? with
          | none => rfl
          | some primary =>
            dsimp only
            cases t.joinsFrom 0 [primary.qualifier] t.config.joins with
            | error e => rfl
            | ok joins =>
              let done : AssembledQuery → Except ValidationError AssembledQuery := .ok
              cases request.pagination with
              | none =>
                let p : StatementPlan := ⟨filters, sorts, primary, joins, none⟩
                exact congrArg
                  (fun q ↦
                    done ⟨q.orderBy (sorts.map (·.item)), p.params t request.parameters, none⟩)
                  (p.rows_eq t request.parameters)
              | some wish =>
                unfold planPage
                cases sorts.mapM SortKey.outputSort with
                | error e => rfl
                | ok outputs =>
                  let page := t.appliedPage wish limits
                  let p : StatementPlan := ⟨filters, sorts, primary, joins, some (page, outputs)⟩
                  exact congrArg
                    (fun q ↦ done ⟨q.paged outputs page, p.params t request.parameters, some page⟩)
                    (p.rows_eq t request.parameters)

end TabularReport

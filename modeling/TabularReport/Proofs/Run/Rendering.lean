import TabularReport.Proofs.Run.Discipline
import TabularReport.Run.Render

/-!
# Guarded renderings

A component that somebody may view can still read a report that they may not run, or hold a query
text that its owner may not have run. Each of these is asked for separately, and always of the right
person: the viewer for the component and for its report, the owner for the query text.
-/

namespace TabularReport

/-- Whether someone may use what has an owner and may be open to everyone. -/
def Engine.Admits (e : Engine) (owner : String) (isPublic : Bool) (user : String) : Prop :=
  isPublic = true ∨ owner = user ∨ user ∈ e.admins

/-- The report that rows come from, with the values given for it; nothing for other sources. -/
def RowSource.report? : RowSource → Option (String × Fields)
  | .report id defaults | .customReport id defaults => some (id, defaults)
  | .rawQuery .. | .staticData _ | .api _ => none

namespace Component

/-- Whether someone may view a component. -/
def ViewableBy (v : Component) (e : Engine) (user : String) : Prop :=
  e.Admits v.ownerId v.isPublic user

/-- The run of a report that a component asks for in the name of its viewer. -/
def runFor (id : String) (defaults parameters : Fields) (user : String) : RunRequest :=
  { reportId := id, parameters := Fields.overlay defaults parameters, requesterId := user }

/-- Whether the query text of a component may be run: such texts are enabled, and where they are
for administrators only, the owner of the component is one. -/
structure MayRunText (v : Component) (e : Engine) : Prop where
  enabled : e.rawQuery.enabled = true
  owner : e.rawQuery.adminOnly = true → v.ownerId ∈ e.admins

/-- How a rendering treats storage and the catalog, told by its outcome. -/
structure Guarded (v : Component) (e : Engine) (c : Catalog) (parameters : Fields) (user : String)
    (o : Outcome ChartData) : Prop where
  /-- Somebody who may not view the component is told so and leaves no trace. -/
  hidden : ¬ v.ViewableBy e user →
    o.result = .error (.authorization (.view user v.id)) ∧ o.queries = [] ∧ o.offered = [] ∧
      o.catalog = c
  asksOnce : o.queries.length ≤ 1
  /-- What a component asks of a report is a run of the viewer, who may run the report as well. -/
  ofReport : ∀ id defaults, v.dataSource.source.report? = some (id, defaults) → ∀ s ∈ o.queries,
    v.ViewableBy e user ∧ ∃ t saved p, c.template? id = .ok (some t) ∧
      e.Admits t.ownerId t.isPublic user ∧ p.template = t ∧
      (runFor id defaults parameters user).Readies e c saved p ∧ s = p.statement.bound
  /-- A run of the viewer that is ready is carried out. -/
  runsReport : ∀ id defaults, v.dataSource.source.report? = some (id, defaults) →
    v.ViewableBy e user → ∀ saved p, (runFor id defaults parameters user).Readies e c saved p →
      o.queries = [p.statement.bound]
  /-- A query text is sent as it was made ready, and only when it may be run. -/
  ofText : ∀ query defaults, v.dataSource.source = .rawQuery query defaults → ∀ s,
    s ∈ o.queries ↔ v.ViewableBy e user ∧ v.MayRunText e ∧
      ∃ ready, RawQuery.prepare query (Fields.overlay defaults parameters) e.parse = .ok ready ∧
        s = ⟨ready.sql, ready.params⟩
  /-- All other sources do without storage. -/
  ofOther : v.dataSource.source.report? = none →
    (∀ query defaults, v.dataSource.source ≠ .rawQuery query defaults) → o.queries = []
  offersOnce : o.offered.length ≤ 1
  /-- A record is offered of the runs of reports alone, and it names the viewer. -/
  recorded : ∀ record ∈ o.offered, v.dataSource.source.report?.isSome = true ∧
    v.ViewableBy e user ∧ record.executedBy = user
  /-- The catalog is what storage leaves of it, with the record that is offered. -/
  leaves : o.catalog = e.afterRun c o.queries o.offered

variable {v : Component} {e : Engine} {c : Catalog} {parameters : Fields} {user : String}

/-- The access check of a component says whether it may be viewed. -/
theorem canAccess_iff_viewableBy :
    canAccess e.admins v.ownerId v.isPublic user = true ↔ v.ViewableBy e user :=
  canAccess_eq_true_iff

private theorem render_of_not_viewableBy (h : ¬ v.ViewableBy e user) :
    v.render e c parameters user = .stopped c (.authorization (.view user v.id)) := by
  rw [← canAccess_iff_viewableBy] at h
  rw [render, if_neg h]

variable (c parameters) in
/-- A component that may be viewed sends the statements that its rows need, offers the records that
they do, and leaves the catalog as they do. -/
theorem render_of_viewableBy (h : v.ViewableBy e user) :
    (v.render e c parameters user).queries = (v.rows e c parameters user).queries ∧
      (v.render e c parameters user).offered = (v.rows e c parameters user).offered ∧
      (v.render e c parameters user).catalog = (v.rows e c parameters user).catalog := by
  rw [render, if_pos (canAccess_iff_viewableBy.mpr h)]
  exact ⟨rfl, rfl, rfl⟩

/-- The rows of a report are the data of a run of the viewer. -/
theorem rows_eq_of_report {id : String} {defaults : Fields}
    (h : v.dataSource.source.report? = some (id, defaults)) :
    v.rows e c parameters user =
      ⟨((runFor id defaults parameters user).execute e c).result.map (·.data),
        ((runFor id defaults parameters user).execute e c).queries,
        ((runFor id defaults parameters user).execute e c).offered,
        ((runFor id defaults parameters user).execute e c).catalog⟩ := by
  unfold rows
  cases hs : v.dataSource.source with
  | report id' defaults' | customReport id' defaults' =>
    rw [hs] at h
    cases h
    rfl
  | rawQuery | staticData | api =>
    rw [hs] at h
    cases h

variable (e c parameters user) in
private theorem rows_of_text {query : String} {defaults : Fields}
    (h : v.dataSource.source = .rawQuery query defaults) :
    (v.rows e c parameters user).queries =
        (v.preparedQuery e query (Fields.overlay defaults parameters)).toOption.toList ∧
      (v.rows e c parameters user).offered = [] ∧
      (v.rows e c parameters user).catalog =
        e.afterStorage c
          (v.preparedQuery e query (Fields.overlay defaults parameters)).toOption.toList := by
  simp only [rows, h]
  cases v.preparedQuery e query (Fields.overlay defaults parameters) <;> exact ⟨rfl, rfl, rfl⟩

variable (v e c parameters user) in
private theorem rows_of_other (hr : v.dataSource.source.report? = none)
    (ht : ∀ query defaults, v.dataSource.source ≠ .rawQuery query defaults) :
    (v.rows e c parameters user).queries = [] ∧ (v.rows e c parameters user).offered = [] ∧
      (v.rows e c parameters user).catalog = c := by
  unfold rows
  cases hs : v.dataSource.source with
  | report | customReport =>
    rw [hs] at hr
    cases hr
  | rawQuery query defaults => exact absurd hs (ht query defaults)
  | staticData | api => exact ⟨rfl, rfl, rfl⟩

variable (v e c parameters user) in
-- Every source of rows asks storage at most once, offers at most one record, which is that of a
-- report and names the viewer, and changes the catalog in no other way.
private theorem rows_offers :
    (v.rows e c parameters user).queries.length ≤ 1 ∧
      (v.rows e c parameters user).offered.length ≤ 1 ∧
      (∀ record ∈ (v.rows e c parameters user).offered,
        v.dataSource.source.report?.isSome = true ∧ record.executedBy = user) ∧
      (v.rows e c parameters user).catalog = e.afterRun c (v.rows e c parameters user).queries
        (v.rows e c parameters user).offered := by
  cases hs : v.dataSource.source with
  | report id defaults | customReport id defaults =>
    have hr : v.dataSource.source.report? = some (id, defaults) := by
      rw [hs]
      rfl
    have hrun := RunRequest.goes_execute (runFor id defaults parameters user) e c
    obtain ⟨hone, hnames, hleaves⟩ := hrun.offers
    rw [rows_eq_of_report hr]
    exact ⟨RunRequest.length_queries_execute _ e c, hone, fun record hm ↦ ⟨rfl, hnames record hm⟩,
      hleaves⟩
  | rawQuery query defaults =>
    obtain ⟨hq, ho, hc⟩ := rows_of_text e c parameters user hs
    rw [hq, ho, hc]
    refine ⟨?_, Nat.zero_le 1, fun _ hm ↦ absurd hm List.not_mem_nil, rfl⟩
    cases v.preparedQuery e query (Fields.overlay defaults parameters) <;> simp [Except.toOption]
  | staticData | api =>
    obtain ⟨hq, ho, hc⟩ := v.rows_of_other e c parameters user (by rw [hs]; rfl) (by simp [hs])
    rw [hq, ho, hc]
    exact ⟨Nat.zero_le 1, Nat.zero_le 1, fun _ hm ↦ absurd hm List.not_mem_nil, rfl⟩

private theorem checkRawQuery_eq_ok_iff : v.checkRawQuery e = .ok () ↔ v.MayRunText e := by
  unfold checkRawQuery
  constructor
  · intro h
    split at h
    · cases h
    · next he =>
      split at h
      · cases h
      · next ha =>
        refine ⟨by simpa using he, fun hon ↦ ?_⟩
        simpa [isAdmin, hon] using ha
  · intro h
    have ho := h.owner
    cases hon : e.rawQuery.adminOnly <;> simp [h.enabled, isAdmin, hon] at ho ⊢
    exact ho

private theorem preparedQuery_eq_ok_iff {query : String} {values : Fields} {s : BoundStatement} :
    v.preparedQuery e query values = .ok s ↔
      v.MayRunText e ∧ ∃ ready, RawQuery.prepare query values e.parse = .ok ready ∧
        s = ⟨ready.sql, ready.params⟩ := by
  rw [preparedQuery, Except.bind_eq_ok_iff]
  constructor
  · rintro ⟨_, hc, h⟩
    obtain ⟨ready, hr, h⟩ := Except.bind_eq_ok_iff.mp h
    cases h
    exact ⟨checkRawQuery_eq_ok_iff.mp hc, ready, Except.mapError_eq_ok_iff.mp hr, rfl⟩
  · rintro ⟨hc, ready, hr, rfl⟩
    refine ⟨(), checkRawQuery_eq_ok_iff.mpr hc, ?_⟩
    exact Except.bind_eq_ok_iff.mpr ⟨ready, Except.mapError_eq_ok_iff.mpr hr, rfl⟩

/-- Rendering treats storage and the catalog as it should, for each component. -/
theorem guarded (v : Component) (e : Engine) (c : Catalog) (parameters : Fields) (user : String) :
    v.Guarded e c parameters user (v.render e c parameters user) := by
  by_cases hv : v.ViewableBy e user
  · obtain ⟨hq, ho, hc⟩ := render_of_viewableBy c parameters hv
    obtain ⟨hasks, hone, hnames, hleaves⟩ := v.rows_offers e c parameters user
    exact
      { hidden := fun hn ↦ absurd hv hn
        asksOnce := hq ▸ hasks
        ofReport := by
          intro id defaults hr s hs
          rw [hq, rows_eq_of_report hr] at hs
          obtain ⟨saved, p, hready, rfl⟩ := RunRequest.exists_readies_of_mem_queries hs
          have ht := hready.template
          exact ⟨hv, p.template, saved, p, ht.stored, ht.allowed, rfl, hready, rfl⟩
        runsReport := by
          intro id defaults hr _ saved p hready
          rw [hq, rows_eq_of_report hr]
          exact RunRequest.queries_of_readies hready
        ofText := by
          intro query defaults hs s
          rw [hq, (rows_of_text e c parameters user hs).1, Option.mem_toList,
            Except.toOption_eq_some_iff, preparedQuery_eq_ok_iff]
          exact (and_iff_right hv).symm
        ofOther := by
          intro hr ht
          rw [hq]
          exact (v.rows_of_other e c parameters user hr ht).1
        offersOnce := ho ▸ hone
        recorded := fun record hm ↦
          have hrecord := hnames record (ho ▸ hm)
          ⟨hrecord.1, hv, hrecord.2⟩
        leaves := by rw [hc, hq, ho, hleaves] }
  · rw [render_of_not_viewableBy hv]
    exact
      { hidden := fun _ ↦ ⟨rfl, rfl, rfl, rfl⟩
        asksOnce := Nat.zero_le 1
        ofReport := by simp [Outcome.stopped]
        runsReport := fun _ _ _ h ↦ absurd h hv
        ofText := by simp [Outcome.stopped, hv]
        ofOther := fun _ _ ↦ rfl
        offersOnce := Nat.zero_le 1
        recorded := by simp [Outcome.stopped]
        leaves := rfl }

end Component

/-- Every rendering is guarded, of a component at hand and of a stored one, whatever the catalog,
the administrators, the settings and storage are. Without a component there is no trace. -/
theorem guarded_renderings (e : Engine) (c : Catalog) (parameters : Fields) (user : String) :
    (∀ v : Component, v.Guarded e c parameters user (v.render e c parameters user)) ∧
      ∀ id, match c.component? id with
        | .ok (some v) => v.Guarded e c parameters user (renderStored e c id parameters user)
        | _ => ∃ cause, renderStored e c id parameters user = ⟨.error cause, [], [], c⟩ := by
  refine ⟨fun v ↦ v.guarded e c parameters user, fun id ↦ ?_⟩
  unfold renderStored
  cases c.component? id with
  | error cause => exact ⟨_, rfl⟩
  | ok found =>
    cases found with
    | none => exact ⟨_, rfl⟩
    | some v => exact v.guarded e c parameters user

end TabularReport

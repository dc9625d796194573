import Mathlib.Data.List.Nodup
import TabularReport.Proofs.History.Preservation
import TabularReport.Proofs.Run.Compilation
import TabularReport.Proofs.Run.Rendering

/-!
# The values that a run comes to

Values are given in layers: those of a request lie over those of its saved query, and for a
component those of the caller lie over those of the component. A null covers what is below it like
any other value, but it counts as missing where a parameter has a default. The values that a run
comes to are checked, compiled and recorded, the same ones each time.
-/

namespace TabularReport

private theorem Json.absent_iff {v? : Option Json} :
    Json.absent v? = true ↔ v? = none ∨ v? = some .null := by
  cases v? with
  | none => simp [absent]
  | some v => cases v <;> simp [absent, isNull]

/-- What a name stands for when a value may be given for it: a declared default when the value is
missing or null, and else what is given. -/
inductive IsEffective (definitions : List ParameterDefinition) (name : String)
    (given : Option Json) : Option Json → Prop
  | filled {p : ParameterDefinition} {value : Json} :
      given = none ∨ given = some .null → p ∈ definitions → p.name = name →
      p.defaultValue = some value → IsEffective definitions name given (some value)
  | kept :
      (given = none ∨ given = some .null →
        ∀ p ∈ definitions, p.name = name → p.defaultValue = none) →
      IsEffective definitions name given given

private theorem ParameterDefinition.isEffective_fillDefaults
    {definitions : List ParameterDefinition} (hn : (definitions.map (·.name)).Nodup)
    (values : Fields) (name : String) :
    IsEffective definitions name (Fields.get? values name)
      (Fields.get? (fillDefaults definitions values) name) := by
  by_cases hk : ∃ p ∈ definitions, p.name = name
  · obtain ⟨p, hp, rfl⟩ := hk
    have honly : ∀ q ∈ definitions, q.name = p.name → q = p := fun q hq he ↦
      List.inj_on_of_nodup_map hn hq hp he
    rw [get?_fillDefaults_of_mem hn hp, effective]
    by_cases ha : Json.absent (Fields.get? values p.name) = true
    · rw [if_pos ha]
      cases hd : p.defaultValue with
      | none => exact .kept fun _ q hq he ↦ honly q hq he ▸ hd
      | some value => exact .filled (Json.absent_iff.mp ha) hp rfl hd
    · rw [if_neg ha]
      exact .kept fun hgiven ↦ absurd (Json.absent_iff.mpr hgiven) ha
  · simp only [not_exists, not_and] at hk
    rw [get?_fillDefaults_of_ne hk]
    exact .kept fun _ p hp he ↦ absurd he (hk p hp)

private theorem PreparedRun.finish_records (p : PreparedRun) (e : Engine) (c : Catalog) :
    (p.finish e c).queries = [p.statement.bound] ∧
      (∃ record, record.parameters = p.record.parameters ∧
        e.Keeps (e.afterStorage c [p.statement.bound]) record (p.finish e c).offered
          (p.finish e c).catalog) ∧
      ∀ response, (p.finish e c).result = .ok response →
        response.execution.parameters = p.record.parameters := by
  rw [Engine.afterStorage, List.foldl_cons, List.foldl_nil]
  dsimp only [finish, AssembledQuery.bound]
  cases (e.storage ⟨p.statement.sql, p.statement.params⟩).run c with
  | mk answer left =>
    cases answer with
    | error cause =>
      refine ⟨Engine.queries_record .., ⟨_, ?_, e.keeps_record ..⟩, fun response h ↦ ?_⟩
      · rfl
      · cases (Engine.result_record ..).symm.trans h
    | ok rows =>
      refine ⟨Engine.queries_record .., ⟨_, ?_, e.keeps_record ..⟩, fun response h ↦ ?_⟩
      · rfl
      · cases (Engine.result_record ..).symm.trans h
        rfl

namespace RunRequest

/-- The value that a run is given for a name: that of the request when it has the name, and else
that of the saved query. -/
def given? (r : RunRequest) (saved : Option SavedQuery) (name : String) : Option Json :=
  (Fields.get? r.parameters name).or (saved.bind fun q ↦ Fields.get? q.parameters name)

/-- How a run treats the values that it comes to, when some are given and some parameters are
declared. -/
structure RunsOn (r : RunRequest) (e : Engine) (c : Catalog) (t : ReportTemplate)
    (saved : Option SavedQuery) (definitions : List ParameterDefinition)
    (given : String → Option Json) (values : Fields) : Prop where
  /-- Each name stands once, so that the values are determined by what is under each name. -/
  sorted : Fields.IsSorted values
  effective : ∀ name, IsEffective definitions name (given name) (Fields.get? values name)
  anyOrder : ∀ others, others.Perm definitions →
    ParameterDefinition.fillDefaults others (r.given saved) = values
  again : ParameterDefinition.fillDefaults definitions values = values
  /-- The values are checked, and then the statement is compiled with them. -/
  refused : ∀ problem, ParameterDefinition.check definitions values = .error problem →
    r.execute e c = .stopped c (.validation problem)
  uncompiled : ParameterDefinition.check definitions values = .ok () → ∀ problem,
    t.assemble (r.query saved values) e.settings.pageLimits = .error problem →
    r.execute e c = .stopped c (.validation problem)
  compiled : ParameterDefinition.check definitions values = .ok () → ∀ a,
    t.assemble (r.query saved values) e.settings.pageLimits = .ok a →
    (r.execute e c).queries = [a.bound] ∧
      ∃ record, record.parameters = values ∧
        e.Keeps (e.afterStorage c [a.bound]) record (r.execute e c).offered (r.execute e c).catalog
  answered : ∀ response, (r.execute e c).result = .ok response →
    response.execution.parameters = values

variable {r : RunRequest} {e : Engine} {c : Catalog} {t : ReportTemplate}
  {saved : Option SavedQuery} {definitions : List ParameterDefinition}

private theorem get?_given (hr : Fields.IsSorted r.parameters) (saved : Option SavedQuery)
    (name : String) :
    Fields.get? (r.given saved) name = r.given? saved name := by
  rw [given, Fields.get?_overlay _ hr.nodup_keys, given?]
  cases saved <;> rfl

private theorem isSorted_given (hq : r.FindsSavedQuery e c t saved) :
    Fields.IsSorted (r.given saved) := by
  refine Fields.isSorted_overlay ?_ _
  cases hq with
  | unnamed => exact .nil
  | named _ hstored _ =>
    obtain ⟨_, hread⟩ := Catalog.exists_source_of_find hstored
    exact SavedQuery.isSorted_parameters hread

private theorem execute_eq_finish {values : Fields} {a : AssembledQuery}
    (ht : r.FindsTemplate e c t) (hq : r.FindsSavedQuery e c t saved)
    (hv : r.Supplies c t saved values)
    (ha : t.assemble (r.query saved values) e.settings.pageLimits = .ok a) :
    r.execute e c = PreparedRun.finish ⟨t, a, r.startedRecord e t saved values⟩ e c := by
  have hready : r.Readies e c saved ⟨t, a, r.startedRecord e t saved values⟩ :=
    ⟨ht, hq, hv, ha, rfl⟩
  rw [execute, prepare_eq_ok_iff.mpr ⟨saved, hready⟩]

private theorem runsOn_fillDefaults {values : Fields} (hd : c.parameters t.id = .ok definitions)
    (hn : (definitions.map (·.name)).Nodup) (hr : Fields.IsSorted r.parameters)
    (ht : r.FindsTemplate e c t) (hq : r.FindsSavedQuery e c t saved)
    (hvalues : ParameterDefinition.fillDefaults definitions (r.given saved) = values) :
    r.RunsOn e c t saved definitions (r.given? saved) values := by
  have hgiven := isSorted_given hq
  have hsupplies (hc : ParameterDefinition.check definitions values = .ok ()) :
      r.Supplies c t saved values := by
    rw [← hvalues] at hc ⊢
    exact .accepted hd hc
  have hrefused {problem : ValidationError}
      (h : ParameterDefinition.check definitions values = .error problem) :=
    execute_of_fails (.invalidParameters ht hq hd (hvalues ▸ h))
  have huncompiled {problem : ValidationError}
      (hc : ParameterDefinition.check definitions values = .ok ())
      (h : t.assemble (r.query saved values) e.settings.pageLimits = .error problem) :=
    execute_of_fails (.refusedStatement ht hq (hsupplies hc) h)
  refine
    { sorted := hvalues ▸ ParameterDefinition.isSorted_fillDefaults definitions hgiven
      effective := fun name ↦ ?_
      anyOrder := fun others ho ↦ ?_
      again := ?_
      refused := fun _ ↦ hrefused
      uncompiled := fun hc _ ↦ huncompiled hc
      compiled := fun hc a ha ↦ ?_
      answered := fun response h ↦ ?_ }
  · rw [← get?_given hr, ← hvalues]
    exact ParameterDefinition.isEffective_fillDefaults hn _ name
  · rw [← hvalues]
    exact ParameterDefinition.fillDefaults_perm ho ((ho.map _).nodup_iff.mpr hn) hgiven
  · rw [← hvalues]
    exact ParameterDefinition.fillDefaults_fillDefaults hn hgiven
  · rw [execute_eq_finish ht hq (hsupplies hc) ha]
    obtain ⟨hqueries, hrecord, -⟩ :=
      PreparedRun.finish_records ⟨t, a, r.startedRecord e t saved values⟩ e c
    exact ⟨hqueries, hrecord⟩
  · -- A run that answers has neither been refused nor stayed without a statement.
    cases hc : ParameterDefinition.check definitions values with
    | error problem =>
      rw [hrefused hc] at h
      cases h
    | ok =>
      cases ha : t.assemble (r.query saved values) e.settings.pageLimits with
      | error problem =>
        rw [huncompiled hc ha] at h
        cases h
      | ok a =>
        rw [execute_eq_finish ht hq (hsupplies hc) ha] at h
        exact (PreparedRun.finish_records _ e c).2.2 response h

end RunRequest

namespace Component

/-- How a rendering hands on the run of a report: it sends its statements, offers its record, leaves
the catalog as the run does, and fails when the run does. -/
structure HandsOn (v : Component) (e : Engine) (c : Catalog) (parameters : Fields) (user : String)
    (r : RunRequest) : Prop where
  queries : (v.render e c parameters user).queries = (r.execute e c).queries
  offered : (v.render e c parameters user).offered = (r.execute e c).offered
  catalog : (v.render e c parameters user).catalog = (r.execute e c).catalog
  fails : ∀ cause, (r.execute e c).result = .error cause →
    (v.render e c parameters user).result = .error cause

variable {v : Component} {e : Engine} {c : Catalog} {parameters defaults : Fields}
  {id user : String}

private theorem given?_runFor (hp : Fields.IsSorted parameters) (name : String) :
    (runFor id defaults parameters user).given? none name =
      (Fields.get? parameters name).or (Fields.get? defaults name) := by
  rw [RunRequest.given?, Option.bind_none, Option.or_none]
  exact Fields.get?_overlay defaults hp.nodup_keys name

private theorem handsOn_runFor (hv : v.ViewableBy e user)
    (hr : v.dataSource.source.report? = some (id, defaults)) :
    v.HandsOn e c parameters user (runFor id defaults parameters user) := by
  obtain ⟨hq, ho, hc⟩ := render_of_viewableBy c parameters hv
  rw [rows_eq_of_report hr] at hq ho hc
  refine ⟨hq, ho, hc, fun cause h ↦ ?_⟩
  rw [render, if_pos (canAccess_iff_viewableBy.mpr hv)]
  dsimp only
  rw [rows_eq_of_report hr, h]
  rfl

end Component

/-- A run comes to one effective value for each name, which it checks, compiles with and records,
and so does a component that asks for the run of a report. -/
theorem effective_values (e : Engine) {c : Catalog} {t : ReportTemplate}
    {definitions : List ParameterDefinition} (hd : c.parameters t.id = .ok definitions)
    (hn : (definitions.map (·.name)).Nodup) :
    (c.template? t.id = .ok (some t) → definitions.Perm t.parameters) ∧
      (∀ (r : RunRequest) (saved : Option SavedQuery), Fields.IsSorted r.parameters →
        r.FindsTemplate e c t → r.FindsSavedQuery e c t saved →
        ∃ values, r.RunsOn e c t saved definitions (r.given? saved) values) ∧
      ∀ (v : Component) (id : String) (defaults parameters : Fields) (user : String),
        v.dataSource.source.report? = some (id, defaults) → v.ViewableBy e user →
        Fields.IsSorted defaults → Fields.IsSorted parameters →
        (Component.runFor id defaults parameters user).FindsTemplate e c t →
        v.HandsOn e c parameters user (Component.runFor id defaults parameters user) ∧
          ∃ values, (Component.runFor id defaults parameters user).RunsOn e c t none definitions
            (fun name ↦ (Fields.get? parameters name).or (Fields.get? defaults name)) values := by
  refine ⟨fun ht ↦ ?_,
    fun r saved hr ht hq ↦ ⟨_, RunRequest.runsOn_fillDefaults hd hn hr ht hq rfl⟩,
    fun v id defaults parameters user hr hv hdefaults hp ht ↦
      ⟨Component.handsOn_runFor hv hr, ?_⟩⟩
  · cases hd.symm.trans (Catalog.parameters_eq ht)
    exact t.parameters.mergeSort_perm _
  · have hruns := RunRequest.runsOn_fillDefaults hd hn
      (Fields.isSorted_overlay hdefaults parameters) ht (.unnamed rfl) rfl
    rw [funext (Component.given?_runFor hp)] at hruns
    exact ⟨_, hruns⟩

/-- The values that somebody has saved for doses. -/
def savedDoses : SavedQuery :=
  { id := "mine"
    templateId := "doses"
    parameters := [("last", .number (.int 5)), ("least", .number (.int 7))]
    createdAt := ⟨0, 0⟩ }

/-- A catalog of doses and of values saved for them. -/
def dosesCatalog : Catalog := (catalogOf (dosesReport (.int 3))).saveSavedQuery savedDoses

private theorem template?_dosesCatalog :
    dosesCatalog.template? "doses" = .ok (some (dosesReport (.int 3))) := by
  have hreadable : (dosesReport (.int 3)).toJson.IsReadable := by decide +kernel
  have hreread : (dosesReport (.int 3)).toJson.reread = (dosesReport (.int 3)).toJson := rfl
  have htext := (ReportTemplate.reader.ofText_compact hreadable).1
  rw [hreread] at htext
  have hread := (htext (by decide +kernel)).trans (reader_wholeDoses .text)
  refine Catalog.find_of_text? ?_ hread
  rw [dosesCatalog, Catalog.saveSavedQuery, Catalog.text?_put, if_neg (by simp)]
  exact text?_catalogOf _

set_option maxRecDepth 20000 in
private theorem savedQuery?_dosesCatalog :
    dosesCatalog.savedQuery? ⟨0, 0⟩ "mine" = .ok (some savedDoses) := by
  have hreadable : savedDoses.toJson.IsReadable := by decide +kernel
  have hreread : savedDoses.toJson.reread = savedDoses.toJson := rfl
  have htext := ((SavedQuery.reader ⟨0, 0⟩).ofText_compact hreadable).1
  rw [hreread] at htext
  have hread : (SavedQuery.reader ⟨0, 0⟩).ofText savedDoses.toJson.compact = .ok savedDoses :=
    (htext (by decide +kernel)).trans rfl
  refine Catalog.find_of_text? ?_ hread
  rw [dosesCatalog, Catalog.saveSavedQuery, Catalog.text?_put, if_pos ⟨rfl, rfl⟩]

/-- A request for doses that takes back the amount of the saved values. -/
def dosesRequest : RunRequest :=
  { reportId := "doses"
    parameters := [("least", .null)]
    savedQueryId := some "mine"
    requesterId := "ann" }

/-- A component of doses before a day. -/
def dosesTable : Component :=
  { id := "doses"
    chartType := .table
    dataSource := { source := .report "doses" [("last", .number (.int 5))] }
    isPublic := true }

/-- The day of doses is the one that is saved, or that of the component, and their amount is the
default, for the null that covers it counts as missing. -/
theorem effective_values_doses :
    let definitions := ParameterDefinition.inOrder (dosesReport (.int 3)).parameters
    let values : Fields := [("last", .number (.int 5)), ("least", .number (.int 3))]
    dosesCatalog.parameters (dosesReport (.int 3)).id = .ok definitions ∧
      (definitions.map (·.name)).Nodup ∧
      dosesRequest.RunsOn emptyStorage dosesCatalog (dosesReport (.int 3)) (some savedDoses)
        definitions (dosesRequest.given? (some savedDoses)) values ∧
      ∃ r, dosesTable.HandsOn emptyStorage dosesCatalog [("least", .null)] "ann" r ∧
        ∃ given, r.RunsOn emptyStorage dosesCatalog (dosesReport (.int 3)) none definitions given
          values := by
  intro definitions values
  have hd : dosesCatalog.parameters (dosesReport (.int 3)).id = .ok definitions :=
    Catalog.parameters_eq template?_dosesCatalog
  have hreverse : definitions = (dosesReport (.int 3)).parameters.reverse := inOrder_dosesReport _
  have hn : (definitions.map (·.name)).Nodup := by
    rw [hreverse]
    decide
  obtain ⟨-, hrequests, hcomponents⟩ := effective_values emptyStorage hd hn
  obtain ⟨fromRequest, hrequest⟩ := hrequests dosesRequest (some savedDoses)
    (List.pairwise_singleton ..) ⟨template?_dosesCatalog, .inl rfl⟩
    (.named rfl savedQuery?_dosesCatalog rfl)
  obtain ⟨hhands, fromComponent, hcomponent⟩ := hcomponents dosesTable "doses"
    [("last", .number (.int 5))] [("least", .null)] "ann" rfl (.inl rfl)
    (List.pairwise_singleton ..) (List.pairwise_singleton ..) ⟨template?_dosesCatalog, .inl rfl⟩
  have hrequested : values = fromRequest := by
    rw [← hrequest.anyOrder definitions (.refl _), hreverse]
    rfl
  have hasked : values = fromComponent := by
    rw [← hcomponent.anyOrder definitions (.refl _), hreverse]
    rfl
  exact ⟨hd, hn, hrequested ▸ hrequest, _, hhands, _, hasked ▸ hcomponent⟩

end TabularReport

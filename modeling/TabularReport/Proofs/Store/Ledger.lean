import Mathlib
import TabularReport.Proofs.Run.Rendering
import TabularReport.Proofs.Store.Contents
import TabularReport.Store.Tables

/-!
# A store over a sequence of calls

Calls save documents, add records, run reports and render components, all on one store, which also
answers the statements that runs and renderings send. As long as no statement changes the catalog,
each collection answers like a map and the records grow like a log: what is looked up is what was
last saved under the id, and a listing shows the log of the records that were added. A query text
can hold a statement that does change the catalog.
-/

namespace TabularReport

/-- A call on a store. Runs and renderings come with what they are carried out with, except for the
store itself. -/
inductive StoreCall where
  | saveTemplate (t : ReportTemplate)
  | saveSavedQuery (q : SavedQuery)
  | saveComponent (v : Component)
  | append (r : RunRecord)
  | execute (r : RunRequest) (e : Engine)
  | render (v : Component) (e : Engine) (parameters : Fields) (user : String)
  | renderStored (id : String) (e : Engine) (parameters : Fields) (user : String)

/-- What statements do on a store. -/
abbrev StoreActions := BoundStatement → StorageAction

/-- The engine that asks a store and adds its records to it. -/
def Engine.onStore (e : Engine) (store : StoreActions) : Engine :=
  { e with append := Catalog.append, storage := store }

/-- The catalog after a record has been offered to it: with the record when its id is new. -/
def Catalog.offered (c : Catalog) (r : RunRecord) : Catalog :=
  match c.append r with
  | .ok after => after
  | .error _ => c

/-- What a call asks the store for, the records that it offers, and the catalog after it. -/
structure CallEffect where
  queries : List BoundStatement := []
  offered : List RunRecord := []
  catalog : Catalog

/-- What a run or a rendering does to the store. -/
def Outcome.effect {α : Type} (o : Outcome α) : CallEffect := ⟨o.queries, o.offered, o.catalog⟩

namespace StoreCall

/-- What a call does to a store. -/
def effect (store : StoreActions) (c : Catalog) : StoreCall → CallEffect
  | .saveTemplate t => { catalog := c.saveTemplate t }
  | .saveSavedQuery q => { catalog := c.saveSavedQuery q }
  | .saveComponent v => { catalog := c.saveComponent v }
  | .append r => { offered := [r], catalog := c.offered r }
  | .execute r e => (r.execute (e.onStore store) c).effect
  | .render v e parameters user => (v.render (e.onStore store) c parameters user).effect
  | .renderStored id e parameters user =>
    (TabularReport.renderStored (e.onStore store) c id parameters user).effect

/-- Whether the statements of a call all leave the catalog as it is. -/
def Leaves (store : StoreActions) (c : Catalog) (x : StoreCall) : Prop :=
  ∀ s ∈ (x.effect store c).queries, ((store s).run c).2 = c

/-- The template that a call saves under an id. -/
def template? (id : String) : StoreCall → Option ReportTemplate
  | .saveTemplate t => if t.id = id then some t else none
  | _ => none

/-- The saved query that a call saves under an id. -/
def savedQuery? (id : String) : StoreCall → Option SavedQuery
  | .saveSavedQuery q => if q.id = id then some q else none
  | _ => none

/-- The component that a call saves under an id. -/
def component? (id : String) : StoreCall → Option Component
  | .saveComponent v => if v.id = id then some v else none
  | _ => none

/-- The text that a call saves under an id of a collection. -/
def text? (collection : Collection) (id : String) (x : StoreCall) : Option String :=
  match collection with
  | .templates => (x.template? id).map (·.toJson.compact)
  | .savedQueries => (x.savedQuery? id).map (·.toJson.compact)
  | .components => (x.component? id).map (·.toJson.compact)

end StoreCall

namespace Catalog

private theorem offered_eq (c : Catalog) (r : RunRecord) :
    c.offered r = if r.id ∈ c.records.map (·.id) then c else c.withRecord r := by
  rw [offered, append_eq]
  by_cases hid : r.id ∈ c.records.map (·.id)
  · rw [if_pos hid, if_pos hid]
  · rw [if_neg hid, if_neg hid]

private theorem text?_foldl_offered (c : Catalog) (records : List RunRecord)
    (collection : Collection) (id : String) :
    (records.foldl offered c).text? collection id = c.text? collection id := by
  induction records generalizing c with
  | nil => rfl
  | cons r rest ih =>
    rw [List.foldl_cons, ih, offered_eq]
    split
    · rfl
    · cases collection <;> rfl

private theorem records_foldl_offered_prefix (c : Catalog) (records : List RunRecord) :
    c.records <+: (records.foldl offered c).records := by
  induction records generalizing c with
  | nil => exact List.prefix_rfl
  | cons r rest ih =>
    refine List.IsPrefix.trans ?_ (ih (c.offered r))
    rw [offered_eq]
    split
    · exact List.prefix_rfl
    · exact List.prefix_append ..

end Catalog

private theorem Engine.afterStorage_eq_self {e : Engine} {c : Catalog}
    {statements : List BoundStatement} (h : ∀ s ∈ statements, ((e.storage s).run c).2 = c) :
    e.afterStorage c statements = c := by
  induction statements with
  | nil => rfl
  | cons s rest ih =>
    rw [List.forall_mem_cons] at h
    rw [afterStorage, List.foldl_cons, h.1]
    exact ih h.2

namespace StoreCall

variable {store : StoreActions} {c : Catalog}

-- All that a call can do when its statements leave the catalog: it saves one document and offers no
-- record, or it saves none and leaves the catalog with the records that it offers.
private theorem effect_cases (x : StoreCall) (h : x.Leaves store c) :
    (∃ collection id document, (x.effect store c).catalog = c.put collection id document ∧
      (x.effect store c).offered = [] ∧
      ∀ other otherId, x.text? other otherId =
        if other = collection ∧ otherId = id then some document else none) ∨
      (x.effect store c).catalog = (x.effect store c).offered.foldl Catalog.offered c ∧
        ∀ collection id, x.text? collection id = none := by
  have hrun {e : Engine} {queries : List BoundStatement} {offered : List RunRecord}
      (hq : ∀ s ∈ queries, ((store s).run c).2 = c) :
      (e.onStore store).afterRun c queries offered = offered.foldl Catalog.offered c := by
    rw [Engine.afterRun, Engine.afterStorage_eq_self (e := e.onStore store) hq]
    rfl
  cases x with
  | saveTemplate t =>
    refine .inl ⟨.templates, t.id, t.toJson.compact, rfl, rfl, fun other id ↦ ?_⟩
    cases other <;> simp [text?, template?, savedQuery?, component?, eq_comm]
  | saveSavedQuery q =>
    refine .inl ⟨.savedQueries, q.id, q.toJson.compact, rfl, rfl, fun other id ↦ ?_⟩
    cases other <;> simp [text?, template?, savedQuery?, component?, eq_comm]
  | saveComponent v =>
    refine .inl ⟨.components, v.id, v.toJson.compact, rfl, rfl, fun other id ↦ ?_⟩
    cases other <;> simp [text?, template?, savedQuery?, component?, eq_comm]
  | append r => exact .inr ⟨rfl, fun collection id ↦ by cases collection <;> rfl⟩
  | execute r e =>
    have hgoes := RunRequest.goes_execute r (e.onStore store) c
    exact .inr ⟨hgoes.offers.2.2.trans (hrun h), fun collection id ↦ by cases collection <;> rfl⟩
  | render v e parameters user =>
    have hguarded := v.guarded (e.onStore store) c parameters user
    exact .inr ⟨hguarded.leaves.trans (hrun h), fun collection id ↦ by cases collection <;> rfl⟩
  | renderStored id e parameters user =>
    refine .inr ⟨?_, fun collection id ↦ by cases collection <;> rfl⟩
    simp only [Leaves, effect, TabularReport.renderStored] at h ⊢
    cases hv : c.component? id with
    | error cause => rfl
    | ok found =>
      cases found with
      | none => rfl
      | some v =>
        rw [hv] at h
        exact (v.guarded (e.onStore store) c parameters user).leaves.trans (hrun h)

private theorem text?_effect {x : StoreCall} (h : x.Leaves store c) (collection : Collection)
    (id : String) : (x.effect store c).catalog.text? collection id =
      (x.text? collection id).or (c.text? collection id) := by
  obtain ⟨saved, savedId, document, hcatalog, -, htext⟩ | ⟨hcatalog, htext⟩ := x.effect_cases h
  · rw [hcatalog, htext, Catalog.text?_put]
    split <;> rfl
  · rw [hcatalog, htext, Catalog.text?_foldl_offered]
    rfl

private theorem records_effect {x : StoreCall} (h : x.Leaves store c) :
    (x.effect store c).catalog.records =
      ((x.effect store c).offered.foldl Catalog.offered c).records := by
  obtain ⟨saved, savedId, document, hcatalog, hoffered, -⟩ | ⟨hcatalog, -⟩ := x.effect_cases h
  · rw [hcatalog, hoffered, Catalog.records_put]
    rfl
  · rw [hcatalog]

end StoreCall

/-- A store with the log of the records that have been added to it. -/
structure Ledger where
  catalog : Catalog := {}
  log : List RunRecord := []

namespace Ledger

/-- A log with a record that is offered, which is added when no record of the log has its id. -/
def logged (log : List RunRecord) (r : RunRecord) : List RunRecord :=
  if r.id ∈ log.map (·.id) then log else log ++ [r]

section

variable (store : StoreActions)

/-- The ledger after a call. -/
def call (s : Ledger) (x : StoreCall) : Ledger where
  catalog := (x.effect store s.catalog).catalog
  log := (x.effect store s.catalog).offered.foldl logged s.log

/-- The ledger after a sequence of calls on a new store. -/
def after (calls : List StoreCall) : Ledger := calls.foldl (call store) {}

/-- Whether no statement that is sent in a sequence of calls on a new store changes the catalog. -/
def Undisturbed (calls : List StoreCall) : Prop :=
  ∀ before x rest, calls = before ++ x :: rest → x.Leaves store (after store before).catalog

end

/-- Whether a catalog holds what a sequence of calls has left in it: under each id the text that was
last saved there, and the records of the log. -/
structure Reflects (s : Ledger) (calls : List StoreCall) : Prop where
  texts : ∀ collection id,
    s.catalog.text? collection id = calls.reverse.findSome? (·.text? collection id)
  records : s.catalog.records = s.log.map RunRecord.stored

private theorem records_foldl_logged {c : Catalog} {log : List RunRecord}
    (h : c.records = log.map RunRecord.stored) (records : List RunRecord) :
    (records.foldl Catalog.offered c).records =
      (records.foldl logged log).map RunRecord.stored := by
  induction records generalizing c log with
  | nil => exact h
  | cons r rest ih =>
    refine ih ?_
    have hids : c.records.map (·.id) = log.map (·.id) := by
      rw [h, List.map_map]
      rfl
    rw [Catalog.offered_eq, logged, hids]
    split
    · exact h
    · simp [Catalog.withRecord, h]

private theorem Reflects.ids {s : Ledger} {calls : List StoreCall} (h : s.Reflects calls) :
    s.catalog.records.map (·.id) = s.log.map (·.id) := by
  rw [h.records, List.map_map]
  rfl

variable {store : StoreActions}

private theorem Reflects.call {s : Ledger} {calls : List StoreCall} (h : s.Reflects calls)
    {x : StoreCall} (hx : x.Leaves store s.catalog) : (s.call store x).Reflects (calls ++ [x]) where
  texts collection id := by
    rw [Ledger.call, StoreCall.text?_effect hx, h.texts, List.reverse_concat, List.findSome?_cons]
    cases x.text? collection id <;> rfl
  records := by
    rw [Ledger.call, StoreCall.records_effect hx, records_foldl_logged h.records]

private theorem after_concat (calls : List StoreCall) (x : StoreCall) :
    after store (calls ++ [x]) = (after store calls).call store x := by
  rw [after, List.foldl_append]
  rfl

private theorem undisturbed_nil : Undisturbed store [] := fun before x rest h ↦ by simp at h

private theorem undisturbed_concat_iff {calls : List StoreCall} {x : StoreCall} :
    Undisturbed store (calls ++ [x]) ↔
      Undisturbed store calls ∧ x.Leaves store (after store calls).catalog := by
  constructor
  · intro h
    exact ⟨fun before y rest hc ↦ h before y (rest ++ [x]) (by simp [hc]), h calls x [] rfl⟩
  · rintro ⟨h, hx⟩ before y rest hc
    rcases List.eq_nil_or_concat rest with rfl | ⟨rest, z, rfl⟩
    · obtain ⟨rfl, hy⟩ := List.append_inj' hc rfl
      cases hy
      exact hx
    · have hlast : calls ++ [x] = (before ++ y :: rest) ++ [z] := by simpa using hc
      exact h before y rest (List.append_inj' hlast rfl).1

private theorem reflects_after {calls : List StoreCall} (h : Undisturbed store calls) :
    (after store calls).Reflects calls := by
  induction calls using List.reverseRecOn with
  | nil => exact ⟨fun collection id ↦ by cases collection <;> rfl, rfl⟩
  | append_singleton calls x ih =>
    obtain ⟨hcalls, hx⟩ := undisturbed_concat_iff.mp h
    rw [after_concat]
    exact (ih hcalls).call hx

private theorem records_prefix {calls more : List StoreCall}
    (h : Undisturbed store (calls ++ more)) :
    (after store calls).catalog.records <+: (after store (calls ++ more)).catalog.records := by
  induction more using List.reverseRecOn with
  | nil => simp only [List.append_nil, List.prefix_rfl]
  | append_singleton more x ih =>
    rw [← List.append_assoc] at h ⊢
    obtain ⟨hcalls, hx⟩ := undisturbed_concat_iff.mp h
    refine (ih hcalls).trans ?_
    rw [after_concat, call, StoreCall.records_effect hx]
    exact Catalog.records_foldl_offered_prefix _ _

/-- The template that was last saved under an id. -/
def lastTemplate (calls : List StoreCall) (id : String) : Option ReportTemplate :=
  calls.reverse.findSome? (·.template? id)

/-- The saved query that was last saved under an id. -/
def lastSavedQuery (calls : List StoreCall) (id : String) : Option SavedQuery :=
  calls.reverse.findSome? (·.savedQuery? id)

/-- The component that was last saved under an id. -/
def lastComponent (calls : List StoreCall) (id : String) : Option Component :=
  calls.reverse.findSome? (·.component? id)

section

variable {calls : List StoreCall} (h : Undisturbed store calls) {id : String}
include h

private theorem template?_after
    (hread : ∀ t ∈ lastTemplate calls id, ReportTemplate.reader.ofText t.toJson.compact = .ok t) :
    (after store calls).catalog.template? id = .ok (lastTemplate calls id) := by
  have htext : (after store calls).catalog.text? .templates id =
      (lastTemplate calls id).map fun t ↦ t.toJson.compact := by
    rw [(reflects_after h).texts, lastTemplate, List.map_findSome?]
    rfl
  exact Catalog.find_eq_ok htext hread

private theorem savedQuery?_after {now : Instant}
    (hread : ∀ q ∈ lastSavedQuery calls id,
      (SavedQuery.reader now).ofText q.toJson.compact = .ok q) :
    (after store calls).catalog.savedQuery? now id = .ok (lastSavedQuery calls id) := by
  have htext : (after store calls).catalog.text? .savedQueries id =
      (lastSavedQuery calls id).map fun q ↦ q.toJson.compact := by
    rw [(reflects_after h).texts, lastSavedQuery, List.map_findSome?]
    rfl
  exact Catalog.find_eq_ok htext hread

private theorem component?_after
    (hread : ∀ v ∈ lastComponent calls id, Component.reader.ofText v.toJson.compact = .ok v) :
    (after store calls).catalog.component? id = .ok (lastComponent calls id) := by
  have htext : (after store calls).catalog.text? .components id =
      (lastComponent calls id).map fun v ↦ v.toJson.compact := by
    rw [(reflects_after h).texts, lastComponent, List.map_findSome?]
    rfl
  exact Catalog.find_eq_ok htext hread

private theorem append_after_of_mem {r : RunRecord}
    (hused : r.id ∈ (after store calls).log.map (·.id)) :
    (after store calls).catalog.append r = .error (.database .repeatedRecord) ∧
      after store (calls ++ [.append r]) = after store calls := by
  have hid : r.id ∈ (after store calls).catalog.records.map (·.id) := by
    rwa [(reflects_after h).ids]
  have hcatalog : (after store calls).catalog.offered r = (after store calls).catalog :=
    (Catalog.offered_eq _ r).trans (if_pos hid)
  have hlog : logged (after store calls).log r = (after store calls).log := if_pos hused
  rw [Catalog.append_eq, if_pos hid, after_concat]
  exact ⟨rfl, congrArg₂ Ledger.mk hcatalog hlog⟩

private theorem append_after_of_not_mem {r : RunRecord}
    (hnew : r.id ∉ (after store calls).log.map (·.id)) :
    (after store calls).catalog.append r =
        .ok (after store (calls ++ [.append r])).catalog ∧
      (after store (calls ++ [.append r])).log = (after store calls).log ++ [r] := by
  have hid : r.id ∉ (after store calls).catalog.records.map (·.id) := by
    rwa [(reflects_after h).ids]
  have hcatalog : (after store calls).catalog.offered r =
      (after store calls).catalog.withRecord r :=
    (Catalog.offered_eq _ r).trans (if_neg hid)
  have hlog : logged (after store calls).log r = (after store calls).log ++ [r] := if_neg hnew
  rw [Catalog.append_eq, if_neg hid, after_concat]
  exact ⟨congrArg Except.ok hcatalog.symm, hlog⟩

end

/-- How a store answers after a sequence of calls, as far as the documents concerned read back from
their texts. -/
structure Answers (store : StoreActions) (calls : List StoreCall) : Prop where
  template : ∀ id,
    (∀ t ∈ lastTemplate calls id, ReportTemplate.reader.ofText t.toJson.compact = .ok t) →
    (after store calls).catalog.template? id = .ok (lastTemplate calls id)
  savedQuery : ∀ id now,
    (∀ q ∈ lastSavedQuery calls id, (SavedQuery.reader now).ofText q.toJson.compact = .ok q) →
    (after store calls).catalog.savedQuery? now id = .ok (lastSavedQuery calls id)
  component : ∀ id,
    (∀ v ∈ lastComponent calls id, Component.reader.ofText v.toJson.compact = .ok v) →
    (after store calls).catalog.component? id = .ok (lastComponent calls id)
  /-- Look-ups of what a call does not save answer as before the call. -/
  others : ∀ x collection id, Undisturbed store (calls ++ [x]) → x.text? collection id = none →
    ∀ {α : Type} (r : Reader α), (after store (calls ++ [x])).catalog.find collection r id =
      (after store calls).catalog.find collection r id
  parameters : ∀ id,
    (∀ t ∈ lastTemplate calls id, ReportTemplate.reader.ofText t.toJson.compact = .ok t) →
    ∃ sorted, (after store calls).catalog.parameters id = .ok sorted ∧
      SortsBy (·.position) (· ≤ ·)
        (((lastTemplate calls id).map (·.parameters)).getD []) sorted
  /-- No call takes a record away or changes it. -/
  kept : ∀ more, Undisturbed store (calls ++ more) →
    (after store calls).catalog.records <+: (after store (calls ++ more)).catalog.records
  refused : ∀ r, r.id ∈ (after store calls).log.map (·.id) →
    (after store calls).catalog.append r = .error (.database .repeatedRecord) ∧
      after store (calls ++ [.append r]) = after store calls
  added : ∀ r, r.id ∉ (after store calls).log.map (·.id) →
    (after store calls).catalog.append r = .ok (after store (calls ++ [.append r])).catalog ∧
      (after store (calls ++ [.append r])).log = (after store calls).log ++ [r]
  /-- A listing has the records of the template, newest first, of one millisecond the last added
  first. A limit counts below `2^63`; above, all are shown, of which a store has fewer. -/
  history : ∀ templateId,
    (∀ r ∈ (after store calls).log, r.templateId = templateId →
      RunRecord.reader.ofText r.toJson.compact = .ok r) →
    ∃ listing,
      SortsBy (·.executedAt.millis) (· ≥ ·)
        ((after store calls).log.filter (·.templateId == templateId)).reverse listing ∧
      ∀ limit, limit < 2 ^ 63 ∨ (after store calls).log.length ≤ limit →
        (after store calls).catalog.history templateId limit = .ok (listing.take limit)

/-- A store answers like a map of documents and a log of records, after any sequence of calls in
which no statement changes the catalog. -/
theorem answers_after {calls : List StoreCall} (h : Undisturbed store calls) :
    Answers store calls where
  template _ hread := template?_after h hread
  savedQuery _ _ hread := savedQuery?_after h hread
  component _ hread := component?_after h hread
  others x collection id hx hnone _ r := by
    have htext : (after store (calls ++ [x])).catalog.text? collection id =
        (after store calls).catalog.text? collection id := by
      rw [after_concat, call, StoreCall.text?_effect (undisturbed_concat_iff.mp hx).2, hnone]
      rfl
    rw [Catalog.find_eq, Catalog.find_eq, htext]
  parameters _ hread := Catalog.sortsBy_parameters (template?_after h hread)
  kept _ hmore := records_prefix hmore
  refused _ hused := append_after_of_mem h hused
  added _ hnew := append_after_of_not_mem h hnew
  history _ hread :=
    ⟨_, Catalog.sortsBy_listing _ _, fun _ hlimit ↦
      Catalog.history_eq_ok (reflects_after h).records hlimit hread⟩

/-- The store that runs statements on the tables of its catalog. -/
def onTables : StoreActions := fun s ↦ ⟨fun c ↦ c.query s⟩

/-- A table of the rows of an endpoint. -/
def tableOf (endpoint : String) : Component :=
  { id := "c", chartType := .table, dataSource := { source := .api endpoint } }

/-- A table of the rows of a query text. -/
def tableOfText (query : String) : Component :=
  { id := "t", chartType := .table, dataSource := { source := .rawQuery query [] }
    isPublic := true }

/-- A run of the report on entries. -/
def entriesRun (id : String) (time : Instant) : RunRecord :=
  { id, templateId := "entries", executedAt := time, executionTimeMs := 0, rowCount := 1
    status := .success, executedBy := "ann" }

/-- A rendering of a query text that may be run. -/
def renderingOf (query : String) : StoreCall :=
  .render (tableOfText query)
    { storage := fun _ ↦ .ok [], rawQuery := { enabled := true, adminOnly := false } } [] "ann"

set_option maxRecDepth 20000 in
/-- A table reads back from its text. -/
theorem ofText_tableOf :
    Component.reader.ofText (tableOf "new").toJson.compact = .ok (tableOf "new") := by
  cbv

/-- A component that replaces another one is found in its place, and nothing under another id, also
when a statement has read the records in between. -/
theorem answers_after_replacing :
    let calls : List StoreCall :=
      [.saveComponent (tableOf "old"), .append (entriesRun "a" ⟨5, 0⟩),
        renderingOf "SELECT COUNT(*) AS n FROM execution_records", .saveComponent (tableOf "new")]
    let counted := (renderingOf "SELECT COUNT(*) AS n FROM execution_records").effect onTables
      (after onTables (calls.take 2)).catalog
    counted.queries.map (·.sql) = ["SELECT COUNT(*) AS n FROM execution_records"] ∧
      Undisturbed onTables calls ∧
      (after onTables calls).catalog.component? "c" = .ok (some (tableOf "new")) ∧
      (after onTables calls).catalog.component? "d" = .ok none := by
  intro calls counted
  have hcount : (renderingOf "SELECT COUNT(*) AS n FROM execution_records").Leaves onTables
      (after onTables (calls.take 2)).catalog := by
    unfold StoreCall.Leaves
    decide +kernel
  have hsilent (v : Component) (c : Catalog) : (StoreCall.saveComponent v).Leaves onTables c :=
    fun _ hs ↦ absurd hs List.not_mem_nil
  have hcalls : Undisturbed onTables calls :=
    undisturbed_concat_iff.mpr ⟨undisturbed_concat_iff.mpr ⟨undisturbed_concat_iff.mpr
      ⟨undisturbed_concat_iff.mpr ⟨undisturbed_nil, hsilent _ _⟩,
        fun _ hs ↦ absurd hs List.not_mem_nil⟩, hcount⟩, hsilent _ _⟩
  have hanswers := answers_after hcalls
  have hnew : lastComponent calls "c" = some (tableOf "new") := by
    simp [calls, lastComponent, StoreCall.component?, tableOf]
  have hnone : lastComponent calls "d" = none := by
    simp [calls, lastComponent, StoreCall.component?, renderingOf, tableOf]
  have hfound := hanswers.component "c"
  have hmissing := hanswers.component "d"
  rw [hnew] at hfound
  rw [hnone] at hmissing
  refine ⟨by decide +kernel, hcalls, hfound fun v hv ↦ ?_,
    hmissing fun v hv ↦ absurd hv (Option.not_mem_none v)⟩
  rw [← Option.mem_some.mp hv]
  exact ofText_tableOf

/-- A query text with a change in it passes for a query, and a rendering of it takes the record of a
run away from the history of its report. -/
theorem not_kept_after_rewriting :
    let kept := after onTables [.append (entriesRun "a" ⟨5, 0⟩)]
    let left := after onTables [.append (entriesRun "a" ⟨5, 0⟩),
      renderingOf "WITH x AS (SELECT 1) UPDATE execution_records SET template_id = 'gone'"]
    ¬ kept.catalog.records <+: left.catalog.records ∧ left.log.map (·.id) = ["a"] ∧
      left.catalog.history "entries" 10 = .ok [] := by
  intro kept left
  have htemplates : left.catalog.records.map (·.templateId) = ["gone"] := by decide +kernel
  have hnone : left.catalog.records.filter (·.templateId == "entries") = [] := by decide +kernel
  refine ⟨fun hprefix ↦ ?_, by decide +kernel, ?_⟩
  · have hids := hprefix.map (·.templateId)
    rw [htemplates] at hids
    exact absurd hids (by decide +kernel)
  · simp only [Catalog.history, Catalog.newestFirst, hnone, List.reverse_nil, List.mergeSort_nil,
      List.take_nil, ite_self]
    rfl

/-- A record under a used id is not added. -/
example :
    (after onTables [.append (entriesRun "a" ⟨5, 0⟩), .append (entriesRun "b" ⟨5, 999999⟩),
        .append (entriesRun "a" ⟨9, 0⟩)]).catalog.records.map (fun r ↦ (r.id, r.time)) =
      [("a", 5000), ("b", 5000)] := by
  decide +kernel

end Ledger

end TabularReport

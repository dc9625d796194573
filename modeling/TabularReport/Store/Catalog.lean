import TabularReport.Component.Document
import TabularReport.History.Document
import TabularReport.Json.Printer
import TabularReport.Store.Error

/-!
# The catalog

Templates, saved queries and components are kept as texts of documents under their ids; records of runs are
only ever added. A document is read when it is looked up, so a text that is no document is an error of the
look-up.
-/

namespace TabularReport

/-- A collection of documents. -/
inductive Collection where
  | templates
  | savedQueries
  | components
deriving DecidableEq, Inhabited

/-- A record of a run with what it is found and sorted by. -/
structure StoredRecord where
  id : String
  templateId : String
  /-- Milliseconds since the start of 1970. -/
  time : Int
  status : String
  document : String
deriving DecidableEq, Inhabited

/-- Make a record ready to be stored. -/
def RunRecord.stored (r : RunRecord) : StoredRecord :=
  ⟨r.id, r.templateId, r.executedAt.millis, r.status.spelling, r.toJson.compact⟩

/-- The catalog. Records stand in the order in which they were added. -/
structure Catalog where
  templates : List (String × String) := []
  savedQueries : List (String × String) := []
  components : List (String × String) := []
  records : List StoredRecord := []
deriving DecidableEq, Inhabited

namespace Catalog

/-- The documents of a collection by their ids. -/
def documents (c : Catalog) : Collection → List (String × String)
  | .templates => c.templates
  | .savedQueries => c.savedQueries
  | .components => c.components

/-- Put the text of a document under an id, replacing what the id held. -/
def put (c : Catalog) (collection : Collection) (id document : String) : Catalog :=
  let replaced (documents : List (String × String)) : List (String × String) :=
    (id, document) :: documents.filter fun d => d.1 ≠ id
  match collection with
  | .templates => { c with templates := replaced c.templates }
  | .savedQueries => { c with savedQueries := replaced c.savedQueries }
  | .components => { c with components := replaced c.components }

/-- Keep a template. -/
def saveTemplate (c : Catalog) (t : ReportTemplate) : Catalog := c.put .templates t.id t.toJson.compact

/-- Keep a saved query. -/
def saveSavedQuery (c : Catalog) (q : SavedQuery) : Catalog := c.put .savedQueries q.id q.toJson.compact

/-- Keep a component. -/
def saveComponent (c : Catalog) (v : Component) : Catalog := c.put .components v.id v.toJson.compact

/-- Look up a document of a collection. -/
def find {α : Type} (c : Catalog) (collection : Collection) (r : Reader α) (id : String) :
    Except StorageError (Option α) :=
  match (c.documents collection).find? (·.1 == id) with
  | none => .ok none
  | some (_, text) =>
    match r.ofText text with
    | .ok a => .ok (some a)
    | .error e => .error (.document e)

/-- Look up a template. -/
def template? (c : Catalog) (id : String) : Except StorageError (Option ReportTemplate) :=
  c.find .templates ReportTemplate.reader id

/-- Look up a saved query; `now` is the time of reading. -/
def savedQuery? (c : Catalog) (now : Instant) (id : String) : Except StorageError (Option SavedQuery) :=
  c.find .savedQueries (SavedQuery.reader now) id

/-- Look up a component. -/
def component? (c : Catalog) (id : String) : Except StorageError (Option Component) :=
  c.find .components Component.reader id

/-- The parameters of a template in the order of their positions; none when there is no such template. -/
def parameters (c : Catalog) (templateId : String) : Except StorageError (List ParameterDefinition) :=
  (c.template? templateId).map fun t => ParameterDefinition.inOrder ((t.map (·.parameters)).getD [])

/-- Add the record of a run; its id must be new. -/
def append (c : Catalog) (r : RunRecord) : Except StorageError Catalog :=
  if c.records.any (·.id == r.id) then .error (.database .repeatedRecord)
  else .ok { c with records := c.records ++ [r.stored] }

/-- The records of a template, newest first; of one millisecond the later added ones come first. -/
def newestFirst (c : Catalog) (templateId : String) : List StoredRecord :=
  (c.records.filter (·.templateId == templateId)).reverse.mergeSort fun a b => b.time ≤ a.time

/-- The newest records of a template, at most `limit` of them. A limit that does not fit 63 bits is none. -/
def history (c : Catalog) (templateId : String) (limit : Nat) : Except StorageError (List RunRecord) :=
  let newest := c.newestFirst templateId
  let shown := if limit < Nat.pow 2 63 then newest.take limit else newest
  shown.mapM fun r => (RunRecord.reader.ofText r.document).mapError .document

end Catalog

end TabularReport

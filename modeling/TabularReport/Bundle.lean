import TabularReport.Store.Catalog
import TabularReport.Validation.Template

/-!
# Bundles

Definitions that are brought into a catalog together. A bundle goes in whole or not at all: one bad template
keeps everything out.
-/

namespace TabularReport

/-- Definitions that are brought in together. -/
structure Bundle where
  templates : List ReportTemplate := []
  components : List Component := []
  savedQueries : List SavedQuery := []
deriving Inhabited

/-- A bad template of a bundle, and the first thing that is wrong with it. -/
structure BundleError where
  templateId : String
  problem : ValidationError
deriving DecidableEq, Inhabited

/-- The text of a bundle error. -/
def BundleError.message (e : BundleError) : String :=
  "Template '" ++ e.templateId ++ "' is invalid: " ++ e.problem.message

namespace Bundle

/-- Read a bundle; `now` is the time of reading. -/
def reader (now : Instant) : Reader Bundle :=
  Reader.record "ImportBundle" <|
    Bundle.mk <$> .defaulted "templates" (Reader.list ReportTemplate.reader) []
      <*> .defaulted "components" (Reader.list Component.reader) []
      <*> .defaulted "savedQueries" (Reader.list (SavedQuery.reader now)) []

/-- The first bad template. -/
def problem? (b : Bundle) : Option BundleError :=
  b.templates.findSome? fun t => t.problems.head?.map fun e => ⟨t.id, e⟩

/-- Keep all definitions of a bundle. -/
def addTo (b : Bundle) (c : Catalog) : Catalog :=
  let c := b.templates.foldl Catalog.saveTemplate c
  let c := b.components.foldl Catalog.saveComponent c
  b.savedQueries.foldl Catalog.saveSavedQuery c

/-- Bring a bundle into a catalog. -/
def bringInto (b : Bundle) (c : Catalog) : Except BundleError Catalog :=
  match b.problem? with
  | some e => .error e
  | none => .ok (b.addTo c)

/-- What is said of a bundle that was brought in. -/
def summary (b : Bundle) : String :=
  "Imported " ++ toString b.templates.length ++ " templates, " ++ toString b.components.length ++
    " components, " ++ toString b.savedQueries.length ++ " saved queries"

end Bundle

end TabularReport

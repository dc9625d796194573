import TabularReport.Store.Catalog

/-!
# Catalogs as documents

The form in which a catalog is kept in a file.
-/

namespace TabularReport

/-- Read the texts of documents by their ids. -/
def Collection.reader : Reader (List (String × String)) :=
  Reader.fields.map fun fields => fields.filterMap fun
    | (id, .string document) => some (id, document)
    | _ => none

/-- Read the time of a record. -/
def StoredRecord.timeReader : Reader Int
  | _, .number (.int i) => .ok i
  | _, s => Reader.mismatch "an integer" s

/-- Read a record with what it is found and sorted by. -/
def StoredRecord.reader : Reader StoredRecord :=
  Reader.record "StoredRecord" <|
    StoredRecord.mk <$> .required "id" Reader.string
      <*> .required "templateId" Reader.string
      <*> .required "time" StoredRecord.timeReader
      <*> .required "status" Reader.string
      <*> .required "document" Reader.string

/-- Read a catalog. -/
def Catalog.reader : Reader Catalog :=
  Reader.record "Catalog" <|
    Catalog.mk <$> .required "templates" Collection.reader
      <*> .required "savedQueries" Collection.reader
      <*> .required "components" Collection.reader
      <*> .required "records" (Reader.list StoredRecord.reader)

/-- Write the texts of documents by their ids. -/
def Collection.toJson (documents : List (String × String)) : Json :=
  .object (documents.map fun (id, document) => (id, .string document))

/-- Write a record with what it is found and sorted by. -/
def StoredRecord.toJson (r : StoredRecord) : Json :=
  .object
    [("id", .string r.id), ("templateId", .string r.templateId), ("time", .number (.int r.time)),
      ("status", .string r.status), ("document", .string r.document)]

/-- Write a catalog. -/
def Catalog.text (c : Catalog) : String :=
  (Json.object
    [("templates", Collection.toJson c.templates), ("savedQueries", Collection.toJson c.savedQueries),
      ("components", Collection.toJson c.components),
      ("records", .array (c.records.map StoredRecord.toJson))]).compact

end TabularReport

import TabularReport.Sql.Evaluation
import TabularReport.Sql.Statement
import TabularReport.Store.Catalog
import TabularReport.Store.Query

/-!
# The tables of a store

A store keeps its catalog in tables, next to the version of their layout, and runs statements on all of them.
A statement may read tables and put new values into their rows; a row that the catalog cannot hold is refused.
Saved queries are kept without the table that statements would see.
-/

namespace TabularReport

/-- The relations of a store that statements may read and change, each under its name. -/
abbrev Database := List (String × Sql.Rows)

namespace Database

/-- The distinct placeholders of a text in the order of their first occurrence; a placeholder without a name
is distinct from all others. -/
def placeholders (ls : List Sql.Lexeme) : List String :=
  ls.foldl (fun names l =>
    match l with
    | .placeholder n => if names.contains ("$" ++ n) then names else names ++ ["$" ++ n]
    | .symbol "?" => names ++ ["?"]
    | _ => names) []

/-- The row of a result as named values; of columns of one name the last one counts. -/
def rowFields (columns : List Sql.ColumnHead) (row : List Sql.Cell) : Fields :=
  Fields.ofList ((columns.zip row).map fun (c, v) => (c.name, v.toJson))

/-- A statement that has been read, and its lexemes. -/
structure Prepared where
  select : Sql.Select
  lexemes : List Sql.Lexeme

namespace Prepared

/-- A bound on the depth of calls that suffices for a statement. -/
def depth (p : Prepared) : Nat := 24 * (p.lexemes.length + 2)

/-- The values of the placeholders of a statement, given in the order of its parameters. -/
def params (p : Prepared) (bound : List Json) : List (String × Sql.Cell) :=
  (placeholders p.lexemes).zip (bound.map Sql.Cell.ofJson)

/-- Give the rows of a table new values. -/
def update (p : Prepared) (d : Database) (s : Sql.Scope) (table : String)
    (assignments : List (String × Sql.Expr)) (condition : Option Sql.Expr) :
    Except Sql.SqlFault Database := do
  let rows ← s.find table
  if assignments.any fun a => Text.sameIgnoringCase a.1 "id" then throw .unreadable
  let updated ← rows.updated p.depth s assignments condition
  return d.map fun (name, old) => (name, if Text.sameIgnoringCase name table then updated else old)

/-- The rows of a statement, and the relations after it. A change has no rows. -/
def result (p : Prepared) (d : Database) (bound : List Json) :
    Except Sql.SqlFault (List Fields × Database) := do
  let scope : Sql.Scope := ⟨d, p.params bound⟩
  match p.select with
  | .mk ctes (.update table assignments condition) _ _ _ =>
    let scope ← Sql.Select.scope p.depth scope ctes
    return ([], ← p.update d scope table assignments condition)
  | select =>
    let rows ← select.result p.depth scope
    return (rows.rows.map (rowFields rows.columns), d)

end Prepared

/-- The error of a fault. -/
def faultError (f : Sql.SqlFault) : StorageError := .database (.statement f.message)

/-- Read the first statement of a text; what follows it does not count. It has to run without values, too. -/
def prepare (d : Database) (sql : String) : Except StorageError Prepared := do
  let some lexemes := (Sql.lexemes? sql).map Sql.firstStatement | throw (faultError .unreadable)
  let some [.query select] := Sql.statementsOf? lexemes | throw (faultError .unreadable)
  let p : Prepared := ⟨select, lexemes⟩
  let _ ← (p.result d []).mapError faultError
  return p

/-- Relations as an engine. Its parameters are numbered by their first occurrences. -/
def engine : SqlEngine Database Prepared where
  prepare := prepare
  parameters p := placeholders p.lexemes
  run d p bound :=
    match p.result d bound with
    | .ok (rows, after) => (.ok rows, after)
    | .error f => (.error (faultError f), d)

/-- Run a statement for its rows. -/
def query (d : Database) (s : BoundStatement) : Except StorageError (List Fields) := (engine.query d s).1

end Database

/-! ### The tables of a catalog -/

/-- The columns of a table; those named in `texts` hold texts. -/
def tableColumns (table : String) (names texts : List String) : List Sql.ColumnHead :=
  names.map fun name => ⟨table, name, texts.contains name⟩

/-- A document with its id as the row of a table. -/
def documentRow (d : String × String) : List Sql.Cell := [.text d.1, .text d.2]

/-- The document of the row of a table. -/
def documentOfRow? : List Sql.Cell → Option (String × String)
  | [.text id, .text document] => some (id, document)
  | _ => none

/-- A record as the row of a table. -/
def StoredRecord.row (r : StoredRecord) : List Sql.Cell :=
  [.text r.id, .text r.templateId, .integer r.time, .text r.status, .text r.document]

/-- The record of the row of a table. -/
def StoredRecord.ofRow? : List Sql.Cell → Option StoredRecord
  | [.text id, .text templateId, .integer time, .text status, .text document] =>
    some ⟨id, templateId, time, status, document⟩
  | _ => none

namespace Catalog

/-- The table that holds the version of the layout. -/
def versionRows : Sql.Rows :=
  ⟨tableColumns "meta" ["key", "value"] ["key", "value"], [[.text "version", .text "1"]]⟩

/-- The table of documents, of which the last one comes first in the catalog. -/
def documentRows (table : String) (documents : List (String × String)) : Sql.Rows :=
  ⟨tableColumns table ["id", "document"] ["id", "document"], documents.reverse.map documentRow⟩

/-- The table of the records. -/
def recordRows (records : List StoredRecord) : Sql.Rows :=
  ⟨tableColumns "execution_records" ["id", "template_id", "executed_at_ms", "status", "document"]
      ["id", "template_id", "status", "document"],
    records.map (·.row)⟩

/-- The tables of a catalog. -/
def tables (c : Catalog) : Database :=
  [("meta", versionRows), ("templates", documentRows "templates" c.templates),
    ("visualization_components", documentRows "visualization_components" c.components),
    ("execution_records", recordRows c.records)]

/-- The catalog with the given tables; nothing when they hold what no catalog can. -/
def withTables? (c : Catalog) : Database → Option Catalog
  | [(_, version), (_, templates), (_, components), (_, records)] => do
    if version ≠ versionRows then none
    let templates ← templates.rows.mapM documentOfRow?
    let components ← components.rows.mapM documentOfRow?
    let records ← records.rows.mapM StoredRecord.ofRow?
    return { c with templates := templates.reverse, components := components.reverse, records }
  | _ => none

/-- Run a statement on the tables of a catalog. -/
def query (c : Catalog) (s : BoundStatement) : Except StorageError (List Fields) × Catalog :=
  match Database.engine.query c.tables s with
  | (.error cause, _) => (.error cause, c)
  | (.ok rows, after) =>
    match c.withTables? after with
    | some c' => (.ok rows, c')
    | none => (.error (Database.faultError .unreadable), c)

end Catalog

/-- The relations of a new store. -/
def Database.fresh : Database := ({} : Catalog).tables

end TabularReport

import TabularReport.CommandLine.Run
import TabularReport.Proofs.Files.Store
import TabularReport.Proofs.Run.Compilation
import TabularReport.Proofs.Store.Ledger
import TabularReport.Proofs.Store.Import

/-!
# Importing a bundle
-/

namespace TabularReport

/-- What an action comes to over a tree of files, and the tree that it leaves. -/
def FileTree.after {α : Type} (t : FileTree) (action : ExceptT CommandError (StateM FileTree) α) :
    Except CommandError α × FileTree :=
  action.run.run t

namespace FileTree

variable {α β : Type} {t t' : FileTree} {x : ExceptT CommandError (StateM FileTree) α}
  {f : α → ExceptT CommandError (StateM FileTree) β}

private theorem after_bind_ok {a : α} (h : t.after x = (.ok a, t')) :
    t.after (x >>= f) = t'.after (f a) := by
  unfold after at h ⊢
  rw [ExceptT.run_bind, StateT.run_bind, h]
  rfl

private theorem after_bind_error {e : CommandError} (h : t.after x = (.error e, t')) :
    t.after (x >>= f) = (.error e, t') := by
  unfold after at h ⊢
  rw [ExceptT.run_bind, StateT.run_bind, h]
  rfl

private theorem after_ofExcept (result : Except CommandError α) :
    t.after (MonadExcept.ofExcept result) = (result, t) := by
  cases result <;> rfl

section

variable {environment : String → Option String} {stamp : RunStamp} {opened : FileTree}
  {path : String} {c : Catalog}

private theorem after_openStore (h : t.openStore path = (opened, .ok c)) :
    t.after (TabularReport.openStore (workspace environment stamp) path) = (.ok c, opened) := by
  change (Except.mapError _ (t.openStore path).2, (t.openStore path).1) = _
  rw [h]
  rfl

/-- The document in a file. -/
def document {α : Type} (t : FileTree) (r : Reader α) (file : String) : Except CommandError α :=
  match t.read file with
  | .error fault => .error (.file file fault)
  | .ok text => (r.ofText text).mapError (.document file)

private theorem after_readDocument (r : Reader α) (file : String) :
    t.after (readDocument (workspace environment stamp) r file) = (t.document r file, t) := by
  unfold document
  cases h : t.read file with
  | error fault =>
    refine after_bind_error ?_
    change (Except.mapError _ (t.read file), t) = _
    rw [h]
    rfl
  | ok text =>
    have hread : t.after (ExceptT.mk (Except.mapError (CommandError.file file) <$>
        (workspace environment stamp).read file)) = (.ok text, t) := by
      change (Except.mapError _ (t.read file), t) = _
      rw [h]
      rfl
    rw [readDocument, after_bind_ok hread, after_ofExcept]

end

end FileTree

variable {i : Invocation} {s : Settings} {file path : String} {t opened : FileTree} {c : Catalog}
  {environment : String → Option String} {stamp : RunStamp}

private theorem Invocation.after_perform_importBundle (hi : i.command = .importBundle file)
    (hpath : t.after (storePath (FileTree.workspace environment stamp) i.db s) = (.ok path, t))
    (hopen : t.openStore path = (opened, .ok c)) :
    t.after (i.perform (FileTree.workspace environment stamp) s) =
      match opened.document (Bundle.reader stamp.now) file with
      | .error e => (.error e, opened)
      | .ok b =>
        match b.problem? with
        | some e => (.error (.bundle e), opened)
        | none => (.ok b.summary, opened.keepStore path (b.addTo c)) := by
  rw [perform, hi]
  dsimp only
  rw [FileTree.after_bind_ok hpath, FileTree.after_bind_ok (FileTree.after_openStore hopen)]
  have hstamp : opened.after (FileTree.workspace environment stamp).stamp = (.ok stamp, opened) :=
    rfl
  rw [FileTree.after_bind_ok hstamp]
  have hread : opened.after (readDocument (FileTree.workspace environment stamp)
      (Bundle.reader stamp.now) file) = _ := FileTree.after_readDocument _ _
  cases hdocument : opened.document (Bundle.reader stamp.now) file with
  | error e =>
    rw [hdocument] at hread
    exact FileTree.after_bind_error hread
  | ok b =>
    rw [hdocument] at hread
    rw [FileTree.after_bind_ok hread, Bundle.bringInto]
    dsimp only
    cases b.problem? with
    | some e => exact FileTree.after_bind_error (FileTree.after_ofExcept _)
    | none =>
      exact FileTree.after_bind_ok (a := b.addTo c) (FileTree.after_ofExcept _)

/-- How an import into an open store ends, and the files that it leaves: it brings in all of a
bundle or nothing. -/
structure IsImport (now : Instant) (file path : String) (opened : FileTree) (c : Catalog)
    (result : Except CommandError String) (left : FileTree) : Prop where
  /-- The store that an import leaves alone holds what it held. -/
  unchanged : opened.openStore path = (opened, .ok c)
  unread : ∀ e, opened.document (Bundle.reader now) file = .error e →
    result = .error e ∧ left = opened
  /-- The first bad template of a bundle keeps all of it out. -/
  refused : ∀ b before bad rest p more, opened.document (Bundle.reader now) file = .ok b →
    b.templates = before ++ bad :: rest → (∀ u ∈ before, u.problems = []) →
    bad.problems = p :: more →
    left = opened ∧ ∃ e, result = .error e ∧
      e.message = "Template '" ++ bad.id ++ "' is invalid: " ++ p.message
  accepted : ∀ b, opened.document (Bundle.reader now) file = .ok b →
    (∀ u ∈ b.templates, u.problems = []) →
    ∃ after, result = .ok b.summary ∧ left = opened.keepStore path after ∧
      b.BroughtInto c after ∧
      (FileTree.isUnkept path = false → left.openStore path = (left, .ok after))

/-- An import brings in all of a bundle or nothing. -/
theorem Invocation.isImport_perform (hi : i.command = .importBundle file)
    (hpath : t.after (storePath (FileTree.workspace environment stamp) i.db s) = (.ok path, t))
    (hopen : t.openStore path = (opened, .ok c)) :
    IsImport stamp.now file path opened c
      (t.after (i.perform (FileTree.workspace environment stamp) s)).1
      (t.after (i.perform (FileTree.workspace environment stamp) s)).2 := by
  rw [after_perform_importBundle hi hpath hopen]
  refine ⟨FileTree.openStore_again hopen, fun e hb ↦ ?_, ?_, fun b hb hgood ↦ ?_⟩
  · rw [hb]
    exact ⟨rfl, rfl⟩
  · intro b before bad rest p more hb hsplit hbefore hbad
    rw [hb]
    dsimp only
    rw [Bundle.problem?_of_first hsplit hbefore hbad]
    exact ⟨rfl, _, rfl, rfl⟩
  · rw [hb]
    dsimp only
    rw [Bundle.problem?_eq_none hgood]
    exact ⟨b.addTo c, rfl, rfl, b.broughtInto_addTo c, fun hkept ↦
      FileTree.openStore_keepStore hkept hopen _⟩

/-- The catalog of two tables. -/
def tables : Catalog :=
  { components :=
      [("c", (Ledger.tableOf "old").toJson.compact),
        ("d", (Ledger.tableOf "kept").toJson.compact)] }

/-- A folder of a text and of a store of two tables. -/
def folder (text : String) : FileTree where
  entries := [(["b"], .text text), (["s"], .store tables)]

private theorem splitOn_folder : "b".splitOn "/" = ["b"] ∧ "s".splitOn "/" = ["s"] := by
  constructor <;>
  · rw [String.splitOn, if_neg (by decide), String.splitOnAux, if_neg (by decide +kernel),
      if_neg (by decide +kernel), String.splitOnAux, if_pos (by decide +kernel)]
    decide +kernel

private theorem pathNames_folder : pathNames "b" = ["b"] ∧ pathNames "s" = ["s"] := by
  rw [pathNames, pathNames, splitOn_folder.1, splitOn_folder.2]
  decide +kernel

private theorem openStore_folder (text : String) :
    (folder text).openStore "s" = (folder text, .ok tables) := by
  have hplace : FileTree.storePlace "s" = ["s"] := by
    rw [FileTree.storePlace, pathNames_folder.2]
    rfl
  refine FileTree.Stores.openStore ⟨by decide, ?_, ?_⟩
  · rw [pathNames_folder.2]
    trivial
  · rw [hplace]
    rfl

private theorem read_folder (text : String) : (folder text).read "b" = .ok text := by
  have hfollow : (folder text).follow [] (pathNames "b") = .ok (.text text) := by
    rw [pathNames_folder.1]
    rfl
  rw [FileTree.read, FileTree.lookUp, if_neg (by decide), hfollow, namesDirectory, splitOn_folder.1]
  rfl

/-- A bundle of some reports and of a table. -/
def tableBundle (templates : List ReportTemplate) : Bundle :=
  { templates, components := [Ledger.tableOf "new"] }

/-- What is written for the bundle. -/
def tableDocument (templates : List ReportTemplate) : Json :=
  .object
    [("templates", .array (templates.map (·.toJson))),
      ("components", .array [(Ledger.tableOf "new").toJson])]

/-- A report without sources and columns. -/
def emptyReport : ReportTemplate :=
  { id := "bare", name := "Bare", dataSources := [], config := { columns := [] } }

/-- A folder with the text of the bundle, and with a store of two tables. -/
def tableFolder (templates : List ReportTemplate) : FileTree :=
  folder (tableDocument templates).compact

private theorem document_tableFolder {templates : List ReportTemplate} {now : Instant}
    (hnumbers : (tableDocument templates).numbers = [])
    (hdepth : (tableDocument templates).source.depth ≤ Source.maxDepth)
    (hread : Bundle.reader now .text (tableDocument templates).source =
      .ok (tableBundle templates)) :
    (tableFolder templates).document (Bundle.reader now) "b" = .ok (tableBundle templates) := by
  have hback : (tableDocument templates).ReadsBack := by
    rw [Json.ReadsBack, hnumbers]
    exact List.forall_mem_nil _
  have htext := ((Bundle.reader now).ofText_compact hback.isReadable).1
  rw [Json.reread_eq _ hback, hread] at htext
  rw [FileTree.document, tableFolder, read_folder]
  dsimp only
  rw [htext hdepth]
  rfl

/-- The import of the text of the folder into its store. -/
def folderImport : Invocation := { db := some "s", command := .importBundle "b" }

/-- A bundle of a table replaces the old table and keeps the other one. With a report that has no
sources it is refused, and both tables stay. -/
theorem isImport_perform_tableFolder :
    let stamp : RunStamp := { id := "r", now := ⟨0, 0⟩ }
    let run (templates : List ReportTemplate) := (tableFolder templates).after
      (folderImport.perform (FileTree.workspace (fun _ ↦ none) stamp) {})
    (∃ left after, run [] = (.ok (tableBundle []).summary, left) ∧
      left.openStore "s" = (left, .ok after) ∧
      after.component? "c" = .ok (some (Ledger.tableOf "new")) ∧
      after.text? .components "d" = some (Ledger.tableOf "kept").toJson.compact) ∧
    ∃ e, run [emptyReport] = (.error e, tableFolder [emptyReport]) ∧
      e.message = "Template 'bare' is invalid: Template 'bare' declares no data sources" ∧
      (tableFolder [emptyReport]).openStore "s" = (tableFolder [emptyReport], .ok tables) := by
  intro stamp run
  have himport (templates : List ReportTemplate) :
      IsImport stamp.now "b" "s" (tableFolder templates) tables (run templates).1
        (run templates).2 :=
    Invocation.isImport_perform rfl rfl (openStore_folder _)
  clear_value run
  have hkept : FileTree.isUnkept "s" = false := by decide
  have hproblems : emptyReport.problems = [.noDataSource "bare", .emptyColumns "bare"] := by cbv
  constructor
  · obtain ⟨after, hresult, -, hinto, hopened⟩ :=
      (himport []).accepted _ (document_tableFolder rfl (by decide +kernel) rfl)
        (List.forall_mem_nil _)
    refine ⟨(run []).2, after, Prod.ext hresult rfl, hopened hkept, ?_, ?_⟩
    · have hlast : IsLast (·.id) (tableBundle []).components (Ledger.tableOf "new") :=
        ⟨[], [], rfl, List.forall_mem_nil _⟩
      exact (hinto.component _ hlast).mpr Ledger.ofText_tableOf
    · rw [hinto.texts]
      rfl
  · obtain ⟨hleft, e, hresult, hmessage⟩ :=
      (himport [emptyReport]).refused (tableBundle [emptyReport]) [] _ [] _ _
        (document_tableFolder rfl (by decide +kernel) rfl) rfl (List.forall_mem_nil _) hproblems
    exact ⟨e, Prod.ext hresult hleft, hmessage, (himport _).unchanged⟩

/-- Tiny doses of a bundle are brought in, and then found with another amount. -/
theorem bringInto_tinyDoses :
    let b : Bundle := { templates := [dosesReport tinyAmount] }
    ∃ after, b.bringInto {} = .ok after ∧ IsLast (·.id) b.templates (dosesReport tinyAmount) ∧
      after.template? "doses" = .ok (some (dosesReport roundedAmount)) ∧
      (dosesReport roundedAmount).toJson.compact ≠ (dosesReport tinyAmount).toJson.compact := by
  intro b
  have hgood : ∀ t ∈ b.templates, t.problems = [] := by
    have hproblems : (dosesReport tinyAmount).problems = [] := by decide +kernel
    simpa [b] using hproblems
  refine ⟨catalogOf (dosesReport tinyAmount), ?_, ⟨[], [], rfl, List.forall_mem_nil _⟩,
    template?_catalogOf ofText_tinyDoses, by decide +kernel⟩
  rw [Bundle.bringInto, Bundle.problem?_eq_none hgood]
  rfl

end TabularReport

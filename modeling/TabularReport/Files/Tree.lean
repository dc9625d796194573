import TabularReport.Store.Catalog

/-!
# Trees of files

A tree of files is a value: it holds texts, stores and directories at places. A path is followed name by
name from the working directory, as an operating system does it; a name that leads through something that
is no directory is a fault.
-/

namespace TabularReport

/-- A place: the names that lead to it from the working directory. A place that starts with the names of the
root or of the directory above lies outside. -/
abbrev Place := List String

/-- What a place holds. -/
inductive FileEntry where
  | text (content : String)
  | store (catalog : Catalog)
  | directory
deriving DecidableEq, Inhabited

/-- Files and directories at their places; the directories above an entry are there without an entry. -/
structure FileTree where
  entries : List (Place × FileEntry) := []
deriving Inhabited

namespace Place

/-- Whether the place is the working directory or a directory around it. -/
def isOuter (p : Place) : Bool := p.all fun name => name == "/" || name == ".."

/-- The place that a name leads to. -/
def child (p : Place) (name : String) : Place :=
  if name ≠ ".." then p ++ [name]
  else if p.getLast? = some "/" then p
  else if p.isOuter then p ++ [".."]
  else p.dropLast

end Place

/-- The names of a path: empty names and single points say nothing, and a slash in front names the root. -/
def pathNames (path : String) : List String :=
  let names := (path.splitOn "/").filter fun name => name ≠ "" && name ≠ "."
  if path.toList.head? = some '/' then "/" :: names else names

/-- Whether a path can only mean a directory. -/
def namesDirectory (path : String) : Bool :=
  match (path.splitOn "/").getLast? with
  | some last => last == "" || last == "."
  | none => false

/-- The most bytes that one name may take. -/
def longestName : Nat := 255

namespace FileTree

/-- What a place holds. -/
def get? (t : FileTree) (p : Place) : Option FileEntry :=
  match t.entries.find? (·.1 == p) with
  | some (_, entry) => some entry
  | none => if p.isOuter || t.entries.any (p.isPrefixOf ·.1) then some .directory else none

/-- Put an entry at a place, replacing what the place held. -/
def put (t : FileTree) (p : Place) (entry : FileEntry) : FileTree :=
  ⟨(p, entry) :: t.entries.filter (·.1 ≠ p)⟩

/-- Follow names from a directory to what they lead to. -/
def follow (t : FileTree) (p : Place) : List String → Except FileFault FileEntry
  | [] => .ok .directory
  | name :: rest =>
    let q := p.child name
    if longestName < name.utf8ByteSize then .error .nameTooLong
    else
      match t.get? q with
      | none => .error .notFound
      | some .directory => t.follow q rest
      | some entry => if rest.isEmpty then .ok entry else .error .notDirectory

/-- What a path leads to. -/
def lookUp (t : FileTree) (path : String) : Except FileFault FileEntry :=
  if path.isEmpty then .error .notFound
  else
    match t.follow [] (pathNames path) with
    | .ok .directory => .ok .directory
    | .ok entry => if namesDirectory path then .error .notDirectory else .ok entry
    | .error fault => .error fault

/-- Read a text. -/
def read (t : FileTree) (path : String) : Except FileFault String :=
  match t.lookUp path with
  | .ok (.text content) => .ok content
  | .ok (.store _) => .error .notText
  | .ok .directory => .error .isDirectory
  | .error fault => .error fault

/-- Make the directories that names lead through, as far as they are missing. -/
def makeDirectories (t : FileTree) (p : Place) : List String → Except FileFault FileTree
  | [] => .ok t
  | name :: rest =>
    let q := p.child name
    if longestName < name.utf8ByteSize then .error .nameTooLong
    else
      match t.get? q with
      | none => (t.put q .directory).makeDirectories q rest
      | some .directory => t.makeDirectories q rest
      | some _ => .error (if rest.isEmpty then .present else .notDirectory)

/-- Paths of stores that are kept in memory only. -/
def isUnkept (path : String) : Bool := path == "" || path == ":memory:"

/-- The place of a store. Two points take back the name before them, whatever it names. -/
def storePlace (path : String) : Place := (pathNames path).foldl Place.child []

/-- Open a store, making it and the directories above it when they are missing. -/
def openStore (t : FileTree) (path : String) : FileTree × Except StorageError Catalog :=
  if isUnkept path then (t, .ok {})
  else
    match t.makeDirectories [] (pathNames path).dropLast with
    | .error fault => (t, .error (.file fault))
    | .ok t =>
      let place := storePlace path
      match t.get? place with
      | some (.store catalog) => (t, .ok catalog)
      | some (.text content) =>
        if content.isEmpty then (t.put place (.store {}), .ok {})
        else (t, .error (.database .notAStore))
      | some .directory => (t, .error (.database (.cannotOpen path)))
      | none => (t.put place (.store {}), .ok {})

/-- Keep what a store holds. -/
def keepStore (t : FileTree) (path : String) (catalog : Catalog) : FileTree :=
  if isUnkept path then t else t.put (storePlace path) (.store catalog)

end FileTree

end TabularReport

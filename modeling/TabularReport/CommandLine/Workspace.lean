import TabularReport.Files.Tree

/-!
# Workspaces

What commands need of their surroundings: environment variables, files, stores, and a stamp for the record of
a run. A tree of files is a workspace without a disk.
-/

namespace TabularReport

/-- What the record of a run is stamped with. -/
structure RunStamp where
  id : String
  now : Instant
  elapsedMs : Nat := 0
deriving DecidableEq, Inhabited

/-- The surroundings of a command. -/
structure Workspace (m : Type → Type) where
  /-- The value of an environment variable. -/
  environment : String → m (Option String)
  /-- Whether there is a file or a directory at a path. -/
  isPresent : String → m Bool
  /-- Read a text. -/
  read : String → m (Except FileFault String)
  /-- Open a store, making it when it is missing. -/
  openStore : String → m (Except StorageError Catalog)
  /-- Keep what a store holds. -/
  keepStore : String → Catalog → m Unit
  stamp : m RunStamp

/-- A tree of files as a workspace, with the environment and the stamp that commands are to find. -/
def FileTree.workspace (environment : String → Option String) (stamp : RunStamp) :
    Workspace (StateM FileTree) where
  environment name := pure (environment name)
  isPresent path := do return ((← get).lookUp path).toOption.isSome
  read path := do return (← get).read path
  openStore path := modifyGet fun t => let (t, opened) := t.openStore path; (opened, t)
  keepStore path catalog := modify (·.keepStore path catalog)
  stamp := pure stamp

end TabularReport

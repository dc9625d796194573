import Std.Time.DateTime.Timestamp
import TabularReport.CommandLine.Reply
import TabularReport.Store.Document

/-!
# The command line

The workspace of the command line is the working directory with the variables of the process. A store is a
file that holds a catalog.
-/

namespace TabularReport

/-- The fault behind an error of the operating system. -/
def faultOf : IO.Error → FileFault
  | .noFileOrDirectory .. => .notFound
  | .alreadyExists .. => .present
  | .inappropriateType _ code _ => if code = 20 then .notDirectory else .isDirectory
  | e => .other (toString e)

/-- The directory part of a path; empty for a path without one. -/
def directoryOf (path : String) : String :=
  "/".intercalate ((path.splitOn "/").dropLast)

/-- Read the text of a file. -/
def readText (path : String) : IO (Except FileFault String) := do
  try
    let bytes ← IO.FS.readBinFile path
    match String.fromUTF8? bytes with
    | some text => return .ok text
    | none => return .error .notText
  catch e =>
    return .error (faultOf e)

/-- Write the catalog of a store. -/
def writeStore (path : String) (catalog : Catalog) : IO Unit := do
  if !FileTree.isUnkept path then IO.FS.writeFile path catalog.text

/-- Open the store at a path. -/
def openStoreFile (path : String) : IO (Except StorageError Catalog) := do
  if FileTree.isUnkept path then return .ok {}
  let directory := directoryOf path
  try
    if directory ≠ "" then IO.FS.createDirAll directory
  catch e =>
    return .error (.file (faultOf e))
  match ← readText path with
  | .ok "" | .error .notFound =>
    try
      writeStore path {}
      return .ok {}
    catch _ =>
      return .error (.database (.cannotOpen path))
  | .ok text => return (Catalog.reader.ofText text).mapError fun _ => .database .notAStore
  | .error .notText => return .error (.database .notAStore)
  | .error _ => return .error (.database (.cannotOpen path))

/-- A new random id: thirty-two hexadecimal digits in five groups. -/
def randomId : IO String := do
  let bytes ← IO.getRandomBytes 16
  let digits := bytes.toList.flatMap fun b => [Text.hexDigit (b.toNat / 16), Text.hexDigit (b.toNat % 16)]
  let group (start length : Nat) : String := String.ofList ((digits.drop start).take length)
  return "-".intercalate [group 0 8, group 8 4, group 12 4, group 16 4, group 20 12]

/-- The present time. -/
def presentTime : IO Instant := do
  let nanos := (← Std.Time.Timestamp.now).toNanosecondsSinceUnixEpoch.val
  return ⟨nanos / 1000000000, (nanos % 1000000000).toNat⟩

/-- The working directory as a workspace. -/
def workingDirectory : Workspace IO where
  environment name := IO.getEnv name
  isPresent path := (System.mkFilePath [path]).pathExists
  read := readText
  openStore := openStoreFile
  keepStore := writeStore
  stamp := do return ⟨← randomId, ← presentTime, 0⟩

end TabularReport

/-- Answer a call. -/
def main (arguments : List String) : IO UInt32 := do
  let r ← TabularReport.reply TabularReport.workingDirectory arguments
  (← IO.getStdout).putStr r.output
  (← IO.getStderr).putStr r.problem
  return r.status.toUInt32

/-!
# Faults of files

Why a file cannot be read or a directory cannot be made. Messages end in the number that the operating
system gives the fault.
-/

namespace TabularReport

/-- Why a file cannot be read or a directory cannot be made. -/
inductive FileFault where
  | notFound
  | present
  | notDirectory
  | isDirectory
  | nameTooLong
  | notText
  | other (text : String)
deriving DecidableEq, Inhabited

/-- The text of a fault. -/
def FileFault.message : FileFault → String
  | .notFound => "No such file or directory (os error 2)"
  | .present => "File exists (os error 17)"
  | .notDirectory => "Not a directory (os error 20)"
  | .isDirectory => "Is a directory (os error 21)"
  | .nameTooLong => "File name too long (os error 36)"
  | .notText => "stream did not contain valid UTF-8"
  | .other text => text

end TabularReport

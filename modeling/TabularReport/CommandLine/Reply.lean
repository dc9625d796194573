import TabularReport.CommandLine.Run

/-!
# Replies

What a call prints, and the status that it ends with: nothing wrong is zero, a command that fails is one, and
arguments that make no sense are two.
-/

namespace TabularReport

/-- What a call prints, and the status it ends with. -/
structure Reply where
  status : Nat
  output : String := ""
  problem : String := ""
deriving DecidableEq, Inhabited

/-- The name and the version of the program. -/
def versionText : String := "reportkit 0.1.0"

/-- How the commands are called. -/
def usageText : String := "\n".intercalate
  ["Usage: reportkit [OPTIONS] <COMMAND>", "", "Commands:",
    "  compile <FILE> [-p <PARAMS>] [--page <PAGE>] [--page-size <PAGE_SIZE>]",
    "  validate <FILE> [-p <PARAMS>]", "  import <FILE>",
    "  run <REPORT> -u <USER> [-p <PARAMS>] [--saved-query <ID>] [--page <PAGE>] [--page-size <PAGE_SIZE>]",
    "  render <COMPONENT> -u <USER> [-p <PARAMS>]", "  history <REPORT> [-l <LIMIT>]", "", "Options:",
    "  --config <CONFIG>", "  --db <DB>", "  -h, --help", "  -V, --version"]

/-- Answer a call that is no command. -/
def Detour.reply : Detour → Reply
  | .help => ⟨0, usageText ++ "\n", ""⟩
  | .version => ⟨0, versionText ++ "\n", ""⟩
  | .misuse => ⟨2, "", usageText ++ "\n"⟩

/-- Answer a call with certain arguments. -/
def reply {m : Type → Type} [Monad m] (w : Workspace m) (arguments : List String) : m Reply := do
  match Invocation.ofArguments arguments with
  | .error detour => return detour.reply
  | .ok i =>
    match ← i.carryOut w with
    | .ok text => return ⟨0, text ++ "\n", ""⟩
    | .error e => return ⟨1, "", e.message ++ "\n"⟩

end TabularReport

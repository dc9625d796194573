import TabularReport.Statement.Assembly

/-!
# Invocations

What the arguments of a call ask for. Options stand before or after the name of the command; those that
every command knows may stand in both places, and then the one after the name counts. At each of the two
places an option is given at most once.
-/

namespace TabularReport

/-- The options. -/
inductive OptionName where
  | config
  | db
  | params
  | page
  | pageSize
  | user
  | savedQuery
  | limit
deriving DecidableEq, Inhabited

namespace OptionName

/-- The long name of an option. -/
def long : OptionName → String
  | .config => "config"
  | .db => "db"
  | .params => "params"
  | .page => "page"
  | .pageSize => "page-size"
  | .user => "user"
  | .savedQuery => "saved-query"
  | .limit => "limit"

/-- The letter of an option. -/
def letter? : OptionName → Option Char
  | .params => some 'p'
  | .user => some 'u'
  | .limit => some 'l'
  | _ => none

/-- Whether a text may be the value of an option: a path has characters, and a count is one. -/
def admits (n : OptionName) (value : String) : Bool :=
  match n with
  | .config | .db => !value.isEmpty
  | .page | .pageSize | .limit => (Text.count? value).isSome
  | .params | .user | .savedQuery => true

end OptionName

/-- The names of the commands. -/
inductive CommandName where
  | compile
  | validate
  | importBundle
  | run
  | render
  | history
deriving DecidableEq, Inhabited

namespace CommandName

/-- The commands. -/
def all : List CommandName := [.compile, .validate, .importBundle, .run, .render, .history]

/-- The word for a command. -/
def word : CommandName → String
  | .compile => "compile"
  | .validate => "validate"
  | .importBundle => "import"
  | .run => "run"
  | .render => "render"
  | .history => "history"

/-- The command of a word. -/
def ofWord? (s : String) : Option CommandName := all.find? (·.word == s)

/-- The options that a command knows besides those of every command. -/
def options : CommandName → List OptionName
  | .compile => [.params, .page, .pageSize]
  | .validate => [.params]
  | .importBundle => []
  | .run => [.user, .params, .savedQuery, .page, .pageSize]
  | .render => [.user, .params]
  | .history => [.limit]

/-- Whether the subject of a command is a file, whose path cannot be empty. -/
def readsFile : CommandName → Bool
  | .compile | .validate | .importBundle => true
  | .run | .render | .history => false

end CommandName

/-- The options that every command knows. -/
def sharedOptions : List OptionName := [.config, .db]

/-- What a command is to do. -/
inductive Command where
  | compile (file : String) (params : Option String) (page : Option PageRequest)
  | validate (file : String) (params : Option String)
  | importBundle (file : String)
  | run (report user : String) (params savedQuery : Option String) (page : Option PageRequest)
  | render (component user : String) (params : Option String)
  | history (report : String) (limit : Nat)
deriving DecidableEq, Inhabited

/-- A call: a command, the settings file and the store to use. -/
structure Invocation where
  config : Option String := none
  db : Option String := none
  command : Command
deriving DecidableEq, Inhabited

/-- What the arguments ask for instead of a command, or that they make no sense. -/
inductive Detour where
  | help
  | version
  | misuse
deriving DecidableEq, Inhabited

/-- What one argument says where certain options are known. -/
inductive Argument where
  | subject (s : String)
  | option (name : OptionName) (value : Option String)
  | endOfOptions
  | detour (d : Detour)
deriving DecidableEq

namespace Argument

/-- Whether an argument looks like an option. A single dash does not. -/
def isDashed (s : String) : Bool := s.toList.head? = some '-' && s ≠ "-"

/-- The part of an argument before its first equality sign, and the part after it if there is one. -/
def splitValue (cs : List Char) : String × Option String :=
  (String.ofList (cs.takeWhile (· ≠ '=')),
    match cs.dropWhile (· ≠ '=') with
    | [] => none
    | _ :: value => some (String.ofList value))

/-- An argument that starts with two dashes. -/
def ofLong (known : List OptionName) (versioned : Bool) (cs : List Char) : Argument :=
  let (name, value) := splitValue cs
  match known.find? (·.long == name), value with
  | some n, value => .option n value
  | none, some _ => .detour .misuse
  | none, none =>
    if name = "help" then .detour .help
    else if versioned && name = "version" then .detour .version
    else .detour .misuse

/-- An argument of one dash and letters; a value may follow the letter of an option directly or after an
equality sign. -/
def ofLetters (known : List OptionName) (versioned : Bool) (c : Char) (rest : List Char) : Argument :=
  match known.find? (·.letter? == some c) with
  | some n =>
    .option n <|
      match rest with
      | [] => none
      | '=' :: value => some (String.ofList value)
      | value => some (String.ofList value)
  | none =>
    if c = 'h' then .detour .help
    else if versioned && c = 'V' then .detour .version
    else .detour .misuse

/-- Read an argument. The version is told only before the name of a command. -/
def of (known : List OptionName) (versioned : Bool) (s : String) : Argument :=
  match s.toList with
  | ['-', '-'] => .endOfOptions
  | '-' :: '-' :: name => ofLong known versioned name
  | '-' :: c :: rest => ofLetters known versioned c rest
  | _ => .subject s

end Argument

/-- The options given at one place. -/
abbrev Given := List (OptionName × String)

namespace Given

/-- The value given for an option. -/
def get? (g : Given) (n : OptionName) : Option String := (g.find? (·.1 == n)).map (·.2)

/-- The count given for an option. -/
def count? (g : Given) (n : OptionName) : Option Nat := (g.get? n).bind Text.count?

/-- Add an option, which must be new and have a value that it admits. -/
def add (g : Given) (n : OptionName) (value : String) : Except Detour Given :=
  if (g.get? n).isSome || !n.admits value then .error .misuse else .ok (g ++ [(n, value)])

/-- The page that is asked for: with a size alone it is the first one. -/
def page? (g : Given) : Option PageRequest :=
  match g.count? .page, g.count? .pageSize with
  | none, none => none
  | page, pageSize => some ⟨page.getD 1, pageSize⟩

end Given

/-- The options and the subject given after the name of a command. -/
structure Details where
  given : Given := []
  subject : Option String := none

namespace Details

/-- Add the subject, which is the only one; the path of a file has characters. -/
def addSubject (d : Details) (name : CommandName) (s : String) : Except Detour Details :=
  if d.subject.isSome || (name.readsFile && s.isEmpty) then .error .misuse
  else .ok { d with subject := some s }

/-- Add an option. -/
def addOption (d : Details) (n : OptionName) (value : String) : Except Detour Details :=
  (d.given.add n value).map fun given => { d with given }

/-- Read the arguments after the name of a command. -/
def read (name : CommandName) (d : Details) : List String → Except Detour Details
  | [] => .ok d
  | s :: rest =>
    match Argument.of (name.options ++ sharedOptions) false s with
    | .subject s => (d.addSubject name s).bind fun d => read name d rest
    | .endOfOptions => rest.foldlM (·.addSubject name) d
    | .detour e => .error e
    | .option n (some value) => (d.addOption n value).bind fun d => read name d rest
    | .option n none =>
      match rest with
      | [] => .error .misuse
      | value :: rest =>
        if Argument.isDashed value then .error .misuse
        else (d.addOption n value).bind fun d => read name d rest

end Details

/-- Read the arguments up to and with the name of the command. -/
def readCommandName (given : Given) : List String → Except Detour (Given × CommandName × List String)
  | [] => .error .misuse
  | s :: rest =>
    match Argument.of sharedOptions true s with
    | .subject s =>
      match CommandName.ofWord? s with
      | some name => .ok (given, name, rest)
      | none => .error (if s = "help" then .help else .misuse)
    | .endOfOptions => .error .misuse
    | .detour e => .error e
    | .option n (some value) => (given.add n value).bind fun given => readCommandName given rest
    | .option n none =>
      match rest with
      | [] => .error .misuse
      | value :: rest =>
        if Argument.isDashed value then .error .misuse
        else (given.add n value).bind fun given => readCommandName given rest

/-- The command of a name with its only subject. -/
def CommandName.command? (name : CommandName) (subject : String) (g : Given) : Option Command :=
  match name with
  | .compile => some (.compile subject (g.get? .params) g.page?)
  | .validate => some (.validate subject (g.get? .params))
  | .importBundle => some (.importBundle subject)
  | .run => (g.get? .user).map fun user =>
      .run subject user (g.get? .params) (g.get? .savedQuery) g.page?
  | .render => (g.get? .user).map fun user => .render subject user (g.get? .params)
  | .history => some (.history subject ((g.count? .limit).getD 20))

/-- Read the arguments of a call. -/
def Invocation.ofArguments (arguments : List String) : Except Detour Invocation := do
  let (outer, name, rest) ← readCommandName [] arguments
  let details ← Details.read name {} rest
  match details.subject.bind fun subject => name.command? subject details.given with
  | some command =>
    return ⟨(details.given.get? .config).or (outer.get? .config),
      (details.given.get? .db).or (outer.get? .db), command⟩
  | none => throw .misuse

end TabularReport

import CredentialReach.CommandLine.Basic
import CredentialReach.Text.Search

/-! Reading commands from the words of a command line. The value of an option
is checked when the next word shows that it is complete, so of two faults in a
line the one that shows first is reported. -/

namespace CredentialReach.CommandLine

/-- Why words make no command. Asking for help or for the version is one reason. -/
inductive UsageFault where
  | help
  | version
  | nothing
  | missingCommand
  | unknownCommand
  | unknownArgument
  | missingArgument
  | invalidValue
  | needlessValue
  | repeated
deriving DecidableEq, Repr

namespace UsageFault

def status : UsageFault → Nat
  | help | version => 0
  | _ => 2

end UsageFault

/-! Words. -/

/-- What a word looks like. -/
inductive Word where
  /-- `--`: no options follow. -/
  | divider
  /-- `--name` or `--name=value`. -/
  | long (name : List Char) (value : Option (List Char))
  | letters (letters : List Char)
  | plain
deriving DecidableEq, Repr

def Word.ofText (text : String) : Word :=
  match text.toList with
  | ['-', '-'] => divider
  | '-' :: '-' :: name =>
    match Text.cutAt? ['='] name with
    | some (name, value) => long name (some value)
    | none => long name none
  | '-' :: c :: rest => letters (c :: rest)
  | _ => plain

inductive Parameter where
  | vendor
  | token
  | settings
  | snapshot
  | connection
  | format
deriving DecidableEq, Repr

namespace Parameter

def name : Parameter → String
  | vendor => "vendor"
  | token => "token"
  | settings => "config"
  | snapshot => "snapshot"
  | connection => "dsn"
  | format => "format"

def letter? : Parameter → Option Char
  | settings => some 'c'
  | format => some 'f'
  | _ => none

/-- Paths are not empty; vendors and formats have their names. -/
def admits (parameter : Parameter) (value : String) : Bool :=
  match parameter with
  | vendor => (TokenVendor.ofName? value).isSome
  | format => (Report.Format.ofName? value).isSome
  | settings | snapshot => !value.isEmpty
  | token | connection => true

end Parameter

/-- What the name or the letter of an option means. -/
inductive Switch where
  | verbose
  | help
  | version
  | parameter (parameter : Parameter)
deriving DecidableEq, Repr

/-- What may be given at one place of a command line. -/
structure Scope where
  hasVersion : Bool := false
  /-- What a word that is no option stands for. -/
  positional : Option Parameter := none
  options : List Parameter := []

namespace Scope

def letter? (scope : Scope) (letter : Char) : Option Switch :=
  if letter = 'v' then some .verbose
  else if letter = 'h' then some .help
  else if letter = 'V' && scope.hasVersion then some .version
  else (scope.options.find? (·.letter? == some letter)).map .parameter

def long? (scope : Scope) (name : List Char) : Option Switch :=
  let name := String.ofList name
  if name = "verbose" then some .verbose
  else if name = "help" then some .help
  else if name = "version" && scope.hasVersion then some .version
  else (scope.options.find? (·.name == name)).map .parameter

def outer : Scope := { hasVersion := true }

def ofToken : Scope := { positional := some .vendor, options := [.token, .settings, .format] }

def ofGrants : Scope := { positional := some .snapshot, options := [.connection, .format] }

end Scope

/-! Reading words. -/

/-- What the words so far have given. -/
structure Given where
  verbosity : Nat := 0
  values : List (Parameter × String) := []
  /-- A parameter whose value is still missing or not checked yet. -/
  pending : Option (Parameter × Option String) := none
deriving DecidableEq, Repr

namespace Given

def value? (given : Given) (parameter : Parameter) : Option String :=
  (given.values.find? (·.1 == parameter)).map (·.2)

def mentions (given : Given) (parameter : Parameter) : Bool :=
  (given.value? parameter).isSome || given.pending.any (·.1 == parameter)

def settle (given : Given) : Except UsageFault Given :=
  match given.pending with
  | none => .ok given
  | some (_, none) => .error .invalidValue
  | some (parameter, some value) =>
    if (given.value? parameter).isSome then .error .repeated
    else if parameter.admits value then
      .ok { given with values := given.values ++ [(parameter, value)], pending := none }
    else .error .invalidValue

/-- Leaves the value of a parameter to be checked later. -/
def expect (given : Given) (parameter : Parameter) (value : Option String) :
    Except UsageFault Given := do
  return { (← given.settle) with pending := some (parameter, value) }

def take (given : Given) (parameter : Parameter) (value : List Char) :
    Except UsageFault Given := do
  (← given.expect parameter (some (String.ofList value))).settle

/-- Takes a flag. One can be verbose up to 255 times. -/
def flag (given : Given) (switch : Switch) : Except UsageFault Given := do
  let given ← given.settle
  match switch with
  | .help => throw .help
  | .version => throw .version
  | _ => return { given with verbosity := min (given.verbosity + 1) 255 }

def readLong (scope : Scope) (given : Given) (name : List Char) (value : Option (List Char)) :
    Except UsageFault Given :=
  match scope.long? name, value with
  | none, _ => .error .unknownArgument
  | some (.parameter parameter), some value => given.take parameter value
  | some (.parameter parameter), none => given.expect parameter none
  | some _, some _ => .error .needlessValue
  | some switch, none => given.flag switch

/-- Letters are flags up to the first option, whose value follows, after an
equals sign or at once, or else is the next word. -/
def readLetters (scope : Scope) (given : Given) : List Char → Except UsageFault Given
  | [] => .ok given
  | letter :: rest =>
    match scope.letter? letter with
    | none => .error .unknownArgument
    | some (.parameter parameter) =>
      match rest with
      | [] => given.expect parameter none
      | '=' :: value | value => given.take parameter value
    | some switch => do readLetters scope (← given.flag switch) rest

def readPlain (scope : Scope) (given : Given) (text : String) : Except UsageFault Given :=
  match scope.positional with
  | none => .error .unknownArgument
  | some parameter =>
    if given.mentions parameter then .error .unknownArgument
    else given.expect parameter (some text)

def readWords (scope : Scope) (given : Given) : List String → Except UsageFault Given
  | [] => given.settle
  | text :: rest =>
    match Word.ofText text, given.pending with
    | .divider, _ => do (← rest.foldlM (readPlain scope) given).settle
    | .long name value, _ => do readWords scope (← given.readLong scope name value) rest
    | .letters letters, _ => do readWords scope (← given.readLetters scope letters) rest
    | .plain, some (parameter, none) =>
      readWords scope { given with pending := some (parameter, some text) } rest
    | .plain, _ => do readWords scope (← given.readPlain scope text) rest

def require (given : Given) (parameter : Parameter) : Except UsageFault String :=
  match given.value? parameter with
  | some value => .ok value
  | none => .error .missingArgument

def format (given : Given) : Report.Format :=
  ((given.value? .format).bind Report.Format.ofName?).getD .text

end Given

/-! Commands. -/

/-- The connection string of a snapshot, if none is given. -/
def standardConnection : String := "mysql://root@localhost:3306"

inductive CommandName where
  | token
  | grants
deriving DecidableEq, Repr

namespace CommandName

def name : CommandName → String
  | token => "analyze"
  | grants => "grants"

def ofName? (name : String) : Option CommandName := [token, grants].find? (·.name == name)

def scope : CommandName → Scope
  | token => .ofToken
  | grants => .ofGrants

def command (name : CommandName) (given : Given) : Except UsageFault Command := do
  match name with
  | token =>
    match TokenVendor.ofName? (← given.require .vendor) with
    | some vendor =>
      return .token vendor (← given.require .token) (given.value? .settings) given.format
    | none => throw .invalidValue
  | grants =>
    let connection := (given.value? .connection).getD standardConnection
    return .grants (← given.require .snapshot) connection given.format

end CommandName

/-- A command, and how much it should tell about its work. -/
structure Invocation where
  verbosity : Nat
  command : Command
deriving DecidableEq, Repr

def helpName : String := "help"

def isCommandName (text : String) : Bool :=
  (CommandName.ofName? text).isSome || text = helpName

def helpFault (names : List String) : UsageFault :=
  match names with
  | [] => .help
  | [name] => if isCommandName name then .help else .unknownCommand
  | _ => .unknownCommand

/-- A word that may name a command only in front of `--`. -/
def misplaced (text : String) : UsageFault :=
  if isCommandName text then .unknownArgument else .unknownCommand

/-- Reads the words after the program's name. Verbosity that a command is given
itself stands, not that in front of it. -/
def readFrom (outer : Given) : List String → Except UsageFault Invocation
  | [] => .error (if outer.verbosity = 0 then .nothing else .missingCommand)
  | text :: rest => do
    if text = helpName then throw (helpFault rest)
    match CommandName.ofName? text with
    | some name =>
      let given ← Given.readWords name.scope {} rest
      let verbosity := if given.verbosity = 0 then outer.verbosity else given.verbosity
      return ⟨verbosity, ← name.command given⟩
    | none =>
      match Word.ofText text with
      | .divider =>
        match rest with
        | [] => throw (if outer.verbosity = 0 then .nothing else .missingCommand)
        | next :: _ => throw (misplaced next)
      | .long name value => readFrom (← outer.readLong .outer name value) rest
      | .letters letters => readFrom (← outer.readLetters .outer letters) rest
      | .plain => throw .unknownCommand

def read (words : List String) : Except UsageFault Invocation := readFrom {} words

end CredentialReach.CommandLine

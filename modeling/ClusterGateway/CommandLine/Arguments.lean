import ClusterGateway.Config.Basic
import ClusterGateway.Telemetry.Directives

/-!
# Arguments of the command line

The command line names a configuration file and may override the level of the log and the address
of the API.  An option has its value in the next argument or, after `=`, in its own; no option may
be given twice.
-/

namespace ClusterGateway

namespace CommandLine

/-- What the program is asked to do. -/
structure Arguments where
  /-- The configuration file. -/
  config : String
  /-- The level of the log. -/
  level : Option LogLevel
  /-- The address of the API. -/
  listen : Option Net.SocketAddress
  deriving Repr, DecidableEq, Inhabited

/-- What the command line means. -/
inductive Command where
  /-- The program is to explain itself. -/
  | help
  /-- The program is to tell its version. -/
  | version
  /-- The program is to serve. -/
  | serve (arguments : Arguments)
  deriving Repr, DecidableEq, Inhabited

/-- What is wrong with a command line. -/
inductive UsageError where
  /-- An argument is not known. -/
  | unexpected (argument : String)
  /-- An option has no value. -/
  | missingValue (option : String)
  /-- The value of an option cannot be used. -/
  | invalidValue (option value : String)
  /-- An option is given twice. -/
  | repeated (option : String)
  deriving Repr, DecidableEq, Inhabited

namespace UsageError

/-- The text of an error. -/
def message : UsageError → String
  | unexpected argument => "unexpected argument '" ++ argument ++ "' found"
  | missingValue option => "a value is required for '" ++ option ++ "' but none was supplied"
  | invalidValue option value => "invalid value '" ++ value ++ "' for '" ++ option ++ "'"
  | repeated option => "the argument '" ++ option ++ "' cannot be used multiple times"

end UsageError

/-- An option with a value. -/
inductive Setting where
  /-- The configuration file. -/
  | config
  /-- The level of the log. -/
  | level
  /-- The address of the API. -/
  | listen
  deriving Repr, DecidableEq, Inhabited

namespace Setting

/-- How usage texts write the option. -/
def usage : Setting → String
  | config => "--config <CONFIG>"
  | level => "--log-level <LOG_LEVEL>"
  | listen => "--listen <LISTEN>"

/-- The option of a name. -/
def ofName? : String → Option Setting
  | "--config" | "-c" => some config
  | "--log-level" => some level
  | "--listen" => some listen
  | _ => none

end Setting

/-- The options given so far. -/
structure Given where
  /-- The configuration file. -/
  config : Option String
  /-- The level of the log. -/
  level : Option LogLevel
  /-- The address of the API. -/
  listen : Option Net.SocketAddress

namespace Given

/-- No options. -/
def none : Given := ⟨.none, .none, .none⟩

/-- Whether an option has been given. -/
def has (g : Given) : Setting → Bool
  | .config => g.config.isSome
  | .level => g.level.isSome
  | .listen => g.listen.isSome

/-- The options with one more; nothing if its value cannot be used. -/
def put? (g : Given) (value : String) : Setting → Option Given
  | .config => if value = "" then .none else some { g with config := some value }
  | .level => (LogLevel.choice? value).map fun level => { g with level := some level }
  | .listen => (Net.SocketAddress.parse? value).map fun a => { g with listen := some a }

/-- The options with one more. -/
def put (g : Given) (s : Setting) (value : String) : Except UsageError Given :=
  if g.has s then .error (.repeated s.usage)
  else match g.put? value s with
    | some g => .ok g
    | .none => .error (.invalidValue s.usage value)

/-- The arguments that the options make, with the usual configuration file. -/
def arguments (g : Given) : Arguments := ⟨g.config.getD "kubegate.toml", g.level, g.listen⟩

end Given

/-- An option and the value in its own argument, if there is one. -/
def splitOption (argument : String) : String × Option String :=
  match Text.cut? '=' argument, argument.toList with
  | some (name, value), '-' :: _ => (name, some value)
  | _, '-' :: 'c' :: c :: cs => ("-c", some (String.ofList (c :: cs)))
  | _, _ => (argument, none)

/-- Whether an argument looks like an option. -/
def isOption (argument : String) : Bool :=
  argument.toList.head? = some '-' && argument ≠ "-"

/-- The command of the arguments after those that have been read. -/
def readFrom (given : Given) : List String → Except UsageError Command
  | [] => .ok (.serve given.arguments)
  | argument :: rest =>
    if argument = "--help" ∨ argument = "-h" then .ok .help
    else if argument = "--version" ∨ argument = "-V" then .ok .version
    else match splitOption argument with
      | (name, inline) =>
        match Setting.ofName? name, inline, rest with
        | none, _, _ => .error (.unexpected argument)
        | some s, some value, rest => do
          let given ← given.put s value
          readFrom given rest
        | some s, none, value :: rest =>
          if isOption value then .error (.missingValue s.usage)
          else do
            let given ← given.put s value
            readFrom given rest
        | some s, none, [] => .error (.missingValue s.usage)

/-- The command of a command line. -/
def read (arguments : List String) : Except UsageError Command := readFrom .none arguments

/-! ### Texts -/

/-- What the program tells of itself. -/
def helpText : String := "\n".intercalate [
  "Kubernetes resource gateway: tables, logs and an impersonating API proxy",
  "",
  "Usage: kubegate [OPTIONS]",
  "",
  "Options:",
  "  -c, --config <CONFIG>        Configuration file; defaults apply when it does not exist " ++
    "[default: kubegate.toml]",
  "      --log-level <LOG_LEVEL>  Log level, overrides RUST_LOG",
  "      --listen <LISTEN>        Address of the query API, overrides `api.listen`",
  "  -h, --help                   Print help",
  "  -V, --version                Print version"]

/-- The name and the version of the program. -/
def versionText : String := "kubegate 0.1.0"

/-- What is told after a usage error. -/
def usageText (e : UsageError) : String :=
  "error: " ++ e.message ++
    "\n\nUsage: kubegate [OPTIONS]\n\nFor more information, try '--help'.\n"

end CommandLine

end ClusterGateway

import ClusterGateway.Config.Basic
import ClusterGateway.Http.Uri

/-!
# Which events are logged

A log filter is a list of directives between commas, each of which sets a level for the events of
a target: `info`, `hub::watch=debug`.  Of the directives that fit an event the one with the
longest target decides; without any the event is not logged.
-/

namespace ClusterGateway

/-- How important an event has to be to be logged; later levels let more through. -/
inductive LogLevel where
  /-- Nothing is logged. -/
  | off
  /-- Errors. -/
  | error
  /-- Warnings. -/
  | warn
  /-- What happens. -/
  | info
  /-- Details. -/
  | debug
  /-- Everything. -/
  | trace
  deriving Repr, DecidableEq, Inhabited

namespace LogLevel

/-- The levels with their names, in order. -/
def names : List (LogLevel × String) := [
  (off, "off"), (error, "error"), (warn, "warn"), (info, "info"), (debug, "debug"),
  (trace, "trace")]

/-- The name of a level. -/
def name (l : LogLevel) : String := (names.lookup l).getD ""

/-- The level of a number from zero. -/
def ofNumber? (n : Nat) : Option LogLevel := names[n]?.map Prod.fst

/-- The number that decimal digits write, with an optional plus sign. -/
def number? (cs : List Char) : Option Nat :=
  let ds := match cs with
    | '+' :: ds => ds
    | ds => ds
  if ds ≠ [] ∧ ds.all Char.isDigit then
    some (ds.foldl (fun n c => 10 * n + (c.toNat - 48)) 0)
  else none

/-- The level of a text: a number, or a name in any case.  The empty text is the level of
errors. -/
def parse? (s : String) : Option LogLevel :=
  if s = "" then some error
  else ((number? s.toList).bind ofNumber?).orElse fun _ =>
    (names.find? fun (_, name) => name = String.ofList (s.toList.map Char.toLower)).map Prod.fst

/-- The level that a caller chooses, which is a level of events. -/
def choice? (s : String) : Option LogLevel :=
  if s = "" then none else (parse? s).filter (· ≠ off)

end LogLevel

/-- Sets the level for the events of a target. -/
structure Directive where
  /-- The start of the target's name; none for all targets. -/
  target : Option String
  /-- Whether the directive only concerns what happens inside certain spans or has certain
  fields. -/
  restricted : Bool
  /-- The level. -/
  level : LogLevel
  deriving Repr, DecidableEq, Inhabited

namespace Directive

/-- Whether a character may start a directive that is not about a span. -/
def mayStart (c : Char) : Bool := c.isAlphanum || c = '-' || c = ':' || c = '_' || 0x80 ≤ c.toNat

/-- The level after the equals sign; without one everything is let through. -/
def levelAfter? (cs : List Char) : Option LogLevel :=
  if cs = [] then some .trace else LogLevel.parse? (String.ofList cs)

/-- The fields of a span up to the closing brace. -/
def afterFields? (cs : List Char) : Option (List Char) :=
  match cs.dropWhile (· ≠ '\x7d') with
  | '\x7d' :: rest =>
    if (Text.piecesChars ',' (cs.takeWhile (· ≠ '\x7d'))).contains [] then none else some rest
  | _ => none

/-- A directive about a span, after the opening bracket. -/
def spanDirective? (target : Option String) (cs : List Char) : Option Directive := do
  let isEnd (c : Char) : Bool := c = ']' || c = '\x7b'
  let rest ← match cs.dropWhile (!isEnd ·) with
    | '\x7b' :: rest => afterFields? rest
    | ']' :: rest => some (']' :: rest)
    | _ => none
  match rest with
  | [']'] => some ⟨target, true, .trace⟩
  | ']' :: '=' :: rest => (levelAfter? rest).map (⟨target, true, ·⟩)
  | _ => none

/-- A directive. -/
def parse? (cs : List Char) : Option Directive :=
  match cs with
  | [] => none
  | '[' :: rest => spanDirective? none rest
  | c :: _ =>
    if !mayStart c then none
    else
      let isEnd (c : Char) : Bool := c = '=' || c = '['
      let name := String.ofList (cs.takeWhile (!isEnd ·))
      match cs.dropWhile (!isEnd ·) with
      | '=' :: rest => (levelAfter? rest).map (⟨some name, false, ·⟩)
      | '[' :: rest => spanDirective? (some name) rest
      | _ => match LogLevel.parse? name with
        | some level => some ⟨none, false, level⟩
        | none => some ⟨some name, false, .trace⟩

/-- Whether a directive is about the events of a target. -/
def fits (d : Directive) (target : String) : Bool :=
  !d.restricted && d.target.all fun start => start.toList.isPrefixOf target.toList

/-- How specific a directive is. -/
def weight (d : Directive) : Nat :=
  match d.target with
  | some target => target.utf8ByteSize + 1
  | none => 0

end Directive

/-- Which events are logged. -/
structure LogFilter where
  /-- The directives. -/
  directives : List Directive
  deriving Repr, DecidableEq, Inhabited

namespace LogFilter

/-- The filter that a text writes.  Without directives errors are logged. -/
def parse? (s : String) : Option LogFilter := do
  let parts := (Text.pieces ',' s).filter (· ≠ "")
  let directives ← parts.mapM fun part => Directive.parse? (Text.trimChars part.toList)
  return ⟨if directives = [] then [⟨none, false, .error⟩] else directives⟩

/-- The better of two directives; of equally specific ones the later. -/
def better (best : Option Directive) (d : Directive) : Option Directive :=
  match best with
  | some b => if b.weight ≤ d.weight then some d else some b
  | none => some d

/-- The level for the events of a target. -/
def levelFor (f : LogFilter) (target : String) : LogLevel :=
  match (f.directives.filter (·.fits target)).foldl better none with
  | some d => d.level
  | none => .off

end LogFilter

/-! ### From the configuration -/

/-- What the environment of the process says about logging. -/
structure TelemetryEnvironment where
  /-- The level chosen by the caller. -/
  level : Option LogLevel
  /-- The filter in the environment. -/
  filter : Option String
  /-- The collector in the environment. -/
  endpoint : Option String

/-- Why logging cannot start. -/
inductive TelemetryError where
  /-- The text is no log filter. -/
  | invalidFilter (text : String)
  /-- The address of the collector cannot be used. -/
  | badEndpoint
  deriving Repr, DecidableEq

namespace TelemetryError

/-- The text of an error, without the causes that are told below it. -/
def message : TelemetryError → String
  | invalidFilter text => "Invalid log filter " ++ Text.quoted text
  | badEndpoint => "Failed to build the OTLP span exporter"

end TelemetryError

/-- What is logged, and how. -/
structure Telemetry where
  /-- Which events are logged. -/
  filter : LogFilter
  /-- Whether they are written for readers. -/
  pretty : Bool
  deriving Repr, DecidableEq, Inhabited

namespace Telemetry

/-- The text of the filter: the chosen level, else the filter in the environment unless it is
blank, else the configured one, else `info`. -/
def filterText (c : TelemetryConfig) (env : TelemetryEnvironment) : String :=
  match env.level with
  | some level => level.name
  | none => ((env.filter.filter fun s => Text.trim s ≠ "").orElse fun _ => c.filter).getD "info"

/-- Whether the collector can be addressed.  An empty address counts as none; one from the
environment is tried only where calls go through it. -/
def endpointIsUsable (c : TelemetryConfig) (env : TelemetryEnvironment) : Bool :=
  match c.endpoint.filter (· ≠ "") with
  | some endpoint => (Http.Uri.parse? endpoint).isSome
  | none =>
    match c.protocol, env.endpoint.filter (· ≠ "") with
    | .grpc, some endpoint => (Http.Uri.parse? endpoint).isSome
    | _, _ => true

/-- Logging as configured, on a terminal or elsewhere. -/
def start (c : TelemetryConfig) (env : TelemetryEnvironment) (terminal : Bool) :
    Except TelemetryError Telemetry :=
  let text := filterText c env
  match LogFilter.parse? text with
  | none => .error (.invalidFilter text)
  | some filter =>
    if endpointIsUsable c env then .ok ⟨filter, c.format.isPretty terminal⟩
    else .error .badEndpoint

end Telemetry

end ClusterGateway

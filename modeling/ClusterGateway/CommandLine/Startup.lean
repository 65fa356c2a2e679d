import ClusterGateway.CommandLine.Arguments
import ClusterGateway.Error

/-!
# Starting up

From a command line and its surroundings to a plan: where the gateway listens, what it logs and
how it gets at the cluster.  The first thing that is wrong ends the program, with a status of two
for a command line that cannot be read and of one for everything else.
-/

namespace ClusterGateway

namespace CommandLine

/-- Why the program does not serve. -/
inductive StartupError where
  /-- The configuration cannot be read. -/
  | config (error : ConfigError)
  /-- Logging cannot start. -/
  | telemetry (error : TelemetryError)
  /-- The cluster cannot be got at. -/
  | connect (error : GatewayError)
  deriving Repr, DecidableEq

namespace StartupError

/-- The text of an error.  What the reader or the parser of the configuration says of it is left
out. -/
def message : StartupError → String
  | config .unreadable => "Failed to read configuration file"
  | config .malformed => "Failed to parse configuration file"
  | telemetry e => e.message
  | connect e => "Failed to connect to the cluster\n\nCaused by:\n    " ++ e.message

end StartupError

/-- What the gateway is going to do. -/
structure Plan where
  /-- The configuration, with what the command line overrides. -/
  config : GatewayConfig
  /-- What is logged. -/
  telemetry : Telemetry
  deriving Repr, DecidableEq, Inhabited

/-- What surrounds the program. -/
structure Surroundings where
  /-- The home directory. -/
  home : String
  /-- What is found in place of the configuration file. -/
  config : GatewayConfig.Source
  /-- The log filter in the environment. -/
  filter : Option String
  /-- The collector of spans in the environment. -/
  endpoint : Option String
  /-- Whether events are written to a terminal. -/
  terminal : Bool

/-- The configuration with what the command line overrides. -/
def override (a : Arguments) (c : GatewayConfig) : GatewayConfig :=
  { c with listen := a.listen.getD c.listen }

/-- The plan for a command line. -/
def plan (a : Arguments) (s : Surroundings) : Except StartupError Plan := do
  let c ← (GatewayConfig.load s.home s.config).mapError .config
  let t ← (Telemetry.start c.telemetry ⟨a.level, s.filter, s.endpoint⟩ s.terminal).mapError
    .telemetry
  return ⟨override a c, t⟩

/-- What a program without a way to the cluster says of credentials. -/
def unreachable : Credentials → GatewayError
  | .inCluster => .notInCluster
  | .file .. | .inline _ => .kubeconfig

/-- How a program ends. -/
structure Ending where
  /-- The exit status. -/
  status : UInt32
  /-- What is written to the standard output. -/
  output : String
  /-- What is written to the error output. -/
  errors : String
  deriving Repr, DecidableEq, Inhabited

namespace Ending

/-- The end of a program that only tells something. -/
def told (text : String) : Ending := ⟨0, text ++ "\n", ""⟩

/-- The end of a program whose command line cannot be read. -/
def misused (e : UsageError) : Ending := ⟨2, "", usageText e⟩

/-- The end of a program that cannot serve. -/
def failed (e : StartupError) : Ending := ⟨1, "", "Error: " ++ e.message ++ "\n"⟩

end Ending

end CommandLine

end ClusterGateway

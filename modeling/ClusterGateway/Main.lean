import ClusterGateway.CommandLine.Startup

/-!
# The program

Reads the command line, the configuration and the environment, and ends with what
`CommandLine.Ending` says.  The connections themselves are made by whoever runs the dialogues of
the library over a network, which this program has none of.
-/

namespace ClusterGateway

namespace CommandLine

/-- What is found in place of a file. -/
def readSource (path : String) : IO GatewayConfig.Source := do
  try
    let content ← IO.FS.readBinFile path
    return .content content.toList
  catch
    | .noFileOrDirectory .. => return .missing
    | _ => return .unreadable

/-- What surrounds the program. -/
def readSurroundings (config : String) : IO Surroundings := do
  let home ← IO.getEnv "HOME"
  let source ← readSource config
  let filter ← IO.getEnv "RUST_LOG"
  let endpoint ← IO.getEnv "OTEL_EXPORTER_OTLP_ENDPOINT"
  let errors ← IO.getStderr
  let terminal ← errors.isTty
  return ⟨home.getD "", source, filter, endpoint, terminal⟩

/-- The end of a program that is asked to serve. -/
def serve (a : Arguments) : IO Ending := do
  let s ← readSurroundings a.config
  return (match plan a s with
    | .error e => .failed e
    | .ok p => .failed (.connect (unreachable p.config.credentials)))

/-- The end of the program. -/
def ending (arguments : List String) : IO Ending :=
  match read arguments with
  | .error e => pure (.misused e)
  | .ok .help => pure (.told helpText)
  | .ok .version => pure (.told versionText)
  | .ok (.serve a) => serve a

end CommandLine

end ClusterGateway

/-- Runs the program. -/
def main (arguments : List String) : IO UInt32 := do
  let e ← ClusterGateway.CommandLine.ending arguments
  IO.print e.output
  IO.eprint e.errors
  return e.status

import ClusterGateway.Cluster.Credentials
import ClusterGateway.Identity.Resolver
import ClusterGateway.Net.SocketAddress
import ClusterGateway.Toml.Parse

/-!
# Configuration

The configuration of the gateway is a TOML document with a table for each part.  Whatever is left
out has a default; only the table of the cluster's credentials has to be complete if it is there.
-/

namespace ClusterGateway

open Json

/-- How log events are written to the console. -/
inductive ConsoleFormat where
  /-- For readers on a terminal, as JSON elsewhere. -/
  | auto
  /-- For readers. -/
  | pretty
  /-- As JSON. -/
  | json
  deriving Repr, DecidableEq, Inhabited

/-- How spans are sent to their collector. -/
inductive SpanProtocol where
  /-- By remote procedure calls. -/
  | grpc
  /-- By HTTP. -/
  | http
  deriving Repr, DecidableEq, Inhabited

/-- The companion server. -/
structure CompanionConfig where
  /-- Whether it runs. -/
  enabled : Bool
  /-- Its port. -/
  port : Nat
  /-- The seconds between attempts to start it. -/
  retrySeconds : Nat
  deriving Repr, DecidableEq, Inhabited

/-- What is told of the gateway's own doings. -/
structure TelemetryConfig where
  /-- Which events are logged. -/
  filter : Option String
  /-- How they are written. -/
  format : ConsoleFormat
  /-- Where spans are sent. -/
  endpoint : Option String
  /-- How spans are sent. -/
  protocol : SpanProtocol
  /-- The name under which the gateway sends spans. -/
  serviceName : String
  deriving Repr, DecidableEq, Inhabited

/-- The configuration of the gateway. -/
structure GatewayConfig where
  /-- The gateway's own access to the cluster. -/
  credentials : Credentials
  /-- Where the API listens. -/
  listen : Net.SocketAddress
  /-- The companion server. -/
  companion : CompanionConfig
  /-- Who is asking. -/
  identity : IdentityPolicy
  /-- What is logged. -/
  telemetry : TelemetryConfig
  deriving Repr, DecidableEq, Inhabited

/-- Why there is no configuration. -/
inductive ConfigError where
  /-- The file cannot be read. -/
  | unreadable
  /-- The text is no configuration. -/
  | malformed
  deriving Repr, DecidableEq

/-! ### Defaults -/

/-- The address where the API listens by default. -/
def defaultListen : Net.SocketAddress := .v4 [127, 0, 0, 1] 8080

namespace CompanionConfig

/-- The companion server does not run. -/
def default : CompanionConfig := ⟨false, 8443, 5⟩

/-- The address where the companion server listens. -/
def address (c : CompanionConfig) : Net.SocketAddress := .v4 [0, 0, 0, 0] c.port

/-- The seconds to wait between attempts to start, at least one. -/
def pause (c : CompanionConfig) : Nat := max c.retrySeconds 1

/-- Reads the part of the companion server. -/
def decode : Decoder CompanionConfig := fun room d => do
  let m ← Members.read? ["enabled", "port", "retry_interval_secs"] room (d.firstItems 3)
  let enabled ← m.withDefault "enabled" default.enabled .bool
  let port ← m.withDefault "port" default.port (.nat 16)
  let retrySeconds ← m.withDefault "retry_interval_secs" default.retrySeconds (.nat 64)
  return ⟨enabled, port, retrySeconds⟩

end CompanionConfig

/-- Reads a word that stands for a value.  In place of the word there may be a table with an empty
table under it. -/
def decodeWord {α : Type} (words : List (String × α)) : Decoder α
  | room, .object [(codes, .object [])] => word room (.string codes)
  | room, d => word room d
where
  /-- The value of a word. -/
  word (room : Nat) (d : Document) : Option α :=
    (Decoder.string room d).bind fun s => words.lookup s

namespace ConsoleFormat

/-- Reads a format. -/
def decode : Decoder ConsoleFormat :=
  decodeWord [("auto", auto), ("pretty", pretty), ("json", json)]

/-- Whether events are written for readers. -/
def isPretty (f : ConsoleFormat) (terminal : Bool) : Bool :=
  match f with
  | auto => terminal
  | pretty => true
  | json => false

end ConsoleFormat

namespace SpanProtocol

/-- Reads a protocol. -/
def decode : Decoder SpanProtocol := decodeWord [("grpc", grpc), ("http", http)]

end SpanProtocol

namespace TelemetryConfig

/-- Events are logged as the environment says. -/
def default : TelemetryConfig := ⟨none, .auto, none, .http, "kubegate"⟩

/-- Reads the part of the logging. -/
def decode : Decoder TelemetryConfig := fun room d => do
  let m ← Members.read? ["filter", "format", "otlp_endpoint", "otlp_protocol", "service_name"]
    room (d.firstItems 5)
  let filter ← m.withDefault "filter" none (.nullable .string)
  let format ← m.withDefault "format" default.format ConsoleFormat.decode
  let endpoint ← m.withDefault "otlp_endpoint" none (.nullable .string)
  let protocol ← m.withDefault "otlp_protocol" default.protocol SpanProtocol.decode
  let serviceName ← m.withDefault "service_name" default.serviceName .string
  return ⟨filter, format, endpoint, protocol, serviceName⟩

end TelemetryConfig

/-- Reads the address where the API listens. -/
def decodeListen : Decoder Net.SocketAddress := fun room d => do
  let m ← Members.read? ["listen"] room (d.firstItems 1)
  m.withDefault "listen" defaultListen fun room d =>
    (Decoder.string room d).bind Net.SocketAddress.parse?

/-! ### Home directories -/

/-- The characters of a path without separators and single points at the start. -/
def trimPathStart : List Char → List Char
  | '/' :: cs => trimPathStart cs
  | '.' :: '/' :: cs => trimPathStart cs
  | ['.'] => []
  | cs => cs

/-- The characters of a path, in reverse, without separators and single points at the end. -/
def trimPathEnd : List Char → List Char
  | '/' :: cs => trimPathEnd cs
  | '.' :: '/' :: cs => trimPathEnd cs
  | cs => cs

/-- A path with a tilde as its first part replaced by the home directory. -/
def expandHome (home path : String) : String :=
  match path.toList with
  | ['~'] => home ++ "/"
  | '~' :: '/' :: cs =>
    home ++ "/" ++ String.ofList (trimPathEnd (trimPathStart cs).reverse).reverse
  | _ => path

namespace Credentials

/-- The credentials with the path relative to the home directory resolved. -/
def expand (home : String) : Credentials → Credentials
  | file path context => file (expandHome home path) context
  | c => c

end Credentials

/-! ### Whole configurations -/

namespace GatewayConfig

/-- The configuration where nothing is set. -/
def default : GatewayConfig :=
  ⟨.inCluster, defaultListen, .default, .default, .default⟩

/-- Reads a configuration. -/
def decode : Decoder GatewayConfig := fun room d => do
  let m ← Members.read? ["cluster", "api", "server", "identity", "telemetry"] room d
  let credentials ← m.withDefault "cluster" .inCluster Credentials.decode
  let listen ← m.withDefault "api" defaultListen decodeListen
  let companion ← m.withDefault "server" .default CompanionConfig.decode
  let identity ← m.withDefault "identity" .default fun room d =>
    IdentityPolicy.decode room (d.firstItems 4)
  let telemetry ← m.withDefault "telemetry" .default TelemetryConfig.decode
  return ⟨credentials, listen, companion, identity, telemetry⟩

/-- The configuration that a text writes, for a home directory. -/
def parse (home text : String) : Except ConfigError GatewayConfig :=
  let read := (Toml.parse? text).bind fun entries =>
    decode Document.maxDepth (Toml.Value.table entries).toDocument
  match read with
  | some c => .ok { c with credentials := c.credentials.expand home }
  | none => .error .malformed

/-- What is found in place of a file. -/
inductive Source where
  /-- No file. -/
  | missing
  /-- Something that cannot be read as a file. -/
  | unreadable
  /-- A file. -/
  | content (bytes : Bytes)

/-- The configuration in a file.  Without the file nothing is set. -/
def load (home : String) : Source → Except ConfigError GatewayConfig
  | .missing => .ok default
  | .unreadable => .error .unreadable
  | .content bytes =>
    match Utf8.decode? bytes with
    | some text => parse home text
    | none => .error .unreadable

end GatewayConfig

end ClusterGateway

import ClusterGateway.Gateway.Error
import ClusterGateway.Log.Batch
import ClusterGateway.Log.Live
import ClusterGateway.Object.Namespace
import ClusterGateway.Proxy.Forward
import ClusterGateway.Table.Fetch

/-!
# The gateway

What callers can ask for.  Kinds and namespaces are read in the gateway's own name, everything
else in the name of the caller.
-/

namespace ClusterGateway

open Http Json

/-- A gateway to a cluster. -/
structure Gateway where
  /-- Makes out the caller from the headers of a request. -/
  identify : Headers → Except IdentityError Identity
  /-- The proxy to the API server. -/
  proxy : Proxy

/-- The answer to a query. -/
inductive QueryAnswer where
  /-- Kinds. -/
  | kinds (descriptors : List Descriptor)
  /-- Names of namespaces or containers. -/
  | names (names : List String)
  /-- A table. -/
  | table (t : Table)
  /-- Log lines. -/
  | logs (lines : List LogLine)

namespace QueryAnswer

/-- The answer as JSON. -/
def encode : QueryAnswer → Value
  | kinds ds => .array (ds.map Descriptor.encode)
  | names ns => .array (ns.map .string)
  | table t => t.encode
  | logs ls => .array (ls.map LogLine.encode)

end QueryAnswer

namespace Gateway

/-- A gateway with a policy for the identity of its callers. -/
def ofPolicy (p : IdentityPolicy) (proxy : Proxy) : Gateway := ⟨p.resolve, proxy⟩

/-- Checks that the API server answers. -/
def health : Operation Unit := do
  let _ ← Exchange.read Discovery.decodeCoreVersions Lookup.coreAddress
  return ()

/-- The address of the list of the namespaces. -/
def namespacesAddress : String := "/api/v1/namespaces?"

/-- The names of the namespaces. -/
def namespaces : Operation (List String) := Exchange.read Namespaces.decodeList namespacesAddress

/-- The table that a query asks for. -/
def table (identity : Identity) (q : TableQuery) : Operation Table :=
  TableFetch.table identity q.resource q.ns
    (.ofParameter q.parameterName q.parameterValue) q.wide

/-- The containers that a query asks for. -/
def containers (identity : Identity) (q : ContainersQuery) : Operation (List String) := do
  let group ← PodGroup.resolve identity q.resource q.ns q.name
  return group.containers

/-- Answers a query. -/
def query (identity : Identity) : Query → Operation QueryAnswer
  | .resourceIds => do
    let ds ← Operation.ofDialogue Lookup.all
    return .kinds ds
  | .namespaces => do
    let names ← namespaces
    return .names names
  | .table q => do
    let t ← table identity q
    return .table t
  | .containers q => do
    let names ← containers identity q
    return .names names
  | .logs q => do
    let lines ← LogBatch.lines identity q
    return .logs lines

/-- Checks that somebody may follow the logs of an object, by asking for its containers. -/
def mayFollow (identity : Identity) (q : LogsQuery) : Dialogue (Except ServiceError Unit) :=
  (containers identity ⟨q.resource, q.ns, q.name⟩).attempt.bind fun answer =>
    .done (match answer with
      | .ok _ => .ok ()
      | .error e => .error (.permissionDenied e.message))

/-- The lines that a sink accepts of a live stream. -/
def follow {σ : Type} (identity : Identity) (q : LogsQuery) (sink : LineSink σ) (s : σ)
    (cancelled : Bool) : Operation (List LogLine) := do
  let (filter, logs) ← LiveStream.connect identity q
  return LiveStream.accepted filter logs sink s cancelled

end Gateway

end ClusterGateway

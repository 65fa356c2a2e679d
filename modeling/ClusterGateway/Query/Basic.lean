import ClusterGateway.Time.Json

/-!
# Queries

What a caller can ask the gateway.  A query is a JSON object whose `queryType` says which one it
is; fields that are absent are empty.
-/

namespace ClusterGateway

open Json

/-- Asks for a table. -/
structure TableQuery where
  /-- The id of the kind. -/
  resource : String
  /-- The namespaces, divided by commas. -/
  ns : String
  /-- The parameter that narrows the table down. -/
  parameterName : String
  /-- The value of the parameter. -/
  parameterValue : String
  /-- Whether all columns are shown. -/
  wide : Bool
  deriving Repr, DecidableEq, Inhabited

/-- Asks for the containers of an object. -/
structure ContainersQuery where
  /-- The id of the kind. -/
  resource : String
  /-- The namespace. -/
  ns : String
  /-- The name. -/
  name : String
  deriving Repr, DecidableEq, Inhabited

/-- Asks for the logs of an object. -/
structure LogsQuery where
  /-- The id of the kind. -/
  resource : String
  /-- The namespace. -/
  ns : String
  /-- The name. -/
  name : String
  /-- The container, or the empty text. -/
  container : String
  /-- The pattern for the bodies, or the empty text. -/
  filter : String
  /-- How many lines of each pod, if positive. -/
  tail : Int
  /-- Whether the logs of the terminated containers are meant. -/
  previous : Bool
  /-- The window of time. -/
  timeRange : Option TimeRange
  deriving Repr, DecidableEq, Inhabited

/-- A query. -/
inductive Query where
  /-- All kinds. -/
  | resourceIds
  /-- The names of the namespaces. -/
  | namespaces
  /-- A table. -/
  | table (q : TableQuery)
  /-- The containers of an object. -/
  | containers (q : ContainersQuery)
  /-- The logs of an object. -/
  | logs (q : LogsQuery)
  deriving Repr, DecidableEq, Inhabited

namespace TableQuery

/-- The fields in JSON. -/
def members (q : TableQuery) : List (String × Value) := [
  ("resource", .string q.resource), ("namespace", .string q.ns),
  ("parameterName", .string q.parameterName), ("parameterValue", .string q.parameterValue),
  ("wide", .bool q.wide)]

/-- Reads the fields. -/
def decode : Decoder TableQuery := fun room d => do
  let m ← Members.read?
    ["resource", "namespace", "parameterName", "parameterValue", "wide"] room d
  let resource ← m.withDefault "resource" "" .string
  let ns ← m.withDefault "namespace" "" .string
  let parameterName ← m.withDefault "parameterName" "" .string
  let parameterValue ← m.withDefault "parameterValue" "" .string
  let wide ← m.withDefault "wide" false .bool
  return ⟨resource, ns, parameterName, parameterValue, wide⟩

end TableQuery

namespace ContainersQuery

/-- The fields in JSON. -/
def members (q : ContainersQuery) : List (String × Value) := [
  ("resource", .string q.resource), ("namespace", .string q.ns), ("name", .string q.name)]

/-- Reads the fields. -/
def decode : Decoder ContainersQuery := fun room d => do
  let m ← Members.read? ["resource", "namespace", "name"] room d
  let resource ← m.withDefault "resource" "" .string
  let ns ← m.withDefault "namespace" "" .string
  let name ← m.withDefault "name" "" .string
  return ⟨resource, ns, name⟩

end ContainersQuery

namespace LogsQuery

/-- The fields in JSON. -/
def members (q : LogsQuery) : List (String × Value) := [
  ("resource", .string q.resource), ("namespace", .string q.ns), ("name", .string q.name),
  ("container", .string q.container), ("filter", .string q.filter), ("tail", .int q.tail),
  ("previous", .bool q.previous), ("timeRange", (q.timeRange.map TimeRange.encode).getD .null)]

/-- Reads the fields. -/
def decode : Decoder LogsQuery := fun room d => do
  let m ← Members.read? ["resource", "namespace", "name", "container", "filter", "tail",
    "previous", "timeRange"] room d
  let resource ← m.withDefault "resource" "" .string
  let ns ← m.withDefault "namespace" "" .string
  let name ← m.withDefault "name" "" .string
  let container ← m.withDefault "container" "" .string
  let filter ← m.withDefault "filter" "" .string
  let tail ← m.withDefault "tail" 0 .int64
  let previous ← m.withDefault "previous" false .bool
  let timeRange ← m.withDefault "timeRange" none (.nullable TimeRange.decode)
  return ⟨resource, ns, name, container, filter, tail, previous, timeRange⟩

end LogsQuery

namespace Query

/-- The query as JSON. -/
def encode : Query → Value
  | resourceIds => .object [("queryType", .string "kubernetes-resourceids")]
  | namespaces => .object [("queryType", .string "kubernetes-namespaces")]
  | table q => .object (("queryType", .string "kubernetes-resources") :: q.members)
  | containers q => .object (("queryType", .string "kubernetes-containers") :: q.members)
  | logs q => .object (("queryType", .string "kubernetes-logs") :: q.members)

/-- Reads a query. -/
def decode : Decoder Query := fun room d => do
  let (kind, rest) ← d.untag? "queryType"
  if !d.hasValue room then none
  else match kind with
    | "kubernetes-resourceids" => if rest.isPlain then some .resourceIds else none
    | "kubernetes-namespaces" => if rest.isPlain then some .namespaces else none
    | "kubernetes-resources" => (TableQuery.decode room rest).map .table
    | "kubernetes-containers" => (ContainersQuery.decode room rest).map .containers
    | "kubernetes-logs" => (LogsQuery.decode room rest).map .logs
    | _ => none

end Query

end ClusterGateway

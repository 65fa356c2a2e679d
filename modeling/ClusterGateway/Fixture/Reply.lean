import ClusterGateway.Http.Message
import ClusterGateway.Http.Status
import ClusterGateway.Json.Value
import ClusterGateway.Text.LowerCase

/-!
# Answers of a small cluster

What an API server answers, for trying the gateway out without one: failures, tables, pods, and
the discovery documents of a cluster with the core API, `apps/v1` and `metrics.k8s.io/v1beta1`.
-/

namespace ClusterGateway

open Http Json

namespace Fixture

/-- A JSON answer. -/
def jsonReply (status : Nat) (v : Value) : Response := .json status v.render

/-- A failure with a code, a reason and a message. -/
def failure (code : Nat) (reason message : String) : Response :=
  jsonReply (if isStatusCode code then code else 500) (.ofMembers [
    ("kind", .string "Status"), ("apiVersion", .string "v1"), ("status", .string "Failure"),
    ("message", .string message), ("reason", .string reason), ("code", .int code)])

/-- The answer to a request that nothing else answers. -/
def notFound : Response := failure 404 "NotFound" "not found"

/-! ### Discovery -/

/-- One entry of a list of kinds. -/
def kindEntry (name kind : String) (namespaced : Bool) : Value := .ofMembers [
  ("name", .string name), ("singularName", .string (Text.lower kind)),
  ("namespaced", .bool namespaced), ("kind", .string kind),
  ("verbs", .array (["get", "list", "watch"].map .string))]

/-- A list of kinds. -/
def kindList (groupVersion : String) (entries : List Value) : Value := .ofMembers [
  ("kind", .string "APIResourceList"), ("apiVersion", .string "v1"),
  ("groupVersion", .string groupVersion), ("resources", .array entries)]

/-- A group with a single version. -/
def group (name version : String) : Value :=
  let v : Value := .ofMembers [
    ("groupVersion", .string (name ++ "/" ++ version)), ("version", .string version)]
  .ofMembers [("name", .string name), ("versions", .array [v]), ("preferredVersion", v)]

/-- The discovery document at a path. -/
def discoveryDocument? (path : String) : Option Value :=
  match path with
  | "/api" => some (.ofMembers [("kind", .string "APIVersions"),
      ("versions", .array [.string "v1"]), ("serverAddressByClientCIDRs", .array [])])
  | "/api/v1" => some (kindList "v1" [kindEntry "pods" "Pod" true, kindEntry "pods/log" "Pod" true,
      kindEntry "namespaces" "Namespace" false, kindEntry "nodes" "Node" false])
  | "/apis" => some (.ofMembers [("kind", .string "APIGroupList"), ("apiVersion", .string "v1"),
      ("groups", .array [group "apps" "v1", group "metrics.k8s.io" "v1beta1"])])
  | "/apis/apps/v1" => some (kindList "apps/v1" [kindEntry "deployments" "Deployment" true,
      kindEntry "deployments/scale" "Scale" true, kindEntry "daemonsets" "DaemonSet" true])
  | "/apis/metrics.k8s.io/v1beta1" => some (kindList "metrics.k8s.io/v1beta1" [
      kindEntry "pods" "PodMetrics" true, kindEntry "nodes" "NodeMetrics" false])
  | _ => none

/-- The answer to a discovery request. -/
def discovery? (path : String) : Option Response :=
  (discoveryDocument? path).map (jsonReply 200)

/-! ### Tables and pods -/

/-- The definition of a column. -/
def columnDefinition (name : String) (priority : Int) : Value := .ofMembers [
  ("name", .string name), ("type", .string "string"), ("format", .string ""),
  ("description", .string ""), ("priority", .int priority)]

/-- One row of a table. -/
def tableRow (ns name : String) (cells : List Value) : Value := .ofMembers [
  ("cells", .array cells),
  ("object", .ofMembers [("kind", .string "PartialObjectMetadata"),
    ("apiVersion", .string "meta.k8s.io/v1"),
    ("metadata", .ofMembers [("namespace", .string ns), ("name", .string name)])])]

/-- A table of columns with their priorities and of rows with namespace, name and cells. -/
def table (columns : List (String × Int)) (rows : List (String × String × List Value)) :
    Response :=
  jsonReply 200 (.ofMembers [("kind", .string "Table"), ("apiVersion", .string "meta.k8s.io/v1"),
    ("metadata", .object []),
    ("columnDefinitions", .array (columns.map fun (name, priority) =>
      columnDefinition name priority)),
    ("rows", .array (rows.map fun (ns, name, cells) => tableRow ns name cells))])

/-- A container. -/
def container (name : String) : Value := .ofMembers [
  ("name", .string name), ("image", .string "busybox")]

/-- A pod with containers and with containers that run first. -/
def pod (ns name : String) (containers initContainers : List String) : Value := .ofMembers [
  ("kind", .string "Pod"), ("apiVersion", .string "v1"),
  ("metadata", .ofMembers [("namespace", .string ns), ("name", .string name)]),
  ("spec", .ofMembers [("containers", .array (containers.map container)),
    ("initContainers", .array (initContainers.map container))])]

end Fixture

end ClusterGateway

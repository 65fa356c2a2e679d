import ClusterGateway.Http.Percent
import ClusterGateway.Object.Pod
import ClusterGateway.Object.Workload
import ClusterGateway.Resource.Lookup

/-!
# The pods behind an object

An object is a pod itself or a workload that chooses pods by a label selector.
`PodGroup.resolve` reads the object, and for a workload lists the pods in its namespace with the
selector as the API server takes it.
-/

namespace ClusterGateway

open Http Json

/-- The pods behind an object and the containers in them. -/
structure PodGroup where
  /-- The names of the pods. -/
  pods : List String
  /-- The names of the containers. -/
  containers : List String
  deriving Repr, DecidableEq, Inhabited

namespace PodGroup

/-- The id of the kind whose objects are pods. -/
def podKind : String := "pod"

/-- The path of the pods of a namespace. -/
def podsPath (ns : String) : String := "/api/v1/namespaces/" ++ ns ++ "/pods"

/-- The address of the pods that a selector chooses. -/
def selectedAddress (ns selector : String) : String :=
  podsPath ns ++ "?&labelSelector=" ++ Percent.encodeForm selector

/-- The text of an object. -/
def object (identity : Identity) (d : Descriptor) (ns name : String) : Operation String := do
  let uri ← Operation.orElse .badObjectRequest
    (if name = "" then none else Uri.parse? (d.objectPath (some ns) name))
  Exchange.fetchAs identity uri .empty

/-- The pods that a selector chooses. -/
def selectedPods (identity : Identity) (ns selector : String) : Operation (List Pod) := do
  let uri ← Operation.orElse .badObjectRequest (Uri.parse? (selectedAddress ns selector))
  let text ← Exchange.fetchAs identity uri .empty
  Operation.orElse .malformed (decodePodList.parse? text)

/-- The group that is a single pod, told by its name and its document. -/
def ofPod (name document : String) : Operation PodGroup := do
  let pod ← Operation.orElse .malformed (Pod.decode.parse? document)
  return ⟨[name], pod.containerNames⟩

/-- The group of the pods in a list: the containers are those of the first pod. -/
def ofPods (pods : List Pod) : PodGroup :=
  ⟨pods.filterMap Pod.name, (pods.head?.map Pod.containerNames).getD []⟩

/-- What is wrong with a workload that does not choose pods. -/
def withoutSelector (d : Descriptor) (name : String) : GatewayError :=
  .invalidSelector (d.kind ++ " " ++ name ++ " has no pod selector")

/-- The group that a workload chooses, told by its document. -/
def ofWorkload (identity : Identity) (d : Descriptor) (ns name document : String) :
    Operation PodGroup := do
  let selector ← Operation.orElse .malformed (Workload.decode.parse? document)
  let selector ← Operation.orElse (withoutSelector d name) selector
  let text ← Operation.ofExcept selector.render
  let pods ← selectedPods identity ns text
  return ofPods pods

/-- The pods behind an object. -/
def resolve (identity : Identity) (resource ns name : String) : Operation PodGroup := do
  let d ← Lookup.find resource
  let document ← object identity d ns name
  if d.id = podKind then ofPod name document else ofWorkload identity d ns name document

end PodGroup

end ClusterGateway

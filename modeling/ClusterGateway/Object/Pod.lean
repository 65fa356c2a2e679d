import ClusterGateway.Object.PodSchema
import ClusterGateway.Resource.Discovery

/-!
# Pods

What the gateway wants to know of a pod: its name and the names of its containers.
-/

namespace ClusterGateway

open Json

/-- A pod. -/
structure Pod where
  /-- The name, if it has one. -/
  name : Option String
  /-- The names of the containers. -/
  containers : List String
  /-- The names of the containers that run before the others. -/
  initContainers : List String
  deriving Repr, DecidableEq, Inhabited

namespace Pod

/-- The names of all containers, those that run first at the end and each name once. -/
def containerNames (p : Pod) : List String := (p.containers ++ p.initContainers).eraseDups

/-- Reads the name of a container. -/
def decodeContainer : Decoder String := fun room d => do
  let m ← Members.readObject? room d
  m.orDefault "name" "" .string

/-- Reads the names of the containers out of the description of a pod. -/
def decodeSpec : Decoder (List String × List String) := fun room d => do
  let m ← Members.readObject? room d
  let containers ← m.orDefault "containers" [] (.list decodeContainer)
  let initContainers ← m.orDefault "initContainers" [] (.list decodeContainer)
  return (containers, initContainers)

/-- Reads a pod. -/
def decode : Decoder Pod := fun room d => do
  let m ← Discovery.readKind? "Pod" room d
  if !PodSchema.pod.admits room d then none
  else
    let name ← Metadata.nameOf m
    let (containers, initContainers) ← m.orDefault "spec" ([], []) decodeSpec
    return ⟨name, containers, initContainers⟩

end Pod

/-- Reads a list of pods, which may be told by nothing but its items. -/
def decodePodList : Decoder (List Pod) := fun room d => do
  let m ← Members.read? ["items"] room d
  m.withDefault "items" [] (.list Pod.decode)

end ClusterGateway

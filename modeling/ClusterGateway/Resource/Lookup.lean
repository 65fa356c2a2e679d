import ClusterGateway.Cluster.Exchange
import ClusterGateway.Resource.Discovery

/-!
# Looking up kinds

The kinds are found out by discovery: the core API in its first version and every group in the
version it prefers.  `Lookup.refresh` does that when the cache is not valid, and stores only a
catalog that is not empty; `Lookup.find` and `Lookup.all` answer from the cache after a refresh,
also from an outdated one when the refresh fails.
-/

namespace ClusterGateway

open Discovery

namespace Lookup

/-- The addresses of discovery. -/
def coreAddress : String := "/api"

/-- The address of the groups. -/
def groupsAddress : String := "/apis"

/-- The kinds of the core API in its first version, if it has any. -/
def coreLists : List String → Operation (List KindList)
  | [] => Operation.ofExcept (.ok [])
  | version :: _ => do
    let kinds ← Exchange.read KindList.decode (coreAddress ++ "/" ++ version)
    return [kinds]

/-- The kinds of a group; none of them when it does not answer. -/
def groupLists (version : String) : Dialogue (List KindList) :=
  (Exchange.read KindList.decode (groupsAddress ++ "/" ++ version)).attempt.bind fun answer =>
    .done (match answer with
      | .ok kinds => [kinds]
      | .error _ => [])

/-- The lists of all kinds: those of the core API first, then those of the groups in their order.
A group that does not answer is left out. -/
def gather : Operation (List KindList) := do
  let versions ← Exchange.read decodeCoreVersions coreAddress
  let core ← coreLists versions
  let groups ← Exchange.read decodeGroups groupsAddress
  let others ← Operation.ofDialogue (.all ((groups.filterMap Group.version?).map groupLists))
  return core ++ others.flatten

/-- The catalog of the cluster; empty when the core API or the groups cannot be read. -/
def discover : Dialogue Catalog :=
  gather.attempt.bind fun lists =>
    .done (match lists with
      | .ok lists => .ofLists lists
      | .error _ => .empty)

/-- Makes sure that the cache is valid. -/
def refresh : Operation Unit := do
  let (moment, cache) ← Operation.ofDialogue .cache
  if cache.isValidAt moment then return ()
  else
    let catalog ← Operation.ofDialogue discover
    if catalog.isEmpty then Operation.ofExcept (.error .discoveryEmpty)
    else Operation.ofDialogue (.keep catalog)

/-- Fills the cache for the first time.  What goes wrong is left to later calls. -/
def warmUp : Dialogue Unit := refresh.attempt.bind fun _ => .done ()

/-- All kinds that are known, in the order of their ids. -/
def all : Dialogue (List Descriptor) :=
  refresh.attempt.bind fun _ => Dialogue.cache.bind fun (_, cache) => .done cache.all

/-- What to say of an id: its descriptor, or why there is none. -/
def answer (id : String) (refreshed : Except GatewayError Unit) :
    Option Descriptor → Except GatewayError Descriptor
  | some d => .ok d
  | none => match refreshed with
    | .error e => .error e
    | .ok () => .error (.notFound id)

/-- The kind with an id. -/
def find (id : String) : Operation Descriptor :=
  ExceptT.mk (refresh.attempt.bind fun refreshed =>
    Dialogue.cache.bind fun (_, cache) => .done (answer id refreshed (cache.get? id)))

end Lookup

end ClusterGateway

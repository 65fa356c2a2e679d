import ClusterGateway.Json.Decode
import ClusterGateway.Resource.Descriptor

/-!
# Discovery documents

What the API server tells about itself: the versions of its core API, the groups of its other
APIs with their versions, and the kinds of objects in one version of a group.
-/

namespace ClusterGateway

open Json

namespace Discovery

/-- Reads a field whose text is fixed, if it is there. -/
def fixed (m : Members) (name expected : String) : Option Unit := do
  let found ← m.find name fun room d =>
    (Decoder.string room d).bind fun s => if s = expected then some () else none
  return found.getD ()

/-- Reads a document of a kind. -/
def readKind? (kind : String) : Decoder Members := fun room d => do
  let m ← Members.readObject? room d
  fixed m "kind" kind
  fixed m "apiVersion" "v1"
  return m

/-- An entry of a list of kinds. -/
structure Entry where
  /-- The name of the collection, or of a part of its objects after a slash. -/
  name : String
  /-- The kind. -/
  kind : String
  /-- Whether objects of the kind live in namespaces. -/
  namespaced : Bool
  /-- What can be done with the objects. -/
  verbs : List String
  deriving Repr, DecidableEq, Inhabited

/-- The kinds in one version of a group. -/
structure KindList where
  /-- The group and version. -/
  groupVersion : String
  /-- The entries. -/
  entries : List Entry
  deriving Repr, DecidableEq, Inhabited

namespace Entry

/-- Whether the entry is a collection that can be listed. -/
def isListable (e : Entry) : Bool := !e.name.toList.contains '/' && e.verbs.contains "list"

/-- Reads an entry. -/
def decode : Decoder Entry := fun room d => do
  let m ← Members.readObject? room d
  let name ← m.orDefault "name" "" .string
  let kind ← m.orDefault "kind" "" .string
  let namespaced ← m.orDefault "namespaced" false .bool
  let verbs ← m.orDefault "verbs" [] (.list .string)
  let _ ← m.orDefault "categories" [] (.list .string)
  let _ ← m.orDefault "group" "" .string
  let _ ← m.orDefault "shortNames" [] (.list .string)
  let _ ← m.orDefault "singularName" "" .string
  let _ ← m.orDefault "storageVersionHash" "" .string
  let _ ← m.orDefault "version" "" .string
  return ⟨name, kind, namespaced, verbs⟩

end Entry

namespace KindList

/-- The descriptors of the kinds that can be listed. -/
def descriptors (l : KindList) : List Descriptor :=
  (l.entries.filter Entry.isListable).map fun e =>
    Descriptor.ofEntry l.groupVersion e.kind e.name e.namespaced

/-- Reads a list of kinds. -/
def decode : Decoder KindList := fun room d => do
  let m ← readKind? "APIResourceList" room d
  let groupVersion ← m.orDefault "groupVersion" "" .string
  let entries ← m.orDefault "resources" [] (.list Entry.decode)
  return ⟨groupVersion, entries⟩

end KindList

/-- Reads an address under which clients of a network reach the API server. -/
def decodeServerAddress : Decoder Unit := fun room d => do
  let m ← Members.readObject? room d
  let _ ← m.orDefault "clientCIDR" "" .string
  let _ ← m.orDefault "serverAddress" "" .string
  return ()

/-- Reads the versions of the core API, the preferred one first. -/
def decodeCoreVersions : Decoder (List String) := fun room d => do
  let m ← readKind? "APIVersions" room d
  let _ ← m.orDefault "serverAddressByClientCIDRs" [] (.list decodeServerAddress)
  m.orDefault "versions" [] (.list .string)

/-- Reads one version of a group: its group and version. -/
def decodeGroupVersion : Decoder String := fun room d => do
  let m ← Members.readObject? room d
  let _ ← m.orDefault "version" "" .string
  m.orDefault "groupVersion" "" .string

/-- A group of kinds: the version to use, if it has any. -/
structure Group where
  /-- The version that the API server prefers. -/
  preferred : Option String
  /-- All versions. -/
  versions : List String
  deriving Repr, DecidableEq, Inhabited

namespace Group

/-- The version to use: the preferred one, else the first. -/
def version? (g : Group) : Option String := g.preferred.orElse fun _ => g.versions.head?

/-- Reads a group. -/
def decode : Decoder Group := fun room d => do
  let m ← readKind? "APIGroup" room d
  let _ ← m.orDefault "name" "" .string
  let _ ← m.orDefault "serverAddressByClientCIDRs" [] (.list decodeServerAddress)
  let preferred ← m.withDefault "preferredVersion" none (.nullable decodeGroupVersion)
  let versions ← m.orDefault "versions" [] (.list decodeGroupVersion)
  return ⟨preferred, versions⟩

end Group

/-- Reads the groups. -/
def decodeGroups : Decoder (List Group) := fun room d => do
  let m ← readKind? "APIGroupList" room d
  m.orDefault "groups" [] (.list Group.decode)

end Discovery

end ClusterGateway

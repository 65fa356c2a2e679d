import ClusterGateway.Json.Decode
import ClusterGateway.Text.LowerCase
import ClusterGateway.Text.Split

/-!
# Kinds of resources

A `Descriptor` says how one kind of object of the cluster is addressed.  Its id leaves the
version of the API out, so that a stored id outlives a change of version.
-/

namespace ClusterGateway

/-- One kind of object and how to address it. -/
structure Descriptor where
  /-- The kind and the API group in lower case, `kind.group`, or the kind alone for core kinds. -/
  id : String
  /-- The kind. -/
  kind : String
  /-- The group and version of the API. -/
  apiVersion : String
  /-- The name of the collection. -/
  pluralName : String
  /-- The path of the group and version. -/
  path : String
  /-- Whether objects of the kind live in namespaces. -/
  namespaced : Bool
  deriving Repr, DecidableEq, Inhabited

namespace Descriptor

/-- The group of a `group/version`, which core versions do not have. -/
def group? (groupVersion : String) : Option String := (Text.cut? '/' groupVersion).map Prod.fst

/-- The id of a kind in a group and version. -/
def idFor (groupVersion kind : String) : String :=
  Text.lower (match group? groupVersion with
    | some group => kind ++ "." ++ group
    | none => kind)

/-- The path under which the API serves a group and version. -/
def pathFor (groupVersion : String) : String :=
  (if groupVersion = "v1" then "/api" else "/apis") ++ "/" ++ groupVersion

/-- The descriptor of one entry of a list of resources. -/
def ofEntry (groupVersion kind plural : String) (namespaced : Bool) : Descriptor where
  id := idFor groupVersion kind
  kind := kind
  apiVersion := groupVersion
  pluralName := plural
  path := pathFor groupVersion
  namespaced := namespaced

/-- The path of the collection, within a namespace if one is given and the kind has namespaces. -/
def collectionPath (d : Descriptor) (ns : Option String) : String :=
  match ns with
  | some ns =>
    if d.namespaced ∧ ns ≠ "" then d.path ++ "/namespaces/" ++ ns ++ "/" ++ d.pluralName
    else d.path ++ "/" ++ d.pluralName
  | none => d.path ++ "/" ++ d.pluralName

/-- The path of one object. -/
def objectPath (d : Descriptor) (ns : Option String) (name : String) : String :=
  d.collectionPath ns ++ "/" ++ name

open Json

/-- The descriptor as JSON. -/
def encode (d : Descriptor) : Value := .object [
  ("id", .string d.id), ("kind", .string d.kind), ("apiVersion", .string d.apiVersion),
  ("pluralName", .string d.pluralName), ("path", .string d.path),
  ("namespaced", .bool d.namespaced)]

/-- Reads a descriptor. -/
def decode : Decoder Descriptor := fun room d => do
  let m ← Members.read?
    ["id", "kind", "apiVersion", "pluralName", "path", "namespaced"] room d
  let id ← m.required "id" .string
  let kind ← m.required "kind" .string
  let apiVersion ← m.required "apiVersion" .string
  let pluralName ← m.required "pluralName" .string
  let path ← m.required "path" .string
  let namespaced ← m.required "namespaced" .bool
  return ⟨id, kind, apiVersion, pluralName, path, namespaced⟩

end Descriptor

end ClusterGateway

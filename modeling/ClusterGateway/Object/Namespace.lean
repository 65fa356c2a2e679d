import ClusterGateway.Object.Metadata
import ClusterGateway.Resource.Discovery

/-!
# Namespaces

The list of the namespaces of a cluster, of which only the names are wanted.
-/

namespace ClusterGateway

open Json FieldType

namespace Namespaces

/-- A namespace. -/
def schema : FieldType := record [("metadata", Metadata.schema),
  ("spec", record [("finalizers", texts)]),
  ("status", record [("phase", text), ("conditions", list (record (
    ("lastTransitionTime", time) :: textRecord ["message", "reason", "status", "type"])))])]

/-- Reads the name of a namespace. -/
def decodeItem : Decoder (Option String) := fun room d => do
  let m ← Discovery.readKind? "Namespace" room d
  if schema.admits room d then Metadata.nameOf m else none

/-- The fields of a list that are not skipped. -/
def listFields : List String := ["metadata", "items"]

/-- Whether the fields of a list that nobody asked for have values. -/
def othersHaveValues (room : Nat) (members : List (String × Document)) : Bool :=
  members.all fun (key, d) => listFields.contains key || d.hasValue room

/-- Reads the names of the namespaces in a list, as far as they have names. -/
def decodeList : Decoder (List String) := fun room d => do
  let m ← Members.readObject? room d
  let known := m.fields.filter fun (key, _) => listFields.contains key
  if !(known.map Prod.fst).Nodup ∨ !othersHaveValues m.room m.fields then none
  else
    let _ ← m.withDefault "metadata" () fun room d =>
      if Metadata.listSchema.admits room d then some () else none
    let names ← m.required "items" (.nullOr [] (.list decodeItem))
    return names.filterMap id

end Namespaces

end ClusterGateway

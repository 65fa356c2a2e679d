import ClusterGateway.Object.Schema

/-!
# Metadata of objects

The part that all objects of a cluster have in common.
-/

namespace ClusterGateway

open Json FieldType

namespace Metadata

/-- An entry about the manager of some fields. -/
def managedFields : FieldType := record (
  textRecord ["apiVersion", "fieldsType", "manager", "operation", "subresource"] ++
    [("fieldsV1", any), ("time", time)])

/-- A reference to an owner. -/
def ownerReference : FieldType := record (
  textRecord ["apiVersion", "kind", "name", "uid"] ++
    [("blockOwnerDeletion", flag), ("controller", flag)])

/-- The metadata of an object. -/
def schema : FieldType := record (
  textRecord ["generateName", "name", "namespace", "resourceVersion", "selfLink", "uid"] ++
    [("annotations", textMap), ("creationTimestamp", time),
      ("deletionGracePeriodSeconds", int64), ("deletionTimestamp", time), ("finalizers", texts),
      ("generation", int64), ("labels", textMap), ("managedFields", list managedFields),
      ("ownerReferences", list ownerReference)])

/-- The metadata of a list. -/
def listSchema : FieldType := record (
  textRecord ["continue", "resourceVersion", "selfLink"] ++ [("remainingItemCount", int64)])

/-- Reads the name out of metadata. -/
def decodeName : Decoder (Option String) := fun room d => do
  let m ← Members.readObject? room d
  m.withDefault "name" none (.nullable .string)

/-- Reads the name of an object out of the object. -/
def nameOf (m : Members) : Option (Option String) :=
  m.orDefault "metadata" none decodeName

end Metadata

/-- A choice of objects by their labels. -/
def labelSelectorSchema : FieldType := record [
  ("matchExpressions", list (record (textRecord ["key", "operator"] ++ [("values", texts)]))),
  ("matchLabels", textMap)]

end ClusterGateway

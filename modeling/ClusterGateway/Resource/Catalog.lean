import ClusterGateway.Resource.Discovery

/-!
# The catalog

The kinds that can be listed, by id and in the order of their ids.  Where two entries have one
id the first stays.
-/

namespace ClusterGateway

/-- The kinds of objects of a cluster, in ascending order of their ids. -/
structure Catalog where
  /-- The descriptors. -/
  descriptors : List Descriptor
  deriving Repr, DecidableEq, Inhabited

namespace Catalog

/-- No kinds. -/
def empty : Catalog := ⟨[]⟩

/-- Puts a descriptor in its place; one that is there already stays. -/
def insertNew (d : Descriptor) : List Descriptor → List Descriptor
  | [] => [d]
  | e :: es =>
    if d.id = e.id then e :: es
    else if d.id < e.id then d :: e :: es
    else e :: insertNew d es

/-- The catalog with a descriptor, unless its id is known already. -/
def add (c : Catalog) (d : Descriptor) : Catalog := ⟨insertNew d c.descriptors⟩

/-- The catalog of descriptors in any order. -/
def ofDescriptors (ds : List Descriptor) : Catalog := ds.foldl add empty

/-- The catalog of lists of kinds. -/
def ofLists (lists : List Discovery.KindList) : Catalog :=
  ofDescriptors (lists.flatMap Discovery.KindList.descriptors)

/-- The descriptor with an id. -/
def get? (c : Catalog) (id : String) : Option Descriptor := c.descriptors.find? fun d => d.id = id

/-- The number of kinds. -/
def size (c : Catalog) : Nat := c.descriptors.length

/-- Whether there are no kinds. -/
def isEmpty (c : Catalog) : Bool := c.descriptors.isEmpty

end Catalog

end ClusterGateway

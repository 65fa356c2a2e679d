import ClusterGateway.Resource.Catalog

/-!
# The cache of the catalog

A snapshot of the catalog with the moment at which it was stored.  It counts as valid for a fixed
time; a new catalog replaces the old one as a whole.
-/

namespace ClusterGateway

/-- A moment on a clock that never goes back, in milliseconds. -/
abbrev Moment := Nat

/-- A stored catalog. -/
structure CatalogCache where
  /-- The catalog. -/
  catalog : Catalog
  /-- When it was stored. -/
  storedAt : Moment
  /-- For how many milliseconds it is valid. -/
  lifetime : Nat
  deriving Repr, DecidableEq, Inhabited

namespace CatalogCache

/-- The usual lifetime: an hour. -/
def defaultLifetime : Nat := 60 * 60 * 1000

/-- A cache that nothing was stored in yet. -/
def new (now : Moment) (lifetime : Nat) : CatalogCache := ⟨.empty, now, lifetime⟩

/-- Whether the catalog is there and not too old.  Before the moment of storing its age is
zero. -/
def isValidAt (c : CatalogCache) (now : Moment) : Bool :=
  !c.catalog.isEmpty && now - c.storedAt < c.lifetime

/-- Replaces the catalog. -/
def store (c : CatalogCache) (catalog : Catalog) (now : Moment) : CatalogCache :=
  ⟨catalog, now, c.lifetime⟩

/-- The descriptor with an id. -/
def get? (c : CatalogCache) (id : String) : Option Descriptor := c.catalog.get? id

/-- All descriptors in the order of their ids. -/
def all (c : CatalogCache) : List Descriptor := c.catalog.descriptors

/-- The number of descriptors. -/
def size (c : CatalogCache) : Nat := c.catalog.size

/-- Whether there are no descriptors. -/
def isEmpty (c : CatalogCache) : Bool := c.catalog.isEmpty

end CatalogCache

end ClusterGateway

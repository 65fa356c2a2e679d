/-!
# Keys of objects

An object of a kind is known by its namespace and its name.
-/

namespace ClusterGateway

/-- Namespace and name of an object; the namespace is empty where the kind has none. -/
structure ObjectKey where
  /-- The namespace. -/
  ns : String
  /-- The name. -/
  name : String
  deriving Repr, DecidableEq, Inhabited

namespace ObjectKey

/-- Whether a key does not come after another: namespaces first, then names. -/
def le (a b : ObjectKey) : Bool := a.ns < b.ns || (a.ns == b.ns && a.name ≤ b.name)

/-- The keys in order, each once. -/
def sorted (keys : List ObjectKey) : List ObjectKey := (keys.mergeSort le).eraseDups

end ObjectKey

end ClusterGateway

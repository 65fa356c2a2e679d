/-!
# Identities

The user and the groups that a request to the cluster is made for.
-/

namespace ClusterGateway

/-- Whom a request is made for.  Without user and groups the gateway acts in its own name. -/
structure Identity where
  /-- The user, or the empty text. -/
  user : String
  /-- The groups. -/
  groups : List String
  deriving Repr, DecidableEq, Inhabited

namespace Identity

/-- Nobody in particular. -/
def none : Identity := ⟨"", []⟩

/-- Whether nobody is impersonated. -/
def isEmpty (i : Identity) : Bool := i.user = "" && i.groups.isEmpty

end Identity

end ClusterGateway

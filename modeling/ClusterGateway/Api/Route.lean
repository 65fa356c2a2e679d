import ClusterGateway.Http.Percent
import ClusterGateway.Text.Split

/-!
# Routes of the API

Which paths the API has and which methods they answer to.
-/

namespace ClusterGateway

open Http

namespace Api

/-- A route of the API. -/
inductive Route where
  /-- Whether the cluster answers. -/
  | health
  /-- Queries. -/
  | query
  /-- Live logs. -/
  | stream
  /-- One kind, by its id with escapes. -/
  | resource (id : String)
  /-- The proxy to the API server. -/
  | proxy
  deriving Repr, DecidableEq, Inhabited

namespace Route

/-- The place of the proxy. -/
def proxyPlace : String := "/proxy"

/-- The part of a path below a place; none if there is none. -/
def below? (place path : String) : Option String :=
  (Text.after? (place ++ "/") path).filter (· ≠ "")

/-- The route of a path. -/
def ofPath? (path : String) : Option Route :=
  if path = "/health" then some health
  else if path = "/query" then some query
  else if path = "/stream" then some stream
  else match below? "/resources" path with
    | some id => if id.toList.contains '/' then none else some (resource id)
    | none => (below? proxyPlace path).map fun _ => proxy

/-- The methods of a route as a header lists them; none for all methods. -/
def methods? : Route → Option (List String)
  | health | resource _ => some ["GET", "HEAD"]
  | query | stream => some ["POST"]
  | proxy => none

/-- Whether a route answers to a method. -/
def answersTo (route : Route) (method : String) : Bool :=
  route.methods?.all fun methods => methods.contains method

end Route

end Api

end ClusterGateway

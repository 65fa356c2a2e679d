import ClusterGateway.Identity.Impersonation
import ClusterGateway.Text.Blank
import ClusterGateway.Text.Split

/-!
# Headers through a proxy

Which headers travel.  Those that concern a single connection stay behind on both ways, except
`connection` and `upgrade` of a request that asks for another protocol; so do the credentials of
the caller and everything that says whom a request is made for.
-/

namespace ClusterGateway

open Http

namespace Proxy

/-- The headers that concern a single connection. -/
def connectionHeaders : List String :=
  ["connection", "keep-alive", "proxy-connection", "te", "trailer", "transfer-encoding", "upgrade"]

/-- The headers that a change of protocol needs. -/
def upgradeHeaders : List String := ["connection", "upgrade"]

/-- The credentials of the caller. -/
def credentialHeaders : List String := ["authorization", "proxy-authorization", "cookie"]

/-- The headers that belong to the address and the body of a message. -/
def framingHeaders : List String := ["host", "content-length"]

/-- Whether a list between commas has the entry `upgrade`. -/
def namesUpgrade (list : String) : Bool :=
  (Text.pieces ',' list).any fun entry => lowerName (Text.trim entry) = "upgrade"

/-- Whether a request asks for another protocol. -/
def isUpgrade (h : Headers) : Bool :=
  h.has "upgrade" && (h.values "connection").any fun value => (visibleText? value).any namesUpgrade

/-- Whether a header of a request travels to the API server. -/
def travels (upgrade : Bool) (name : String) : Bool :=
  !framingHeaders.contains name && !credentialHeaders.contains name &&
    !Impersonation.isHeader name &&
    (!connectionHeaders.contains name || (upgrade && upgradeHeaders.contains name))

/-- The headers of a request that travel to the API server. -/
def forwarded (h : Headers) : Headers := h.keep (travels (isUpgrade h))

/-- The headers of an answer that travel back to the caller. -/
def returned (h : Headers) : Headers := h.keep fun name => !connectionHeaders.contains name

/-- Where a request stands in a trace. -/
structure TraceContext where
  /-- The position in the trace. -/
  parent : String
  /-- What the systems on the way know of it. -/
  state : String
  deriving Repr, DecidableEq, Inhabited

/-- Writes a header whose value may be a header value. -/
def setText (h : Headers) (name value : String) : Headers :=
  match valueOfText? value with
  | some bs => h.set name bs
  | none => h

/-- The headers of a request that belongs to a trace. -/
def traced (h : Headers) : Option TraceContext → Headers
  | none => h
  | some t => setText (setText h "traceparent" t.parent) "tracestate" t.state

end Proxy

end ClusterGateway

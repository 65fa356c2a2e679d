import ClusterGateway.Cluster.Exchange
import ClusterGateway.Proxy.Headers

/-!
# Forwarding requests

A proxy passes a request on to the API server in the name of the caller and the answer back.  It
reads the whole body first, up to a limit.  What goes wrong is answered with 413 when the body is
too large and with 502 otherwise.
-/

namespace ClusterGateway

open Http

/-- A proxy in front of the API server. -/
structure Proxy where
  /-- The greatest size of a body. -/
  bodyLimit : Nat
  /-- The trace that its requests belong to. -/
  trace : Option Proxy.TraceContext
  deriving Repr, DecidableEq, Inhabited

namespace Proxy

/-- The usual limit: 16 MiB. -/
def defaultBodyLimit : Nat := 16 * 1024 * 1024

/-- Why a request is not passed on. -/
inductive Refusal where
  /-- The body is larger than allowed. -/
  | tooLarge (limit : Nat)
  /-- Anything else. -/
  | failed
  deriving Repr, DecidableEq, Inhabited

namespace Refusal

/-- What the caller is told. -/
def response : Refusal → Response
  | tooLarge limit => .text 413 ("request body exceeds " ++ toString limit ++ " bytes")
  | failed => .text 502 "Client request failed"

end Refusal

/-! ### The request -/

/-- The number of decimal digits, which a plus sign may precede; none if it is not below
`2 ^ 64`. -/
def length? (s : String) : Option Nat :=
  let digits := match s.toList with
    | '+' :: cs => cs
    | cs => cs
  if digits ≠ [] ∧ digits.all Char.isDigit then
    let n := digits.foldl (fun n c => 10 * n + (c.toNat - 48)) 0
    if n < Nat.pow 2 64 then some n else none
  else none

/-- The size of the body that the headers announce. -/
def declaredLength? (h : Headers) : Option Nat :=
  ((h.first? "content-length").bind visibleText?).bind length?

/-- The octets of a body within the limit.  Its end is waited for without a limit of time, so that
for a body that never ends this is what comes of it when its connection breaks at last. -/
def readBody (limit : Nat) (b : Body) : Except Refusal Bytes :=
  if limit < b.octets.length then .error (.tooLarge limit)
  else match b.whole? with
    | some bs => .ok bs
    | none => .error .failed

/-- The value of what may be missing. -/
def orFailed {α : Type} : Option α → Except Refusal α
  | some a => .ok a
  | none => .error .failed

/-- The request that is passed on. -/
def outbound (p : Proxy) (identity : Identity) (target : String) (r : InboundRequest) :
    Except Refusal Request := do
  let uri ← orFailed (Uri.parse? target)
  if (declaredLength? r.headers).any (p.bodyLimit < ·) then .error (.tooLarge p.bodyLimit)
  else
    let headers ← orFailed (Impersonation.headersFor? (forwarded r.headers) identity)
    let body ← readBody p.bodyLimit r.body
    return ⟨r.method, uri, traced headers p.trace, body⟩

/-! ### The answer -/

/-- The answer that is passed back. -/
def inbound : Option Response → Response
  | none => Refusal.failed.response
  | some r => if r.status = 101 then r else { r with headers := returned r.headers }

/-- Passes a request on to a target in somebody's name. -/
def forward (p : Proxy) (identity : Identity) (target : String) (r : InboundRequest) :
    Dialogue Response :=
  match p.outbound identity target r with
  | .error refusal => .done refusal.response
  | .ok request => (Dialogue.request request).bind fun answer => .done (inbound answer)

/-- The target of a request whose path starts with the place where the proxy is. -/
def targetOf (place : String) (uri : Uri) : String :=
  let path := (Text.after? place uri.path).getD uri.path
  (if path = "" then "/" else path) ++ match uri.query with
    | some query => "?" ++ query
    | none => ""

end Proxy

end ClusterGateway

import ClusterGateway.Http.Headers
import ClusterGateway.Http.Uri

/-!
# Messages

Requests and responses.  A body arrives in pieces and may break off or never end, which matters
to a reader that does not wait for the end; `Body.whole?` is what a reader gets that does.
-/

namespace ClusterGateway

namespace Http

/-- How a body ends. -/
inductive Ending where
  /-- The body is complete. -/
  | complete
  /-- Reading fails after the last piece. -/
  | broken
  /-- Nothing ever comes after the last piece: whoever waits for the end waits for ever. -/
  | hanging
  deriving Repr, DecidableEq, Inhabited

/-- The body of a message. -/
structure Body where
  /-- The pieces, in the order in which they arrive. -/
  pieces : List Bytes
  /-- What comes after the last piece. -/
  ending : Ending
  deriving Repr, DecidableEq, Inhabited

namespace Body

/-- A complete body. -/
def ofBytes (bs : Bytes) : Body := ⟨if bs = [] then [] else [bs], .complete⟩

/-- A body without octets. -/
def empty : Body := ⟨[], .complete⟩

/-- The body of a text. -/
def ofText (s : String) : Body := ofBytes (Utf8.encode s)

/-- All octets that arrive. -/
def octets (b : Body) : Bytes := b.pieces.flatten

/-- The octets of a body that is complete. -/
def whole? (b : Body) : Option Bytes := if b.ending = .complete then some b.octets else none

@[simp] theorem octets_ofBytes (bs : Bytes) : (ofBytes bs).octets = bs := by
  by_cases h : bs = [] <;> simp [ofBytes, octets, h]

@[simp] theorem whole?_ofBytes (bs : Bytes) : (ofBytes bs).whole? = some bs := by
  rw [whole?, octets_ofBytes]
  simp [ofBytes]

end Body

/-- A request as it is sent. -/
structure Request where
  /-- The method. -/
  method : String
  /-- The address. -/
  uri : Uri
  /-- The headers. -/
  headers : Headers
  /-- The body. -/
  body : Bytes
  deriving Repr, DecidableEq, Inhabited

/-- A request as it arrives. -/
structure InboundRequest where
  /-- The method. -/
  method : String
  /-- The address. -/
  uri : Uri
  /-- The headers. -/
  headers : Headers
  /-- The body. -/
  body : Body
  deriving Repr, DecidableEq, Inhabited

/-- An answer to a request. -/
structure Response where
  /-- The status code. -/
  status : Nat
  /-- The headers. -/
  headers : Headers
  /-- The body. -/
  body : Body
  deriving Repr, DecidableEq, Inhabited

namespace Response

/-- A response with nothing but a status. -/
def bare (status : Nat) : Response := ⟨status, .empty, .empty⟩

/-- A response with a content type. -/
def withType (status : Nat) (type content : String) : Response :=
  ⟨status, .ofList [("content-type", Utf8.encode type)], .ofText content⟩

/-- A response that is a plain text. -/
def text (status : Nat) (content : String) : Response :=
  withType status "text/plain; charset=utf-8" content

/-- A response that is JSON. -/
def json (status : Nat) (content : String) : Response :=
  withType status "application/json" content

end Response

end Http

end ClusterGateway

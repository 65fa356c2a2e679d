import ClusterGateway.Http.MediaType
import ClusterGateway.Http.Message
import ClusterGateway.Json.Fault

/-!
# JSON bodies of requests

A request that carries JSON has to say so in its headers, and its body has to be readable, not too
large, JSON, and what is asked for; the first of these that does not hold is what the caller is
told.
-/

namespace ClusterGateway

open Http Json

namespace Api

/-- Why the body of a request is refused. -/
inductive BodyError where
  /-- The headers do not say that it is JSON. -/
  | notAnnounced
  /-- It is larger than allowed. -/
  | tooLarge
  /-- It breaks off. -/
  | unreadable
  /-- It is not JSON, or does not fit. -/
  | fault (f : Fault)
  deriving Repr, DecidableEq, Inhabited

namespace BodyError

/-- What the caller is told.  Of a body that breaks off or does not mean anything, the text goes on
with the words of the transport or of the parser, which are left out. -/
def response : BodyError → Response
  | notAnnounced => .text 415 "Expected request with `Content-Type: application/json`"
  | tooLarge => .text 413 "Failed to buffer the request body: length limit exceeded"
  | unreadable => .text 400 "Failed to buffer the request body: broken"
  | fault .notJson => .text 400 "Failed to parse the request body as JSON"
  | fault .unfit => .text 422 "Failed to deserialize the JSON body into the target type"

end BodyError

/-- The greatest size of a body: 2 MiB. -/
def bodyLimit : Nat := 2 * 1024 * 1024

/-- The octets of a JSON body.  Its end is waited for without a limit of time, so that for a body
that never ends this is what comes of it when its connection breaks at last. -/
def jsonBody (r : InboundRequest) : Except BodyError Bytes :=
  if !(r.headers.mediaType?).any MediaType.isJson then .error .notAnnounced
  else if bodyLimit < r.body.octets.length then .error .tooLarge
  else match r.body.whole? with
    | some bs => .ok bs
    | none => .error .unreadable

/-- What a JSON body means. -/
def readBody {α : Type} (read : Bytes → Except Fault α) (r : InboundRequest) :
    Except BodyError α := do
  let bs ← jsonBody r
  (read bs).mapError .fault

end Api

end ClusterGateway

import ClusterGateway.Cluster.Dialogue
import ClusterGateway.Identity.Impersonation
import ClusterGateway.Json.Decode

/-!
# Exchanges with the API server

How one request is made and its answer read.  `Exchange.fetchAs` asks for a text in somebody's
name; no other function of the library reads an object of the cluster.  `Exchange.read` is for
what the gateway has to know for itself and carries no identity.  An answer with a status of 400
to 599 is a failure, and its body says which (`GatewayError.ofAnswer`).
-/

namespace ClusterGateway

open Http

namespace ApiFailure

open Json

/-- Reads the body of a failure. -/
def decode : Decoder ApiFailure := fun room d => do
  let m ← Members.read? ["status", "message", "reason", "code"] room d
  let status ← m.required "status" .string
  let message ← m.withDefault "message" "" .string
  let reason ← m.withDefault "reason" "" .string
  let code ← m.required "code" (.nat 16)
  return ⟨status, message, reason, code⟩

/-- The failure that stands for a body that does not tell of one. -/
def ofPlainText (status : Nat) (body : String) : ApiFailure :=
  ⟨statusLine status, Text.quoted body, "Failed to parse error data", status⟩

end ApiFailure

namespace GatewayError

/-- The error that an answer with a failure status and a body means. -/
def ofAnswer (status : Nat) (body : Bytes) : GatewayError :=
  match Utf8.decode? body with
  | none => .exchange .notText
  | some text => .api ((ApiFailure.decode.parse? text).getD (.ofPlainText status text))

end GatewayError

namespace Exchange

/-! ### Answers -/

/-- The text of an answer. -/
def textOf : Option Response → Except GatewayError String
  | none => .error (.exchange .transport)
  | some r =>
    match r.body.whole? with
    | none => .error (.exchange .transport)
    | some body =>
      if isFailure r.status then .error (.ofAnswer r.status body)
      else match Utf8.decode? body with
        | some text => .ok text
        | none => .error (.exchange .notText)

/-- The body of an answer, as it arrives; none for a failure. -/
def bodyOf? : Option Response → Option Body
  | none => none
  | some r => if isFailure r.status then none else some r.body

/-! ### Requests -/

/-- A request for the content of an address. -/
def get (uri : Uri) (headers : Headers) : Request := ⟨"GET", uri, headers, []⟩

/-- The same request in somebody's name. -/
def inNameOf? (identity : Identity) (r : Request) : Option Request :=
  (Impersonation.headersFor? r.headers identity).map fun headers => { r with headers := headers }

/-- The text at an address, asked for in somebody's name. -/
def fetchAs (identity : Identity) (uri : Uri) (headers : Headers) : Operation String := do
  let r ← Operation.orElse .invalidIdentity (inNameOf? identity (get uri headers))
  let answer ← Operation.ofDialogue (.request r)
  Operation.ofExcept (textOf answer)

/-- The headers that ask for a form of the content. -/
def acceptHeaders? : Option String → Option Headers
  | none => some .empty
  | some form => (valueOfText? form).map fun value => Headers.empty.append "accept" value

/-- The text at a written address, asked for in somebody's name and perhaps in a certain form. -/
def getText (identity : Identity) (address : String) (form : Option String) : Operation String := do
  let uri ← Operation.orElse .badUri (Uri.parse? address)
  let headers ← Operation.orElse .badUri (acceptHeaders? form)
  fetchAs identity uri headers

/-- What the gateway itself reads at a written address. -/
def read {α : Type} (decode : Json.Decoder α) (address : String) : Operation α := do
  let uri ← Operation.orElse .badUri (Uri.parse? address)
  let answer ← Operation.ofDialogue (.request (get uri .empty))
  let text ← Operation.ofExcept (textOf answer)
  Operation.orElse (.exchange .undecodable) (decode.parse? text)

end Exchange

end ClusterGateway

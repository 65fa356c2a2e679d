import ClusterGateway.Error
import ClusterGateway.Http.Message
import ClusterGateway.Identity.Resolver
import ClusterGateway.Json.Value

/-!
# What the gateway answers to failures

A failure is answered with its HTTP status and a JSON object that holds its text.
-/

namespace ClusterGateway

open Http Json

/-- Why the gateway does not serve a caller. -/
inductive ServiceError where
  /-- Nobody could be made out as the caller. -/
  | identity (error : IdentityError)
  /-- The operation failed. -/
  | gateway (error : GatewayError)
  /-- The caller may not read what was asked for. -/
  | permissionDenied (reason : String)
  deriving Repr, DecidableEq

namespace ServiceError

/-- The text of an error; see `GatewayError.message` for how much of it is told. -/
def message : ServiceError → String
  | identity e => e.message
  | gateway e => e.message
  | permissionDenied reason => "permission denied: " ++ reason

/-- The HTTP status under which an error is answered. -/
def status : ServiceError → Nat
  | identity e => e.status
  | gateway e => e.status
  | permissionDenied _ => 403

/-- The answer to a request that fails. -/
def response (e : ServiceError) : Response :=
  .json e.status (Value.object [("error", .string e.message)]).render

end ServiceError

end ClusterGateway

import ClusterGateway.Http.Status
import ClusterGateway.Text.Quoted

/-!
# What can go wrong

The causes for which an operation of the gateway fails, the text of each and the HTTP status
under which it is answered.

Some causes are told by others: by the parsers of patterns, paths and JSON, by the builder of
requests, by the transport, by the loaders of configurations.  Their words follow the texts given
here after a colon, and are left out.
-/

namespace ClusterGateway

/-- A failure that the API server answered with. -/
structure ApiFailure where
  /-- The status field of the answer. -/
  status : String
  /-- The message for the user. -/
  message : String
  /-- The machine-readable reason. -/
  reason : String
  /-- The code, a number of 16 bits. -/
  code : Nat
  deriving Repr, DecidableEq, Inhabited

namespace ApiFailure

/-- The text of a failure. -/
def text (f : ApiFailure) : String :=
  "ApiError: " ++ f.message ++ ": " ++ f.reason ++ " (ErrorResponse \x7b status: " ++
    Text.quoted f.status ++ ", message: " ++ Text.quoted f.message ++ ", reason: " ++
    Text.quoted f.reason ++ ", code: " ++ toString f.code ++ " \x7d)"

end ApiFailure

/-- Why a request to the API server has no usable answer. -/
inductive ExchangeError where
  /-- The connection broke. -/
  | transport
  /-- The answer is no text. -/
  | notText
  /-- The answer is no document of the expected kind. -/
  | undecodable
  deriving Repr, DecidableEq

namespace ExchangeError

/-- The text of the error, up to the words of the transport or of the decoder. -/
def text : ExchangeError → String
  | transport => "ServiceError"
  | notText => "UTF-8 Error"
  | undecodable => "Error deserializing response"

end ExchangeError

/-- Why an operation of the gateway fails. -/
inductive GatewayError where
  /-- The id of the resource is not known. -/
  | notFound (id : String)
  /-- Discovery found nothing. -/
  | discoveryEmpty
  /-- A pattern is no regular expression. -/
  | invalidRegex
  /-- An expression is no JSONPath. -/
  | invalidJsonPath (path : String)
  /-- A label selector cannot be written as text. -/
  | invalidSelector (reason : String)
  /-- A user or group cannot be the value of a header. -/
  | invalidIdentity
  /-- A row of a table does not say which object it shows. -/
  | rowWithoutMetadata
  /-- An answer of the API server does not fit what was asked for. -/
  | malformed
  /-- The name of an object is empty or the address of an object is no URI. -/
  | badObjectRequest
  /-- The address of a list is no URI. -/
  | badUri
  /-- The API server answered with a failure. -/
  | api (failure : ApiFailure)
  /-- The exchange with the API server failed. -/
  | exchange (error : ExchangeError)
  /-- The kubeconfig cannot be used. -/
  | kubeconfig
  /-- The gateway does not run in a cluster. -/
  | notInCluster
  deriving Repr, DecidableEq

namespace GatewayError

/-- The text of an error.  It is the whole text for kinds that are not known, empty discoveries,
selectors, identities, rows without metadata and failures that the API server tells; the other texts
go on with the words of the cause. -/
def message : GatewayError → String
  | notFound id => "resource " ++ id ++ " not found"
  | discoveryEmpty => "no API resources discovered"
  | invalidRegex => "invalid regular expression"
  | invalidJsonPath path => "invalid JSONPath `" ++ path ++ "`"
  | invalidSelector reason => "invalid label selector: " ++ reason
  | invalidIdentity => "invalid impersonation header value: failed to parse header value"
  | rowWithoutMetadata =>
    "malformed response from the API server: table row without object metadata"
  | malformed => "malformed response from the API server"
  | badObjectRequest => "failed to build request"
  | badUri => "failed to build request"
  | api failure => failure.text
  | exchange error => error.text
  | kubeconfig => "failed to load kubeconfig"
  | notInCluster => "failed to load in-cluster configuration"

/-- Whether the error says that the thing asked for does not exist. -/
def isNotFound : GatewayError → Bool
  | notFound _ => true
  | api failure => failure.code == 404
  | _ => false

/-- The HTTP status under which the error is answered. -/
def status : GatewayError → Nat
  | notFound _ => 404
  | invalidRegex | invalidJsonPath _ | invalidSelector _ | invalidIdentity => 400
  | discoveryEmpty | rowWithoutMetadata | malformed | exchange _ => 502
  | api failure => if Http.isStatusCode failure.code then failure.code else 502
  | badObjectRequest | badUri | kubeconfig | notInCluster => 500

end GatewayError

end ClusterGateway

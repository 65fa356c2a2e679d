import ClusterGateway.Json.Fault
import ClusterGateway.Query.Basic

/-!
# Queries as they arrive

A query arrives as octets.  A text that is refused is not JSON or is no query, whichever its reader
notices first.
-/

namespace ClusterGateway

open Json

/-- What a reader of an instant asks for. -/
def Instant.shape : Shape := .leaf fun d => (Instant.decode 0 d).isSome

/-- What a reader of a window asks for. -/
def TimeRange.shape : Shape := .record [("from", true, Instant.shape), ("to", true, Instant.shape)]

namespace LogsQuery

/-- What a reader of a query for logs asks for. -/
def shape : Shape := .record [
  ("resource", false, .text), ("namespace", false, .text), ("name", false, .text),
  ("container", false, .text), ("filter", false, .text),
  ("tail", false, .leaf fun d => (Decoder.int64 0 d).isSome), ("previous", false, .flag),
  ("timeRange", false, .nullable TimeRange.shape)]

/-- The query that octets write. -/
def ofBytes (bs : Bytes) : Except Fault LogsQuery := readBytes decode shape bs

end LogsQuery

namespace Query

/-- The texts that say which query it is. -/
def kinds : List String := ["kubernetes-resourceids", "kubernetes-namespaces",
  "kubernetes-resources", "kubernetes-containers", "kubernetes-logs"]

/-- What a reader of a query asks for. -/
def shape : Shape := .tagged "queryType" kinds

/-- The query that octets write. -/
def ofBytes (bs : Bytes) : Except Fault Query := readBytes decode shape bs

end Query

end ClusterGateway

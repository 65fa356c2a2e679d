import ClusterGateway.Api.Body
import ClusterGateway.Api.Route
import ClusterGateway.Gateway.Basic
import ClusterGateway.Query.Shape

/-!
# The API of the gateway

Queries are answered with JSON, live logs with a stream of events, and everything below `/proxy`
is passed on to the API server.  The body of a query is read before the caller is made out.
-/

namespace ClusterGateway

open Http Json

namespace Api

/-! ### Answers -/

/-- The answer to a path that the API does not have. -/
def notFound : Response := .bare 404

/-- The answer to a method that a path does not have. -/
def methodNotAllowed (methods : List String) : Response :=
  ⟨405, .ofList [("allow", Utf8.encode (",".intercalate methods))], .empty⟩

/-- The event of a line. -/
def event (l : LogLine) : Bytes := Utf8.encode ("data: " ++ l.encode.render ++ "\n\n")

/-- The answer that streams lines. -/
def eventStream (lines : List LogLine) : Response :=
  ⟨200, .ofList [("content-type", Utf8.encode "text/event-stream"),
    ("cache-control", Utf8.encode "no-cache")], ⟨lines.map event, .complete⟩⟩

/-- The answer to an operation. -/
def respond {α : Type} (encode : α → Value) : Except GatewayError α → Response
  | .ok a => .json 200 (encode a).render
  | .error e => (ServiceError.gateway e).response

/-- Whether the answer to a request has no body: one to `HEAD` never has, one to `CONNECT` only if
it is no success. -/
def isBodyless (method : String) (r : Response) : Bool :=
  method = "HEAD" || (method = "CONNECT" && 200 ≤ r.status && r.status < 300)

/-- The answer as it goes out to a request with a method. -/
def finish (method : String) (r : Response) : Response :=
  if isBodyless method r then { r with body := .empty } else r

/-! ### Handlers -/

/-- Whether the cluster answers. -/
def serveHealth : Dialogue Response :=
  Gateway.health.attempt.bind fun answer => .done (match answer with
    | .ok () => .text 200 "ok"
    | .error e => .text 503 e.message)

/-- Goes on with the caller of a request, or answers that there is none. -/
def withCaller (g : Gateway) (r : InboundRequest) (serve : Identity → Dialogue Response) :
    Dialogue Response :=
  match g.identify r.headers with
  | .ok identity => serve identity
  | .error e => .done (ServiceError.identity e).response

/-- Answers a query. -/
def serveQuery (g : Gateway) (r : InboundRequest) : Dialogue Response :=
  match readBody Query.ofBytes r with
  | .error e => .done e.response
  | .ok q => withCaller g r fun identity =>
    (Gateway.query identity q).attempt.bind fun answer => .done (respond QueryAnswer.encode answer)

/-- The lines of a live stream whose reader takes all of them; none if it cannot be opened. -/
def streamLines (identity : Identity) (q : LogsQuery) : Dialogue (List LogLine) :=
  (Gateway.follow identity q .accepting () false).attempt.bind fun answer =>
    .done (match answer with
      | .ok lines => lines
      | .error _ => [])

/-- Streams live logs. -/
def serveStream (g : Gateway) (r : InboundRequest) : Dialogue Response :=
  match readBody LogsQuery.ofBytes r with
  | .error e => .done e.response
  | .ok q => withCaller g r fun identity =>
    (Gateway.mayFollow identity q).bind fun allowed => match allowed with
      | .error e => .done e.response
      | .ok () => (streamLines identity q).bind fun lines => .done (eventStream lines)

/-- Answers with one kind. -/
def serveResource (id : String) : Dialogue Response :=
  match Utf8.decode? (Percent.decode (Utf8.encode id)) with
  | none => .done (.text 400 "Invalid URL: Invalid UTF-8 in `id`")
  | some id => (Lookup.find id).attempt.bind fun answer => .done (respond Descriptor.encode answer)

/-- Passes a request on to the API server. -/
def serveProxy (g : Gateway) (place : String) (r : InboundRequest) : Dialogue Response :=
  withCaller g r fun identity => g.proxy.forward identity (Proxy.targetOf place r.uri) r

/-- Answers a request on a route. -/
def serve (g : Gateway) (r : InboundRequest) : Route → Dialogue Response
  | .health => serveHealth
  | .query => serveQuery g r
  | .stream => serveStream g r
  | .resource id => serveResource id
  | .proxy => serveProxy g Route.proxyPlace r

/-- Answers a request. -/
def answer (g : Gateway) (r : InboundRequest) : Dialogue Response :=
  match Route.ofPath? r.uri.path with
  | none => .done notFound
  | some route =>
    if route.answersTo r.method then
      (serve g r route).bind fun response => .done (finish r.method response)
    else .done (finish r.method (methodNotAllowed (route.methods?.getD [])))

end Api

/-- The companion of the API: a second listener that passes every request on to the API server. -/
def Companion.answer (g : Gateway) (r : InboundRequest) : Dialogue Response :=
  (Api.serveProxy g "" r).bind fun response => .done (Api.finish r.method response)

end ClusterGateway

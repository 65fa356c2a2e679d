import ClusterGateway.Proofs.Api.Admission
import ClusterGateway.Proofs.Gateway.Failures

/-!
# How failures are answered

Queries, live logs and single kinds have handlers that can end in an error (`Api.Handler`).  A
request whose body or path cannot be read is rejected before that, and a handler that ends well
serves an answer (`Api.Ending`).

* `Api.answer_eq` : what is answered to a request is what its handler comes to.
* `Api.failures_are_answered` : **a handler that ends in an error is answered with the status of a
  failure**, with one exception: the error of a query is a failure that the API server has told of
  with a code that is a status, but none of a failure.  This code is then the status of the answer.
* `Api.failures_are_answered_asSuccess` : such a query is answered with 200.
-/

namespace ClusterGateway

open Http Json

namespace Api

/-- A handler that can end in an error. -/
inductive Handler where
  /-- Of queries. -/
  | query
  /-- Of live logs. -/
  | stream
  /-- Of one kind, by its id with escapes. -/
  | resource (id : String)
  deriving Repr, DecidableEq

/-- How a handler ends. -/
inductive Ending where
  /-- What is asked for cannot be read. -/
  | rejected (response : Response)
  /-- It ends in an error. -/
  | failed (e : ServiceError)
  /-- It ends well. -/
  | served (response : Response)
  deriving Repr, DecidableEq

namespace Ending

/-- What is answered. -/
def response : Ending → Response
  | rejected response => response
  | failed e => e.response
  | served response => response

/-- The end of an operation. -/
def ofResult {α : Type} (encode : α → Value) : Except GatewayError α → Ending
  | .ok a => served (.json 200 (encode a).render)
  | .error e => failed (.gateway e)

theorem response_ofResult {α : Type} (encode : α → Value) (result : Except GatewayError α) :
    (ofResult encode result).response = respond encode result := by
  cases result <;> rfl

end Ending

namespace Handler

/-- The route of a handler. -/
def route : Handler → Route
  | query => .query
  | stream => .stream
  | resource id => .resource id

/-- Goes on with the caller of a request. -/
def forCaller (g : Gateway) (r : InboundRequest) (serve : Identity → Dialogue Ending) :
    Dialogue Ending :=
  match g.identify r.headers with
  | .ok identity => serve identity
  | .error e => .done (.failed (.identity e))

/-- Handles a query. -/
def endQuery (identity : Identity) (q : Query) : Dialogue Ending :=
  (Gateway.query identity q).attempt.bind fun result => .done (.ofResult QueryAnswer.encode result)

/-- Handles a query for live logs. -/
def endStream (identity : Identity) (q : LogsQuery) : Dialogue Ending :=
  (Gateway.mayFollow identity q).bind fun allowed => match allowed with
    | .error e => .done (.failed e)
    | .ok () => (streamLines identity q).bind fun lines => .done (.served (eventStream lines))

/-- What a handler comes to. -/
def ending (g : Gateway) (r : InboundRequest) : Handler → Dialogue Ending
  | query => match readBody Query.ofBytes r with
    | .error e => .done (.rejected e.response)
    | .ok q => forCaller g r fun identity => endQuery identity q
  | stream => match readBody LogsQuery.ofBytes r with
    | .error e => .done (.rejected e.response)
    | .ok q => forCaller g r fun identity => endStream identity q
  | resource id => match Utf8.decode? (Percent.decode (Utf8.encode id)) with
    | none => .done (.rejected (.text 400 "Invalid URL: Invalid UTF-8 in `id`"))
    | some id => (Lookup.find id).attempt.bind fun result =>
      .done (.ofResult Descriptor.encode result)

end Handler

/-! ### Handlers of the API -/

section Answer

variable {g : Gateway} {r : InboundRequest} {h : Handler}

theorem withCaller_eq (serve : Identity → Dialogue Response) (ending : Identity → Dialogue Ending)
    (hserve : ∀ identity, serve identity =
      (ending identity).bind fun ending => .done ending.response) :
    withCaller g r serve =
      (Handler.forCaller g r ending).bind fun ending => .done ending.response := by
  rw [withCaller, Handler.forCaller]
  cases g.identify r.headers with
  | ok identity => exact hserve identity
  | error e => rfl

theorem serve_eq : serve g r h.route =
    (h.ending g r).bind fun ending => .done ending.response := by
  cases h with
  | query =>
    change serveQuery g r = _
    rw [serveQuery, Handler.ending]
    cases readBody Query.ofBytes r with
    | error e => rfl
    | ok q =>
      refine withCaller_eq _ _ fun identity => ?_
      rw [Handler.endQuery, Dialogue.bind_assoc]
      simp [Ending.response_ofResult]
  | stream =>
    change serveStream g r = _
    rw [serveStream, Handler.ending]
    cases readBody LogsQuery.ofBytes r with
    | error e => rfl
    | ok q =>
      refine withCaller_eq _ _ fun identity => ?_
      rw [Handler.endStream, Dialogue.bind_assoc]
      congr 1
      funext allowed
      cases allowed with
      | error e => rfl
      | ok u =>
        -- the lines come after the check, so that the response is one step further away
        change (streamLines identity q).bind _ = ((streamLines identity q).bind _).bind _
        rw [Dialogue.bind_assoc]
        rfl
  | resource id =>
    change serveResource id = _
    rw [serveResource, Handler.ending]
    cases Utf8.decode? (Percent.decode (Utf8.encode id)) with
    | none => rfl
    | some id =>
      dsimp only
      rw [Dialogue.bind_assoc]
      simp [Ending.response_ofResult]

/-- **What is answered to a request is what its handler comes to.** -/
theorem answer_eq (hroute : Route.ofPath? r.uri.path = some h.route)
    (hmethod : h.route.answersTo r.method = true) : answer g r =
      (h.ending g r).bind fun ending => .done (finish r.method ending.response) := by
  rw [answer, hroute]
  simp only [hmethod, if_true]
  rw [serve_eq, Dialogue.bind_assoc]
  rfl

end Answer

/-! ### Endings -/

/-- What is known of the end of a handler after its exchanges with the API server. -/
structure Handler.Ends (h : Handler) (xs : List Exchanged) (ending : Ending) : Prop where
  /-- An error has the status of a failure, or it is a misleading failure that the API server has
  told of, and a query has met it. -/
  failed {e : ServiceError} : ending = .failed e → isFailure e.status = true ∨
    ∃ f, h = .query ∧ e = .gateway (.api f) ∧ e.status = f.code ∧ f.IsMisleading ∧ f.ToldIn xs
  /-- A request that cannot be read is a failure of the caller. -/
  rejected {response : Response} : ending = .rejected response → isFailure response.status = true
  /-- What is served is a success. -/
  served {response : Response} : ending = .served response → response.status = 200

namespace Handler

variable {g : Gateway} {r : InboundRequest} {h : Handler} {past : List Exchanged}

theorem ends_failed {e : ServiceError} (he : isFailure e.status = true) :
    h.Ends past (.failed e) where
  failed hfailed := by
    cases hfailed
    exact .inl he
  rejected := nofun
  served := nofun

theorem ends_rejected {response : Response} (hr : isFailure response.status = true) :
    h.Ends past (.rejected response) where
  failed := nofun
  rejected hrejected := by
    cases hrejected
    exact hr
  served := nofun

theorem ends_served {response : Response} (hr : response.status = 200) :
    h.Ends past (.served response) where
  failed := nofun
  rejected := nofun
  served hserved := by
    cases hserved
    exact hr

theorem isFailure_status_bodyError (e : BodyError) : isFailure e.response.status = true := by
  cases e with
  | fault f => cases f <;> rfl
  | notAnnounced | tooLarge | unreadable => rfl

theorem isFailure_status_identityError (e : IdentityError) :
    isFailure (ServiceError.identity e).status = true := by
  cases e <;> rfl

theorem meets_forCaller {serve : Identity → Dialogue Ending}
    (hserve : ∀ identity, (serve identity).Meets .free h.Ends past) :
    (forCaller g r serve).Meets .free h.Ends past := by
  rw [forCaller]
  split
  · exact hserve _
  · exact ends_failed (isFailure_status_identityError _)

theorem meets_endQuery (identity : Identity) (q : Query) :
    (endQuery identity q).Meets .free Handler.query.Ends past := by
  rw [endQuery, Dialogue.meets_bind]
  refine (Operation.failsWith_iff.1 (Gateway.failsWith_query identity q)).imp
    fun later result _ hresult => ?_
  cases result with
  | ok answer => exact ends_served rfl
  | error e =>
    obtain hfailure | ⟨f, rfl, hmisleading, htold⟩ := hresult e rfl
    · exact ends_failed hfailure
    · refine ⟨fun hfailed => ?_, nofun, nofun⟩
      cases hfailed
      exact .inr ⟨f, rfl, rfl, if_pos hmisleading.1, hmisleading, htold⟩

theorem meets_endStream (identity : Identity) (q : LogsQuery) :
    (endStream identity q).Meets .free Handler.stream.Ends past := by
  rw [endStream, Dialogue.meets_bind, Gateway.mayFollow, Dialogue.meets_bind]
  refine (Dialogue.meets_free _ past).imp fun later result _ _ => ?_
  cases result with
  | error e => exact ends_failed rfl
  | ok names =>
    change Dialogue.Meets .free _ ((streamLines identity q).bind _) later
    rw [Dialogue.meets_bind]
    exact (Dialogue.meets_free _ later).imp fun _ _ _ _ => ends_served rfl

/-- **How handlers end.** -/
theorem meets_ending (g : Gateway) (r : InboundRequest) (h : Handler) :
    (h.ending g r).Meets .free h.Ends past := by
  cases h with
  | query =>
    rw [ending]
    split
    · exact ends_rejected (isFailure_status_bodyError _)
    · exact meets_forCaller fun identity => meets_endQuery identity _
  | stream =>
    rw [ending]
    split
    · exact ends_rejected (isFailure_status_bodyError _)
    · exact meets_forCaller fun identity => meets_endStream identity _
  | resource id =>
    rw [ending]
    split
    · exact ends_rejected rfl
    · rename_i id _
      rw [Dialogue.meets_bind]
      refine (Operation.failsWith_iff.1 (Lookup.failsWith_find id)).imp fun _ result _ hresult => ?_
      cases result with
      | ok d => exact ends_served rfl
      | error e => exact ends_failed (hresult e rfl).isFailure_status

end Handler

/-- What is answered when a handler has come to an end. -/
structure AnswersTo (h : Handler) (ending : Ending) (response : Response) (xs : List Exchanged) :
    Prop where
  /-- The status is that of the end. -/
  status : response.status = ending.response.status
  /-- A handler that ends in an error is answered with the status of a failure; or it is a query,
  and the API server has told of the error with a code that is a status, but none of a failure. -/
  failed {e : ServiceError} : ending = .failed e → isFailure response.status = true ∨
    ∃ f, h = .query ∧ e = .gateway (.api f) ∧ response.status = f.code ∧ f.IsMisleading ∧
      f.ToldIn xs
  /-- As long as the API server tells of no such failure, every error is answered with the status
  of a failure. -/
  honest {e : ServiceError} : ending = .failed e →
    (∀ f : ApiFailure, f.ToldIn xs → ¬f.IsMisleading) → isFailure response.status = true
  /-- A request that cannot be read is answered with the status of a failure. -/
  rejected {x : Response} : ending = .rejected x → isFailure response.status = true
  /-- What is served is answered with 200. -/
  served {x : Response} : ending = .served x → response.status = 200

/-- **How failures are answered.**  Whatever the API server answers and whatever the cache holds. -/
theorem failures_are_answered (g : Gateway) {r : InboundRequest} {h : Handler}
    (hroute : Route.ofPath? r.uri.path = some h.route)
    (hmethod : h.route.answersTo r.method = true) {σ : Type} (w : World σ) (cache : CatalogCache)
    (s : σ) : AnswersTo h ((h.ending g r).run w cache s).result ((answer g r).run w cache s).result
      ((answer g r).exchanges w cache s) := by
  have hends := (Handler.meets_ending g r h).result_run_free w cache s
  -- what makes a response of the end of a handler sends nothing and keeps the status
  have hexchanges : (answer g r).exchanges w cache s = (h.ending g r).exchanges w cache s := by
    rw [answer_eq hroute hmethod, Dialogue.exchanges_bind]
    exact List.append_nil _
  have hstatus : ((answer g r).run w cache s).result.status =
      ((h.ending g r).run w cache s).result.response.status := by
    rw [answer_eq hroute hmethod, Dialogue.result_run_bind]
    exact status_finish _ _
  rw [hexchanges]
  have hfailed {e : ServiceError} (he : ((h.ending g r).run w cache s).result = .failed e) :
      ((answer g r).run w cache s).result.status = e.status := by
    rw [hstatus, he]
    rfl
  constructor
  case status => exact hstatus
  case failed =>
    intro e he
    rw [hfailed he]
    exact hends.failed he
  case honest =>
    intro e he hhonest
    rw [hfailed he]
    refine (hends.failed he).resolve_right ?_
    -- the only other way is a failure of the API server whose code is no failure
    rintro ⟨f, -, -, -, hmisleading, htold⟩
    exact hhonest f htold hmisleading
  case rejected =>
    intro x hx
    rw [hstatus, hx]
    exact hends.rejected hx
  case served =>
    intro x hx
    rw [hstatus, hx]
    exact hends.served hx

/-- A query for the namespaces. -/
def namespacesRequest : InboundRequest :=
  ⟨"POST", ⟨none, none, "/query", none⟩, .ofList [("content-type", Utf8.encode "application/json")],
    .ofText "\x7b\"queryType\":\"kubernetes-namespaces\"\x7d"⟩

/-- An API server that answers everything with 500 and a failure with a code. -/
def answerFailure (code : String) : Request → Option Response := fun _ =>
  some (.json 500 ("\x7b\"status\":\"Failure\",\"message\":\"boom\"," ++
    "\"reason\":\"InternalError\",\"code\":" ++ code ++ "\x7d"))

/-- A failure whose code is that of a failure: the answer has it as its status. -/
theorem failures_are_answered_forbidden :
    let g : Gateway := ⟨fun _ => .ok .none, ⟨16, none⟩⟩
    let w := World.answering (answerFailure "403")
    ∃ e, ((Handler.query.ending g namespacesRequest).run w default ()).result = .failed e ∧
      ((answer g namespacesRequest).run w default ()).result.status = 403 ∧
      isFailure ((answer g namespacesRequest).run w default ()).result.status = true := by
  intro g w
  have h := failures_are_answered (h := .query) g (r := namespacesRequest) (by decide) (by decide)
    w default ()
  have hending : ((Handler.query.ending g namespacesRequest).run w default ()).result =
      .failed (.gateway (.api ⟨"Failure", "boom", "InternalError", 403⟩)) := by decide +kernel
  have hstatus : ((answer g namespacesRequest).run w default ()).result.status = 403 := by
    rw [h.status, hending]
    rfl
  refine ⟨_, hending, hstatus, (h.failed hending).resolve_right ?_⟩
  rintro ⟨f, -, hf, -, hmisleading, -⟩
  cases hf
  exact absurd hmisleading.2 (by decide)

/-- **A query that fails and is answered with 200**: the API server answers with 500, and the body
claims the code 200. -/
theorem failures_are_answered_asSuccess :
    let g : Gateway := ⟨fun _ => .ok .none, ⟨16, none⟩⟩
    let w := World.answering (answerFailure "200")
    Route.ofPath? namespacesRequest.uri.path = some Handler.query.route ∧
      ((Handler.query.ending g namespacesRequest).run w default ()).result =
        .failed (.gateway (.api ⟨"Failure", "boom", "InternalError", 200⟩)) ∧
      ((answer g namespacesRequest).run w default ()).result.status = 200 := by
  decide +kernel

end Api

end ClusterGateway

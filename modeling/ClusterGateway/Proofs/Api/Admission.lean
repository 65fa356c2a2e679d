import ClusterGateway.Api.Router
import ClusterGateway.Proofs.Dialogue.Course
import ClusterGateway.Proofs.Identity.Resolver

/-!
# Who gets through

Queries, live logs and everything that is passed on need a caller (`Api.NeedsCaller`); the companion
needs one for every request.  Where none is made out, the request is refused
(`Dialogue.Refuses`): it is answered with a status and nothing is asked of the API server.

* `Api.refuses_answer`, `Companion.refuses_answer` : **without a caller a request is refused** with
  the status of what went wrong.
* `IdentityPolicy.fails_closed` : **a policy that impersonates lets nobody through as nobody**.  A
  caller has an identity that says who it is in every request made for it; every other request is
  refused.
-/

namespace ClusterGateway

open Http

/-- A request is refused with a status: on no course is anything asked of the API server, and in
every world the answer has the status. -/
structure Dialogue.Refuses (d : Dialogue Response) (status : Nat) : Prop where
  /-- Nothing is sent. -/
  silent : ∀ xs, d.Admits xs → xs = []
  /-- The answer has the status. -/
  answered : ∀ {σ : Type} (w : World σ) (cache : CatalogCache) (s : σ),
    (d.run w cache s).result.status = status

theorem Dialogue.refuses_done {response : Response} {status : Nat} (h : response.status = status) :
    (done response).Refuses status where
  silent xs hx := by
    cases hx
    rfl
  answered _ _ _ := h

theorem Text.after?_append (start rest : String) : after? start (start ++ rest) = some rest := by
  have hlist : (start ++ rest).toList = start.toList ++ rest.toList := String.toList_append
  have hprefix : start.toList.isPrefixOf (start ++ rest).toList = true :=
    List.isPrefixOf_iff_prefix.2 (hlist ▸ List.prefix_append _ _)
  rw [after?, if_pos hprefix, hlist, ← String.length_toList, List.drop_left, String.ofList_toList]

namespace Api

variable {g : Gateway} {r : InboundRequest} {e : IdentityError}

/-- A request that the API serves only for a caller. -/
inductive NeedsCaller (r : InboundRequest) : Prop
  /-- A query. -/
  | query {q : Query} : r.uri.path = "/query" → r.method = "POST" →
    readBody Query.ofBytes r = .ok q → NeedsCaller r
  /-- A query for live logs. -/
  | stream {q : LogsQuery} : r.uri.path = "/stream" → r.method = "POST" →
    readBody LogsQuery.ofBytes r = .ok q → NeedsCaller r
  /-- Anything below the place of the proxy. -/
  | proxy {rest : String} : r.uri.path = "/proxy/" ++ rest → rest ≠ "" → NeedsCaller r

theorem status_finish (method : String) (response : Response) :
    (finish method response).status = response.status := by
  rw [finish]
  split <;> rfl

theorem withCaller_of_error (he : g.identify r.headers = .error e)
    (serve : Identity → Dialogue Response) :
    withCaller g r serve = .done (ServiceError.identity e).response := by
  rw [withCaller, he]

theorem ofPath?_proxy {rest : String} (h : rest ≠ "") :
    Route.ofPath? ("/proxy/" ++ rest) = some .proxy := by
  have hpath : ("/proxy/" ++ rest).toList = "/proxy/".toList ++ rest.toList := String.toList_append
  have hne {other : String} (ho : ¬"/proxy/".toList <+: other.toList) : "/proxy/" ++ rest ≠ other :=
    fun he => ho (he ▸ hpath ▸ List.prefix_append _ _)
  have hresources : Route.below? "/resources" ("/proxy/" ++ rest) = none := by
    rw [Route.below?, Text.after?, hpath]
    rfl
  have hproxy : Route.below? Route.proxyPlace ("/proxy/" ++ rest) = some rest := by
    have hplace : Route.proxyPlace ++ "/" = "/proxy/" := by decide
    rw [Route.below?, hplace, Text.after?_append]
    simp [h]
  rw [Route.ofPath?, if_neg (hne (by decide)), if_neg (hne (by decide)), if_neg (hne (by decide)),
    hresources, hproxy]
  rfl

theorem exists_route (hr : NeedsCaller r) (he : g.identify r.headers = .error e) :
    ∃ route, Route.ofPath? r.uri.path = some route ∧ route.answersTo r.method = true ∧
      serve g r route = .done (ServiceError.identity e).response := by
  cases hr with
  | query hpath hmethod hbody =>
    refine ⟨.query, by rw [hpath]; rfl, by rw [hmethod]; rfl, ?_⟩
    rw [serve, serveQuery, hbody]
    exact withCaller_of_error he _
  | stream hpath hmethod hbody =>
    refine ⟨.stream, by rw [hpath]; rfl, by rw [hmethod]; rfl, ?_⟩
    rw [serve, serveStream, hbody]
    exact withCaller_of_error he _
  | proxy hpath hrest =>
    refine ⟨.proxy, by rw [hpath, ofPath?_proxy hrest], rfl, ?_⟩
    exact withCaller_of_error he _

/-- **Without a caller the API refuses.** -/
theorem refuses_answer (hr : NeedsCaller r) (he : g.identify r.headers = .error e) :
    (answer g r).Refuses e.status := by
  obtain ⟨route, hroute, hmethod, hserve⟩ := exists_route hr he
  have hanswer : answer g r = .done (finish r.method (ServiceError.identity e).response) := by
    rw [answer, hroute]
    simp only [hmethod, hserve, if_true, Dialogue.done_bind]
  rw [hanswer]
  exact Dialogue.refuses_done (status_finish _ _)

end Api

/-- **Without a caller the companion refuses.** -/
theorem Companion.refuses_answer {g : Gateway} {r : InboundRequest} {e : IdentityError}
    (he : g.identify r.headers = .error e) : (Companion.answer g r).Refuses e.status := by
  rw [Companion.answer, Api.serveProxy, Api.withCaller_of_error he, Dialogue.done_bind]
  exact Dialogue.refuses_done (Api.status_finish _ _)

namespace IdentityPolicy

/-- **A policy that impersonates fails closed.**  Whom it lets through is somebody whom the headers
name, and a request in the name of that caller can be written on top of any headers and says so in
a header of its own.  Where the headers name nobody, the status is 401 or 400, and every request
that needs a caller is refused with it by the API and by the companion. -/
theorem fails_closed {p : IdentityPolicy} (hp : p.isActive = true) (proxy : Proxy) (h : Headers) :
    (∀ i, p.resolve h = .ok i ↔ p.MakesOut h i) ∧
    (∀ i, p.MakesOut h i → ∀ inbound, (Impersonation.apply inbound i).2 = true ∧
      ∃ name, Impersonation.isHeader name = true ∧
        (Impersonation.apply inbound i).1.values name ≠ []) ∧
    ((¬∃ i, p.MakesOut h i) → ∃ e, p.resolve h = .error e ∧
      (e.status = 401 ∧ (∃ name, e = .missing name) ∨
        e.status = 400 ∧ ∃ name, e = .invalidHeader name) ∧
      ∀ r : InboundRequest, r.headers = h →
        (Api.NeedsCaller r → (Api.answer (.ofPolicy p proxy) r).Refuses e.status) ∧
        (Companion.answer (.ofPolicy p proxy) r).Refuses e.status) := by
  refine ⟨fun i => resolve_eq_ok_iff hp, fun i hi inbound => ?_, fun hnobody => ?_⟩
  · have happly : (Impersonation.apply inbound i).2 = true :=
      Impersonation.apply_snd.2 hi.isWritable
    exact ⟨happly, Impersonation.exists_values_of_apply hi.isWritable hi.someone⟩
  · -- whom nobody makes out is refused with the error of the policy, wherever the request goes
    cases hr : p.resolve h with
    | ok i => exact absurd ⟨i, (resolve_eq_ok_iff hp).1 hr⟩ hnobody
    | error e =>
      refine ⟨e, rfl, ?_, ?_⟩
      · cases e with
        | missing name => exact .inl ⟨rfl, name, rfl⟩
        | invalidHeader name => exact .inr ⟨rfl, name, rfl⟩
      · rintro r rfl
        exact ⟨fun hneeds => Api.refuses_answer hneeds hr, Companion.refuses_answer hr⟩

/-- Whoever names both a user and groups gets through as both; whoever names groups only is refused
with 401 on the way to the API server. -/
theorem fails_closed_groupsOnly :
    let p : IdentityPolicy := { default with impersonateUser := true, impersonateGroups := true }
    let groups := ("X-Kubegate-Groups", Utf8.encode "dev, ,ops")
    let named := Headers.ofList [groups, ("X-Kubegate-User", Utf8.encode " alice ")]
    let r : InboundRequest :=
      ⟨"GET", ⟨none, none, "/proxy/api", none⟩, Headers.ofList [groups], .empty⟩
    p.isActive = true ∧ p.MakesOut named ⟨"alice", ["dev", "ops"]⟩ ∧
      (Api.answer (.ofPolicy p ⟨16, none⟩) r).Refuses 401 := by
  intro p groups named r
  have hp : p.isActive = true := rfl
  refine ⟨hp, ((fails_closed hp ⟨16, none⟩ named).1 _).1 (by decide +kernel), ?_⟩
  have hr : p.resolve r.headers = .error (.missing "X-Kubegate-User") := by decide +kernel
  have hnobody : ¬∃ i, p.MakesOut r.headers i := by
    rintro ⟨i, hi⟩
    have hi := ((fails_closed hp ⟨16, none⟩ r.headers).1 i).2 hi
    rw [hr] at hi
    cases hi
  obtain ⟨e, he, -, hrefuses⟩ := (fails_closed hp ⟨16, none⟩ r.headers).2.2 hnobody
  cases hr.symm.trans he
  have hpath : r.uri.path = "/proxy/" ++ "api" := by decide
  exact (hrefuses r rfl).1 (.proxy hpath (by decide))

end IdentityPolicy

end ClusterGateway

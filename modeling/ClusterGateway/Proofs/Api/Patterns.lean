import ClusterGateway.Proofs.Api.Failures

/-!
# Patterns that do not compile

A batch of log lines and a live stream compile the pattern of the query before they ask the API
server for anything, and reject one that does not compile with the same error.  A batch is what the
query for it answers with, so that the caller gets to know the error.  A live stream is opened after
the check that the caller may follow, which does not look at the pattern; what becomes of it after
that changes nothing in the answer.

* `LogBatch.invalidRegex_iff`, `LiveStream.invalidRegex_iff` : **both reject the same patterns**,
  those that do not compile (`LogsQuery.IsUncompilable`), and with nothing asked.
* `Api.uncompilable_patterns_are_streamed` : **the query for live logs hides it**.  Where the query
  for a batch is answered with 400, the one for live logs is answered with 200 and no event.
-/

namespace ClusterGateway

open Http Operation

/-! ### Operations -/

/-- The pattern of a query is not empty and does not compile. -/
def LogsQuery.IsUncompilable (q : LogsQuery) : Prop :=
  q.filter ≠ "" ∧ Regex.compile? q.filter = none

instance (q : LogsQuery) : Decidable q.IsUncompilable := inferInstanceAs (Decidable (_ ∧ _))

theorem LineFilter.ofPattern_eq_error_iff {q : LogsQuery} {window : Option TimeRange}
    {e : GatewayError} :
    LineFilter.ofPattern q.filter window = .error e ↔ q.IsUncompilable ∧ e = .invalidRegex := by
  rw [LineFilter.ofPattern, LogsQuery.IsUncompilable]
  split
  · rename_i hempty
    exact iff_of_false (by simp) fun h => h.1.1 hempty
  · rename_i hne
    split
    · rename_i r hr
      exact iff_of_false (by simp) fun h => Option.some_ne_none r (hr.symm.trans h.1.2)
    · rename_i hr
      exact ⟨fun h => ⟨⟨hne, hr⟩, (Except.error.inj h).symm⟩, fun h => h.2 ▸ rfl⟩

namespace Exchange

theorem textOf_ne_invalidRegex {answer : Option Response} :
    textOf answer ≠ .error .invalidRegex := by
  intro h
  cases answer with
  | none => cases h
  | some response =>
    rw [textOf] at h
    split at h
    · cases h
    split at h
    · rw [GatewayError.ofAnswer] at h
      split at h <;> cases h
    · split at h <;> cases h

end Exchange

theorem PodGroup.IsUnresolved.ne_invalidRegex {xs : List Exchanged} {e : GatewayError}
    (h : IsUnresolved xs e) : e ≠ .invalidRegex := by
  rintro rfl
  cases h with
  | absent h => obtain h | ⟨id, h⟩ := h <;> cases h
  | unread h =>
    cases h with
    | answered _ h => exact Exchange.textOf_ne_invalidRegex h

section Operations

variable {identity : Identity} {q : LogsQuery} {past : List Exchanged}

/-- An error about the pattern is about one that does not compile. -/
def BlamesPattern (q : LogsQuery) (_ : List Exchanged) (e : GatewayError) : Prop :=
  e = .invalidRegex → q.IsUncompilable

theorem failsWith_ofPattern {window : Option TimeRange} :
    (ofExcept (LineFilter.ofPattern q.filter window)).FailsWith (BlamesPattern q) past :=
  failsWith_ofExcept fun _ he _ => (LineFilter.ofPattern_eq_error_iff.1 he).1

theorem failsWith_resolve_blamesPattern :
    (PodGroup.resolve identity q.resource q.ns q.name).FailsWith (BlamesPattern q) past :=
  (PodGroup.failsWith_resolve _ _ _ _).imp fun _ _ h he => absurd he h.ne_invalidRegex

theorem LogBatch.failsWith_lines : (lines identity q).FailsWith (BlamesPattern q) past := by
  refine failsWith_ofDialogue_bind fun asked => ?_
  refine failsWith_ofPattern.bind fun past filter _ => ?_
  refine failsWith_resolve_blamesPattern.bind fun past group _ => ?_
  refine failsWith_ofDialogue_bind fun now => failsWith_ofDialogue_bind ?_
  exact (Dialogue.meets_free _ past).imp fun past logs _ _ => failsWith_pure _

theorem LiveStream.failsWith_connect : (connect identity q).FailsWith (BlamesPattern q) past := by
  refine failsWith_ofPattern.bind fun past filter _ => ?_
  refine failsWith_resolve_blamesPattern.bind fun past group _ => failsWith_ofDialogue_bind ?_
  exact (Dialogue.meets_free _ past).imp fun past logs _ _ => failsWith_pure _

theorem LogBatch.attempt_lines (h : q.IsUncompilable) :
    (lines identity q).attempt = .clock fun _ => .done (.error .invalidRegex) := by
  have hfilter (now : Instant) :
      LineFilter.ofPattern q.filter (some (window q now)) = .error .invalidRegex :=
    LineFilter.ofPattern_eq_error_iff.2 ⟨h, rfl⟩
  simp [lines, Dialogue.now, Dialogue.bind, next, hfilter]

theorem LiveStream.attempt_connect (h : q.IsUncompilable) :
    (connect identity q).attempt = .done (.error .invalidRegex) := by
  have hfilter : LineFilter.ofPattern q.filter none = .error .invalidRegex :=
    LineFilter.ofPattern_eq_error_iff.2 ⟨h, rfl⟩
  simp [connect, next, hfilter]

variable {σ : Type} (w : World σ) (cache : CatalogCache) (s : σ)

/-- **A batch is rejected for its pattern** just if this does not compile. -/
theorem LogBatch.invalidRegex_iff :
    ((lines identity q).attempt.run w cache s).result = .error .invalidRegex ↔
      q.IsUncompilable := by
  refine ⟨fun h => ?_, fun h => attempt_lines h ▸ rfl⟩
  exact (failsWith_iff.1 failsWith_lines).result_run_free w cache s _ h rfl

/-- **A live stream is rejected for its pattern** just if this does not compile. -/
theorem LiveStream.invalidRegex_iff :
    ((connect identity q).attempt.run w cache s).result = .error .invalidRegex ↔
      q.IsUncompilable := by
  refine ⟨fun h => ?_, fun h => attempt_connect h ▸ rfl⟩
  exact (failsWith_iff.1 failsWith_connect).result_run_free w cache s _ h rfl

theorem Gateway.attempt_follow {τ : Type} (sink : LineSink τ) (t : τ) (cancelled : Bool)
    (h : q.IsUncompilable) :
    (follow identity q sink t cancelled).attempt = .done (.error .invalidRegex) := by
  simp [follow, LiveStream.attempt_connect h, next]

end Operations

/-! ### Answers -/

namespace Api

/-- Two requests of one caller with one query for logs, the first for a batch and the second for a
live stream. -/
structure AsksForBoth (g : Gateway) (identity : Identity) (q : LogsQuery)
    (batch live : InboundRequest) : Prop where
  /-- Where the first one goes. -/
  batch_route : Route.ofPath? batch.uri.path = some .query
  /-- How it is sent. -/
  batch_method : batch.method = "POST"
  /-- Who sends it. -/
  batch_caller : g.identify batch.headers = .ok identity
  /-- What it asks for. -/
  batch_body : readBody Query.ofBytes batch = .ok (.logs q)
  /-- Where the second one goes. -/
  live_route : Route.ofPath? live.uri.path = some .stream
  /-- How it is sent. -/
  live_method : live.method = "POST"
  /-- Who sends it. -/
  live_caller : g.identify live.headers = .ok identity
  /-- What it asks for. -/
  live_body : readBody LogsQuery.ofBytes live = .ok q

variable {g : Gateway} {identity : Identity} {q : LogsQuery} {batch live : InboundRequest}

theorem AsksForBoth.answer_batch (h : AsksForBoth g identity q batch live) :
    answer g batch =
      (Handler.query.ending g batch).bind fun ending => .done ending.response := by
  have hanswers : Handler.query.route.answersTo batch.method = true := by
    rw [h.batch_method]
    decide
  rw [answer_eq h.batch_route hanswers, h.batch_method]
  rfl

theorem AsksForBoth.ending_batch (h : AsksForBoth g identity q batch live) :
    Handler.query.ending g batch = Handler.endQuery identity (.logs q) := by
  rw [Handler.ending, h.batch_body]
  simp only [Handler.forCaller, h.batch_caller]

theorem AsksForBoth.answer_live (h : AsksForBoth g identity q batch live) :
    answer g live = (Handler.endStream identity q).bind fun ending => .done ending.response := by
  have hanswers : Handler.stream.route.answersTo live.method = true := by
    rw [h.live_method]
    decide
  rw [answer_eq h.live_route hanswers, h.live_method, Handler.ending, h.live_body]
  simp only [Handler.forCaller, h.live_caller]
  rfl

theorem invalidRegex_of_endQuery {σ : Type} {w : World σ} {cache : CatalogCache} {s : σ}
    (h : ((Handler.endQuery identity (.logs q)).run w cache s).result =
      .failed (.gateway .invalidRegex)) :
    ((LogBatch.lines identity q).attempt.run w cache s).result = .error .invalidRegex := by
  rw [Handler.endQuery, Dialogue.result_run_bind, Gateway.query, attempt_bind,
    Dialogue.result_run_bind] at h
  cases hlines : ((LogBatch.lines identity q).attempt.run w cache s).result with
  | ok lines =>
    rw [hlines] at h
    cases h
  | error e =>
    rw [hlines] at h
    cases h
    rfl

theorem streamLines_eq (h : q.IsUncompilable) : streamLines identity q = .done [] := by
  rw [streamLines, Gateway.attempt_follow _ _ _ h]
  rfl

theorem run_endStream {σ : Type} {w : World σ} {cache : CatalogCache} {s : σ}
    (hpattern : q.IsUncompilable)
    (hallowed : ((Gateway.mayFollow identity q).run w cache s).result = .ok ()) :
    ((Handler.endStream identity q).run w cache s).result = .served (eventStream []) ∧
      (Handler.endStream identity q).exchanges w cache s =
        (Gateway.mayFollow identity q).exchanges w cache s := by
  rw [Handler.endStream, Dialogue.result_run_bind, Dialogue.exchanges_bind, hallowed]
  dsimp only
  rw [streamLines_eq hpattern]
  exact ⟨rfl, List.append_nil _⟩

/-- **A pattern that a query for a batch is rejected for is hidden in a live stream.**  The batch is
answered with 400 and the error, before the API server is asked for anything.  If the caller may
follow, the live stream is answered with 200 and ends without an event; nothing is asked but what
the check asks, so that no log is opened.  The stream has met the same error, whatever the lines
would have been handed to. -/
theorem uncompilable_patterns_are_streamed (h : AsksForBoth g identity q batch live)
    {σ τ : Type} {w : World σ} {cache : CatalogCache} {s : σ} {v : World τ}
    {cache' : CatalogCache} {t : τ}
    (hbatch : ((Handler.query.ending g batch).run w cache s).result =
      .failed (.gateway .invalidRegex))
    (hallowed : ((Gateway.mayFollow identity q).run v cache' t).result = .ok ()) :
    ((answer g batch).run w cache s).result = (ServiceError.gateway .invalidRegex).response ∧
    (answer g batch).exchanges w cache s = [] ∧
    ((answer g live).run v cache' t).result = eventStream [] ∧
    (answer g live).exchanges v cache' t =
      (Gateway.mayFollow identity q).exchanges v cache' t ∧
    ∀ {υ : Type} (sink : LineSink υ) (u : υ) (cancelled : Bool),
      (Gateway.follow identity q sink u cancelled).attempt = .done (.error .invalidRegex) := by
  -- the batch shows that the pattern is to blame, and the live stream asks with the same one
  have hpattern : q.IsUncompilable := by
    rw [h.ending_batch] at hbatch
    exact (LogBatch.invalidRegex_iff w cache s).1 (invalidRegex_of_endQuery hbatch)
  have hsilent : (Handler.query.ending g batch).exchanges w cache s = [] := by
    rw [h.ending_batch, Handler.endQuery, Gateway.query, attempt_bind,
      LogBatch.attempt_lines hpattern]
    rfl
  obtain ⟨hserved, hasked⟩ := run_endStream hpattern hallowed
  refine ⟨?_, ?_, ?_, ?_, fun sink u cancelled => Gateway.attempt_follow sink u cancelled hpattern⟩
  · rw [h.answer_batch, Dialogue.result_run_bind, hbatch]
    rfl
  · rw [h.answer_batch, Dialogue.exchanges_bind, hsilent]
    rfl
  · rw [h.answer_live, Dialogue.result_run_bind, hserved]
    rfl
  · rw [h.answer_live, Dialogue.exchanges_bind, hasked]
    exact List.append_nil _

/-! ### An open parenthesis -/

/-- The request of Alice to a path with a body. -/
def requestTo (path body : String) : InboundRequest :=
  ⟨"POST", ⟨none, none, path, none⟩, .ofList [("content-type", Utf8.encode "application/json")],
    .ofText body⟩

/-- The logs of a pod, with a pattern that does not compile. -/
def askForParenthesis : LogsQuery := ⟨"pod", "d", "w", "", "(", 0, false, none⟩

/-- The query for a batch. -/
def batchRequest : InboundRequest := requestTo "/query" ("\x7b\"queryType\":\"kubernetes-logs\"," ++
  "\"resource\":\"pod\",\"namespace\":\"d\",\"name\":\"w\",\"filter\":\"(\"\x7d")

/-- The query for live logs. -/
def liveRequest : InboundRequest := requestTo "/stream"
  "\x7b\"resource\":\"pod\",\"namespace\":\"d\",\"name\":\"w\",\"filter\":\"(\"\x7d"

/-- A gateway whose only caller is Alice. -/
def gatewayOfAlice : Gateway := ⟨fun _ => .ok ⟨"alice", []⟩, ⟨16, none⟩⟩

/-- An API server with the pod. -/
def answerPod (r : Request) : Option Response :=
  if r.uri.path = "/api/v1/namespaces/d/pods/w" then some (.text 200 "\x7b\x7d") else none

/-- A cache in which pods are known. -/
def knowsPods : CatalogCache := ⟨⟨[.ofEntry "v1" "Pod" "pods" true]⟩, 0, 1⟩

theorem asksForBoth_parenthesis :
    AsksForBoth gatewayOfAlice ⟨"alice", []⟩ askForParenthesis batchRequest liveRequest where
  batch_route := by decide
  batch_method := rfl
  batch_caller := rfl
  batch_body := by decide +kernel
  live_route := by decide
  live_method := rfl
  live_caller := rfl
  live_body := by decide +kernel

theorem isRejected_batchRequest :
    ((Handler.query.ending gatewayOfAlice batchRequest).run (.answering answerPod)
      knowsPods ()).result = .failed (.gateway .invalidRegex) := by decide +kernel

theorem mayFollow_parenthesis : ((Gateway.mayFollow ⟨"alice", []⟩ askForParenthesis).run
    (.answering answerPod) knowsPods ()).result = .ok () := by decide +kernel

/-- One of the two queries is rejected, and Alice may follow. -/
theorem uncompilable_patterns_are_streamed_parenthesis :
    ((answer gatewayOfAlice batchRequest).run (.answering answerPod) knowsPods ()).result.status =
      400 ∧
    ((answer gatewayOfAlice liveRequest).run (.answering answerPod) knowsPods ()).result =
      eventStream [] := by
  have h := uncompilable_patterns_are_streamed asksForBoth_parenthesis isRejected_batchRequest
    mayFollow_parenthesis
  exact ⟨h.1 ▸ rfl, h.2.2.1⟩

/-- **The same pattern is answered with an error and with an empty success.** -/
theorem streams_parenthesis :
    AsksForBoth gatewayOfAlice ⟨"alice", []⟩ askForParenthesis batchRequest liveRequest ∧
    ((Handler.query.ending gatewayOfAlice batchRequest).run (.answering answerPod)
      knowsPods ()).result = .failed (.gateway .invalidRegex) ∧
    ((Gateway.mayFollow ⟨"alice", []⟩ askForParenthesis).run (.answering answerPod)
      knowsPods ()).result = .ok () ∧
    ((Handler.stream.ending gatewayOfAlice liveRequest).run (.answering answerPod)
      knowsPods ()).result = .served (eventStream []) ∧
    ((answer gatewayOfAlice liveRequest).run (.answering answerPod) knowsPods ()).result ≠
      (ServiceError.gateway .invalidRegex).response := by
  refine ⟨asksForBoth_parenthesis, isRejected_batchRequest, mayFollow_parenthesis, ?_, ?_⟩
  · decide +kernel
  · decide +kernel

end Api

end ClusterGateway

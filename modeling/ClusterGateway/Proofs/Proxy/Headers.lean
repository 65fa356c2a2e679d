import ClusterGateway.Proofs.Dialogue.Course
import ClusterGateway.Proofs.Identity.Impersonation
import ClusterGateway.Proxy.Forward

/-!
# What a proxy makes of headers

`Proxy.Rewrites` says, name by name, what the API server gets to see of the headers of a request:
nothing of its address and framing and of the caller's credentials, under the names of
impersonation headers what the identity says, the headers of a change of protocol just if the
request asks for one (`Proxy.AsksForUpgrade`), no other header of a single connection, and all
others as they are.

* `Proxy.sent_headers` : **every request that a proxy sends is rewritten like that**, and requests
  that differ only in what says who the caller is are sent with the same headers.

The names under which a proxy writes where a request stands in a trace (`Proxy.traceHeaders`) are
left out of the first part.
-/

namespace ClusterGateway

open Http

namespace Proxy

/-- The names under which the place in a trace is written. -/
def traceHeaders : Option TraceContext → List String
  | none => []
  | some _ => ["traceparent", "tracestate"]

/-- A request asks for another protocol: it has an `upgrade` header, and some visible value of its
`connection` header lists `upgrade`, in any case and between any blanks. -/
def AsksForUpgrade (h : Headers) : Prop :=
  h.values "upgrade" ≠ [] ∧
    ∃ value ∈ h.values "connection", ∃ list, visibleText? value = some list ∧
      ∃ entry ∈ Text.pieces ',' list, lowerName (Text.trim entry) = "upgrade"

/-- Headers that never reach the API server: address, framing and credentials. -/
def keptBack : List String :=
  ["host", "content-length", "authorization", "proxy-authorization", "cookie"]

/-- Headers that reach it only with a change of protocol. -/
def protocolHeaders : List String := ["connection", "upgrade"]

/-- Headers that concern a single connection in any case. -/
def singleHop : List String :=
  ["keep-alive", "proxy-connection", "te", "trailer", "transfer-encoding"]

/-- What becomes of the values under a name, from the headers of a request that arrives to those
of the request that is sent for an identity. -/
structure Rewrites (identity : Identity) (arrived sent : Headers) (name : String) : Prop where
  /-- Address, framing and credentials stay behind. -/
  keptBack : name ∈ keptBack → sent.values name = []
  /-- Who the request is made for is up to the identity alone. -/
  impersonation : Impersonation.isHeader name = true →
    sent.values name = Impersonation.valuesFor identity name
  /-- A change of protocol that is asked for is passed on. -/
  upgrade : name ∈ protocolHeaders → AsksForUpgrade arrived →
    sent.values name = arrived.values name
  /-- One that is not asked for is not. -/
  noUpgrade : name ∈ protocolHeaders → ¬AsksForUpgrade arrived → sent.values name = []
  /-- What concerns a single connection stays behind. -/
  singleHop : name ∈ singleHop → sent.values name = []
  /-- Everything else travels as it is. -/
  other : name ∉ Proxy.keptBack ++ protocolHeaders ++ Proxy.singleHop →
    Impersonation.isHeader name = false → sent.values name = arrived.values name

/-- Two requests differ at most in what says who the caller is and whom the caller has asked:
credentials, impersonation headers and `host`. -/
structure SameButCaller (r₁ r₂ : InboundRequest) : Prop where
  /-- The method is the same. -/
  method : r₁.method = r₂.method
  /-- The body is the same. -/
  body : r₁.body = r₂.body
  /-- All other headers have the same values. -/
  headers : ∀ name, name ∉ ["authorization", "proxy-authorization", "cookie", "host"] →
    Impersonation.isHeader name = false → r₁.headers.values name = r₂.headers.values name

variable {p : Proxy} {identity : Identity} {target : String} {r : InboundRequest} {q : Request}

/-! ### Headers that are written -/

theorem values_setText {h : Headers} {name other text : String} (hn : other ≠ name) :
    (setText h name text).values other = h.values other := by
  rw [setText]
  split
  · rw [Headers.values_set, if_neg hn]
  · rfl

theorem values_traced {h : Headers} {name : String} {trace : Option TraceContext}
    (hn : name ∉ traceHeaders trace) : (traced h trace).values name = h.values name := by
  cases trace with
  | none => rfl
  | some t =>
    simp only [traceHeaders, List.mem_cons, List.not_mem_nil, or_false, not_or] at hn
    rw [traced, values_setText hn.2, values_setText hn.1]

theorem not_mem_traceHeaders {name : String} (hn : Impersonation.isHeader name = true)
    (trace : Option TraceContext) : name ∉ traceHeaders trace := by
  cases trace with
  | none => exact List.not_mem_nil
  | some t =>
    have h : ∀ name ∈ traceHeaders (some t), Impersonation.isHeader name = false := by
      simp only [traceHeaders]
      decide
    intro hm
    rw [h name hm] at hn
    cases hn

theorem values_setText_congr {h₁ h₂ : Headers} {name other text : String}
    (he : h₁.values other = h₂.values other) :
    (setText h₁ name text).values other = (setText h₂ name text).values other := by
  rw [setText, setText]
  split
  · rw [Headers.values_set, Headers.values_set, he]
  · exact he

theorem values_traced_congr {h₁ h₂ : Headers} {name : String} (trace : Option TraceContext)
    (he : h₁.values name = h₂.values name) :
    (traced h₁ trace).values name = (traced h₂ trace).values name := by
  cases trace with
  | none => exact he
  | some t => exact values_setText_congr (values_setText_congr he)

/-! ### Headers that travel -/

theorem has_iff {h : Headers} {name : String} : h.has name = true ↔ h.values name ≠ [] := by
  simp [Headers.has, Headers.values]

theorem isUpgrade_iff {h : Headers} : isUpgrade h = true ↔ AsksForUpgrade h := by
  simp only [isUpgrade, AsksForUpgrade, Bool.and_eq_true, has_iff, List.any_eq_true, namesUpgrade,
    Option.any_eq_true, decide_eq_true_eq]

theorem isUpgrade_congr {h₁ h₂ : Headers} (hu : h₁.values "upgrade" = h₂.values "upgrade")
    (hc : h₁.values "connection" = h₂.values "connection") : isUpgrade h₁ = isUpgrade h₂ := by
  rw [Bool.eq_iff_iff, isUpgrade_iff, isUpgrade_iff, AsksForUpgrade, AsksForUpgrade, hu, hc]

theorem values_forwarded (h : Headers) (name : String) :
    (forwarded h).values name = if travels (isUpgrade h) name then h.values name else [] :=
  Headers.values_keep h name _

/-! ### Requests that are sent -/

theorem outbound_eq : p.outbound identity target r =
    match Uri.parse? target with
    | none => .error .failed
    | some uri =>
      if (declaredLength? r.headers).any (p.bodyLimit < ·) then .error (.tooLarge p.bodyLimit)
      else match Impersonation.headersFor? (forwarded r.headers) identity with
        | none => .error .failed
        | some headers => (readBody p.bodyLimit r.body).map fun body =>
          ⟨r.method, uri, traced headers p.trace, body⟩ := by
  rw [outbound]
  cases Uri.parse? target with
  | none => rfl
  | some uri =>
    change (if _ then _ else _) = _
    split
    · rfl
    · cases Impersonation.headersFor? (forwarded r.headers) identity <;> rfl

theorem outbound_eq_ok (hq : p.outbound identity target r = .ok q) :
    ∃ uri headers body, Uri.parse? target = some uri ∧
      Impersonation.headersFor? (forwarded r.headers) identity = some headers ∧
      readBody p.bodyLimit r.body = .ok body ∧
      q = ⟨r.method, uri, traced headers p.trace, body⟩ := by
  rw [outbound_eq] at hq
  split at hq
  · cases hq
  · rename_i uri hu
    split at hq
    · cases hq
    · split at hq
      · cases hq
      · rename_i headers hh
        cases hb : readBody p.bodyLimit r.body with
        | error e =>
          rw [hb] at hq
          cases hq
        | ok body =>
          rw [hb] at hq
          exact ⟨uri, headers, body, hu, hh, rfl, (Except.ok.inj hq).symm⟩

theorem sent_forward {σ : Type} (w : World σ) (cache : CatalogCache) (s : σ) :
    ((p.forward identity target r).run w cache s).sent =
      match p.outbound identity target r with
      | .error _ => []
      | .ok q => [q] := by
  rw [forward]
  cases p.outbound identity target r <;> rfl

theorem values_outbound (hq : p.outbound identity target r = .ok q) {name : String}
    (hn : name ∉ traceHeaders p.trace) :
    q.headers.values name =
      if Impersonation.isHeader name then Impersonation.valuesFor identity name
      else if travels (isUpgrade r.headers) name then r.headers.values name
      else [] := by
  obtain ⟨uri, headers, body, -, hh, -, rfl⟩ := outbound_eq_ok hq
  rw [values_traced hn, Impersonation.values_of_headersFor? hh, values_forwarded]

theorem travels_of_mem_keptBack : ∀ name ∈ keptBack, ∀ upgrade, travels upgrade name = false := by
  decide

theorem travels_of_mem_protocolHeaders :
    ∀ name ∈ protocolHeaders, ∀ upgrade, travels upgrade name = upgrade := by
  decide

theorem travels_of_mem_singleHop : ∀ name ∈ singleHop, ∀ upgrade, travels upgrade name = false := by
  decide

theorem isHeader_of_mem :
    ∀ name ∈ keptBack ++ protocolHeaders ++ singleHop, Impersonation.isHeader name = false := by
  decide

theorem travels_of_not_mem {name : String} (hn : name ∉ keptBack ++ protocolHeaders ++ singleHop)
    (hi : Impersonation.isHeader name = false) (upgrade : Bool) : travels upgrade name = true := by
  simp only [keptBack, protocolHeaders, singleHop, List.cons_append, List.nil_append,
    List.mem_cons, List.not_mem_nil, or_false, not_or] at hn
  simp [travels, framingHeaders, credentialHeaders, connectionHeaders, hn, hi]

/-- **Headers are rewritten** under every name but those of the trace. -/
theorem rewrites_outbound (hq : p.outbound identity target r = .ok q) {name : String}
    (hn : name ∉ traceHeaders p.trace) : Rewrites identity r.headers q.headers name := by
  have hv := values_outbound hq hn
  have hruled (hm : name ∈ keptBack ++ protocolHeaders ++ singleHop) := isHeader_of_mem name hm
  simp only [List.mem_append] at hruled
  constructor
  · intro hm
    simp [hv, hruled (.inl (.inl hm)), travels_of_mem_keptBack name hm]
  · intro hi
    simp [hv, hi]
  · intro hm hu
    simp [hv, hruled (.inl (.inr hm)), travels_of_mem_protocolHeaders name hm, isUpgrade_iff.2 hu]
  · intro hm hu
    rw [← isUpgrade_iff, Bool.not_eq_true] at hu
    simp [hv, hruled (.inl (.inr hm)), travels_of_mem_protocolHeaders name hm, hu]
  · intro hm
    simp [hv, hruled (.inr hm), travels_of_mem_singleHop name hm]
  · intro hm hi
    simp [hv, hi, travels_of_not_mem hm hi]

/-! ### Who is asking -/

/-- Two requests are sent to the same place with the same content and, under every name, the same
values of headers. -/
structure SameRequest (q₁ q₂ : Request) : Prop where
  /-- The method is the same. -/
  method : q₁.method = q₂.method
  /-- The address is the same. -/
  uri : q₁.uri = q₂.uri
  /-- The body is the same. -/
  body : q₁.body = q₂.body
  /-- The headers are the same. -/
  headers : ∀ name, q₁.headers.values name = q₂.headers.values name

variable {r₁ r₂ : InboundRequest}

theorem values_forwarded_congr (h : SameButCaller r₁ r₂) {name : String}
    (hi : Impersonation.isHeader name = false) :
    (forwarded r₁.headers).values name = (forwarded r₂.headers).values name := by
  have hu : isUpgrade r₁.headers = isUpgrade r₂.headers :=
    isUpgrade_congr (h.headers _ (by decide) (by decide)) (h.headers _ (by decide) (by decide))
  have hsub : ∀ name ∈ ["authorization", "proxy-authorization", "cookie", "host"],
      name ∈ keptBack := by decide
  rw [values_forwarded, values_forwarded, hu]
  by_cases hm : name ∈ ["authorization", "proxy-authorization", "cookie", "host"]
  · simp [travels_of_mem_keptBack name (hsub name hm)]
  · rw [h.headers name hm hi]

theorem declaredLength?_congr (h : SameButCaller r₁ r₂) :
    declaredLength? r₁.headers = declaredLength? r₂.headers := by
  have hname : lowerName "content-length" = "content-length" := by decide
  have hv := h.headers "content-length" (by decide) (by decide)
  simp only [declaredLength?, Headers.first?, hname, hv]

/-- **The caller leaves no trace** but in the identity: requests that differ only in what says who
the caller is are refused for the same reason or passed on alike. -/
theorem outbound_congr (h : SameButCaller r₁ r₂) :
    (∃ e, p.outbound identity target r₁ = .error e ∧ p.outbound identity target r₂ = .error e) ∨
      ∃ q₁ q₂, p.outbound identity target r₁ = .ok q₁ ∧ p.outbound identity target r₂ = .ok q₂ ∧
        SameRequest q₁ q₂ := by
  rw [outbound_eq, outbound_eq, declaredLength?_congr h, h.body, h.method]
  -- each check comes out the same for both requests
  cases Uri.parse? target with
  | none => exact .inl ⟨_, rfl, rfl⟩
  | some uri =>
    dsimp only
    split
    · exact .inl ⟨_, rfl, rfl⟩
    · by_cases hi : identity.IsWritable
      · obtain ⟨out₁, h₁⟩ := Option.isSome_iff_exists.1
          (Impersonation.headersFor?_isSome (h := forwarded r₁.headers).2 hi)
        obtain ⟨out₂, h₂⟩ := Option.isSome_iff_exists.1
          (Impersonation.headersFor?_isSome (h := forwarded r₂.headers).2 hi)
        rw [h₁, h₂]
        cases readBody p.bodyLimit r₂.body with
        | error e => exact .inl ⟨e, rfl, rfl⟩
        | ok body =>
          refine .inr ⟨_, _, rfl, rfl, rfl, rfl, rfl, fun name => values_traced_congr _ ?_⟩
          -- headers that name a caller are written anew, and the others travel as they are
          rw [Impersonation.values_of_headersFor? h₁, Impersonation.values_of_headersFor? h₂]
          cases hn : Impersonation.isHeader name
          · simp [values_forwarded_congr h hn]
          · rfl
      · have hnone (headers : Headers) : Impersonation.headersFor? headers identity = none :=
          Option.eq_none_iff_forall_ne_some.2 fun out ho =>
            hi (Impersonation.headersFor?_eq_some ho).1
        rw [hnone, hnone]
        exact .inl ⟨_, rfl, rfl⟩

/-- **Header rewriting of a proxy.**  Whatever arrives, every request that is sent on has the
rewritten headers; and of two requests that differ only in what says who the caller is, both or
none is sent, with the same headers under every name. -/
theorem sent_headers (p : Proxy) (identity : Identity) (target : String) {σ : Type} (w : World σ)
    (cache : CatalogCache) (s : σ) :
    (∀ r, ∀ q ∈ ((p.forward identity target r).run w cache s).sent,
      ∀ name ∉ traceHeaders p.trace, Rewrites identity r.headers q.headers name) ∧
    ∀ r₁ r₂, SameButCaller r₁ r₂ →
      List.Forall₂ SameRequest ((p.forward identity target r₁).run w cache s).sent
        ((p.forward identity target r₂).run w cache s).sent := by
  constructor
  · intro r q hq name hn
    rw [sent_forward] at hq
    cases ho : p.outbound identity target r with
    | error e =>
      rw [ho] at hq
      cases hq
    | ok q' =>
      rw [ho] at hq
      rw [List.mem_singleton.1 hq]
      exact rewrites_outbound ho hn
  · intro r₁ r₂ h
    rw [sent_forward, sent_forward]
    obtain ⟨e, h₁, h₂⟩ | ⟨q₁, q₂, h₁, h₂, hsame⟩ := outbound_congr (p := p) h
    · rw [h₁, h₂]
      exact .nil
    · rw [h₁, h₂]
      exact .cons hsame .nil

/-- A request for a shell, with a secret of the caller in three of its headers. -/
def shellRequest (secret : String) : InboundRequest where
  method := "POST"
  uri := ⟨none, none, "/proxy/api", none⟩
  headers := ⟨[("authorization", Utf8.encode secret), ("host", Utf8.encode secret),
    ("connection", Utf8.encode "keep-alive, Upgrade"), ("upgrade", Utf8.encode "SPDY/3.1"),
    ("impersonate-user", Utf8.encode secret)]⟩
  body := .empty

theorem sameButCaller_shellRequest (secret other : String) :
    SameButCaller (shellRequest secret) (shellRequest other) where
  method := rfl
  body := rfl
  headers := by
    intro name hn hi
    have hu : "impersonate-user" ≠ name := by
      rintro rfl
      exact absurd hi (by decide)
    simp only [List.mem_cons, List.not_mem_nil, or_false, not_or] at hn
    simp [shellRequest, Headers.values, List.filter_cons, Ne.symm hn.1, Ne.symm hn.2.2.2, hu]

/-- Two callers ask for a shell with different secrets: one request is sent for each of them, the
change of protocol is passed on, and the secrets make no difference. -/
theorem sent_headers_shellRequest :
    let w : World Unit := .answering fun _ => none
    let sent (secret : String) :=
      ((forward ⟨16, none⟩ ⟨"alice", ["dev"]⟩ "/api" (shellRequest secret)).run w default ()).sent
    (sent "one").length = 1 ∧ List.Forall₂ SameRequest (sent "one") (sent "two") ∧
      ∀ q ∈ sent "one", q.headers.values "connection" = [Utf8.encode "keep-alive, Upgrade"] := by
  intro w sent
  refine ⟨by decide, ?_, fun q hq => ?_⟩
  · exact (sent_headers ⟨16, none⟩ ⟨"alice", ["dev"]⟩ "/api" w default ()).2 _ _
      (sameButCaller_shellRequest "one" "two")
  · have hr := (sent_headers ⟨16, none⟩ ⟨"alice", ["dev"]⟩ "/api" w default ()).1
      (shellRequest "one") q hq "connection" (by decide)
    exact hr.upgrade (by decide) (isUpgrade_iff.1 (by decide))

end Proxy

end ClusterGateway

import ClusterGateway.Proofs.Api.Admission
import ClusterGateway.Proofs.Http.Uri
import ClusterGateway.Proofs.Proxy.Forwarding

/-!
# The two entries of the proxy

A request reaches the API server below a place of the API, or through the companion, where the
place is empty.

* `Proxy.parse?_targetOf_root`, `Proxy.parse?_targetOf_place` : what either entry makes of an
  address is an address.
* `Api.answer_below` : **the API below its place is the companion.**
* `Proxy.entries_agree` : both entries send the same request or none, to the path and the query that
  were asked for, and give the same answer.
-/

namespace ClusterGateway

open Http

/-! ### Addresses below a place -/

/-- The address below a place. -/
def Http.Uri.below (place : String) (u : Uri) : Uri := { u with path := place ++ u.path }

/-- The same request for an address below a place. -/
def Http.InboundRequest.below (place : String) (r : InboundRequest) : InboundRequest :=
  { r with uri := r.uri.below place }

/-- A path has something below its root. -/
def Http.Uri.IsBelowRoot (path : String) : Prop := ∃ rest, rest ≠ "" ∧ path = "/" ++ rest

theorem Text.eq_append_of_after? {start s rest : String} (h : after? start s = some rest) :
    s = start ++ rest := by
  rw [after?] at h
  split at h
  · rename_i hprefix
    obtain ⟨more, hmore⟩ := List.isPrefixOf_iff_prefix.1 hprefix
    rw [← hmore, ← String.length_toList, List.drop_left] at h
    rw [← Option.some.inj h, ← String.toList_inj, String.toList_append, String.toList_ofList, hmore]
  · cases h

theorem Http.Uri.IsBelowRoot.isRooted {path : String} (h : Uri.IsBelowRoot path) :
    Uri.IsRooted path := by
  obtain ⟨rest, -, rfl⟩ := h
  exact ⟨rest, rfl⟩

theorem Http.Uri.IsWritable.of_below {place : String} {u : Uri} (h : (u.below place).IsWritable)
    (hr : Uri.IsRooted u.path) : u.IsWritable := by
  have hne : place ++ u.path ≠ "" := by
    rw [Ne, String.append_eq_empty_iff]
    exact fun hempty => Uri.ne_empty_of_isRooted hr hempty.2
  refine ⟨.inr hr, fun b hb => h.path b ?_, h.query, le_trans ?_ h.length⟩
  · rw [Uri.below, Utf8.encode_append]
    exact List.mem_append_right _ hb
  · rw [Uri.target_eq, Uri.target_eq, Uri.below, if_neg hne, if_neg (Uri.ne_empty_of_isRooted hr)]
    simp only [Utf8.encode_append, List.length_append]
    omega

theorem Http.Uri.IsBelowRoot.isWritable {text : String} {u : Uri} (h : Uri.IsBelowRoot u.path)
    (hu : Uri.parse? text = some u) : u.IsWritable := by
  obtain rfl | hu := Uri.IsWritable.of_ofBytes? hu
  · obtain ⟨rest, -, hrest⟩ := h
    have hoctets := Uri.encode_slash rest
    rw [← hrest] at hoctets
    exact absurd (List.cons.inj hoctets).1 (by decide)
  · exact hu

/-! ### The route of the proxy -/

namespace Api

theorem Route.isPath_proxyPlace : Uri.IsPath proxyPlace :=
  List.all_eq_true.1 (by decide : (Utf8.encode proxyPlace).all (Uri.isPathOctet ·.toNat) = true)

theorem Route.isRooted_proxyPlace (path : String) : Uri.IsRooted (proxyPlace ++ path) :=
  ⟨"proxy" ++ path, by rw [← String.append_assoc]; rfl⟩

theorem Route.ofPath?_place {path : String} (h : Uri.IsBelowRoot path) :
    ofPath? (proxyPlace ++ path) = some .proxy := by
  obtain ⟨rest, hrest, rfl⟩ := h
  rw [← String.append_assoc]
  exact ofPath?_proxy hrest

theorem Route.exists_of_ofPath?_proxy {path : String} (h : ofPath? path = some .proxy) :
    ∃ inner, Uri.IsBelowRoot inner ∧ path = proxyPlace ++ inner := by
  rw [ofPath?] at h
  split at h
  · cases h
  split at h
  · cases h
  split at h
  · cases h
  split at h
  · split at h <;> cases h
  · obtain ⟨rest, hrest, -⟩ := Option.map_eq_some_iff.1 h
    obtain ⟨hafter, hne⟩ := Option.filter_eq_some_iff.1 hrest
    refine ⟨"/" ++ rest, ⟨rest, of_decide_eq_true hne, rfl⟩, ?_⟩
    rw [← String.append_assoc]
    exact Text.eq_append_of_after? hafter

end Api

/-! ### Targets -/

namespace Proxy

theorem targetOf_root (u : Uri) : targetOf "" u = u.target := by
  have hpath : Text.after? "" u.path = some u.path := by
    simpa using Text.after?_append "" u.path
  rw [targetOf, hpath]
  rfl

theorem targetOf_below (place : String) (u : Uri) : targetOf place (u.below place) = u.target := by
  rw [targetOf, Uri.below, Text.after?_append]
  rfl

/-- **The companion makes an address of every address.** -/
theorem parse?_targetOf_root {text : String} {u : Uri} (h : Uri.parse? text = some u) :
    ∃ v, Uri.parse? (targetOf "" u) = some v := by
  rw [targetOf_root]
  obtain rfl | hu := Uri.IsWritable.of_ofBytes? h
  · exact ⟨⟨none, none, "*", none⟩, by decide⟩
  · exact ⟨_, hu.parse?_target⟩

/-- **The API makes an address of every address that leads to its proxy.** -/
theorem parse?_targetOf_place {text : String} {u : Uri} (h : Uri.parse? text = some u)
    (hroute : Api.Route.ofPath? u.path = some .proxy) :
    ∃ v, Uri.parse? (targetOf Api.Route.proxyPlace u) = some v := by
  obtain ⟨inner, hinner, hpath⟩ := Api.Route.exists_of_ofPath?_proxy hroute
  obtain rfl | hu := Uri.IsWritable.of_ofBytes? h
  · exact absurd hroute (by decide)
  · have hbelow : u = Uri.below Api.Route.proxyPlace { u with path := inner } := by
      rw [Uri.below, ← hpath]
    rw [hbelow] at hu ⊢
    rw [targetOf_below]
    exact ⟨_, (hu.of_below hinner.isRooted).parse?_target⟩

end Proxy

/-! ### Both entries -/

namespace Api

theorem serveProxy_below (g : Gateway) (place : String) (r : InboundRequest) :
    serveProxy g place (r.below place) = serveProxy g "" r := by
  have htarget : Proxy.targetOf place (r.below place).uri = Proxy.targetOf "" r.uri :=
    (Proxy.targetOf_below place r.uri).trans (Proxy.targetOf_root r.uri).symm
  rw [serveProxy, serveProxy, htarget]
  rfl

/-- **The API below its place is the companion.** -/
theorem answer_below (g : Gateway) {r : InboundRequest} (h : Uri.IsBelowRoot r.uri.path) :
    answer g (r.below Route.proxyPlace) = Companion.answer g r := by
  have hroute : Route.ofPath? (r.below Route.proxyPlace).uri.path = some .proxy :=
    Route.ofPath?_place h
  have hmethod : Route.proxy.answersTo (r.below Route.proxyPlace).method = true := rfl
  have hserve : serve g (r.below Route.proxyPlace) .proxy = serveProxy g "" r :=
    serveProxy_below g Route.proxyPlace r
  rw [answer, hroute]
  dsimp only
  rw [if_pos hmethod, hserve]
  rfl

end Api

theorem Companion.sent_answer (g : Gateway) (r : InboundRequest) {σ : Type} (w : World σ)
    (cache : CatalogCache) (s : σ) : ((Companion.answer g r).run w cache s).sent =
      match g.identify r.headers with
      | .error _ => []
      | .ok identity => match g.proxy.outbound identity (Proxy.targetOf "" r.uri) r with
        | .error _ => []
        | .ok q => [q] := by
  rw [Companion.answer, Api.serveProxy, Api.withCaller]
  cases g.identify r.headers with
  | error e => rfl
  | ok identity =>
    dsimp only
    rw [Proxy.forward]
    cases g.proxy.outbound identity (Proxy.targetOf "" r.uri) r <;> rfl

namespace Proxy

theorem whole?_of_readBody {limit : Nat} {body : Body} {bs : Bytes}
    (h : readBody limit body = .ok bs) : body.whole? = some bs := by
  rw [readBody] at h
  split at h
  · cases h
  cases hwhole : body.whole? with
  | none =>
    rw [hwhole] at h
    cases h
  | some octets =>
    rw [hwhole] at h
    rw [Except.ok.inj h]

/-- What the two entries of a gateway make of a request, whose address is written by a text. -/
structure EntriesAgree (g : Gateway) (text : String) (r : InboundRequest) : Prop where
  /-- What the companion asks for is an address. -/
  companionTarget : ∃ v, Uri.parse? (targetOf "" r.uri) = some v
  /-- What the API asks for is an address, if the request is one for its proxy. -/
  apiTarget : Api.Route.ofPath? r.uri.path = some .proxy →
    ∃ v, Uri.parse? (targetOf Api.Route.proxyPlace r.uri) = some v
  /-- The place of the proxy in front of the text makes the address below it. -/
  below : Uri.IsBelowRoot r.uri.path → r.uri.scheme = none →
    (Utf8.encode (Api.Route.proxyPlace ++ text)).length ≤ Uri.maxLength →
    Uri.parse? (Api.Route.proxyPlace ++ text) = some (r.uri.below Api.Route.proxyPlace)
  /-- The same is sent and answered, whether the request is one for the companion or one below the
  place of the API. -/
  same : Uri.IsBelowRoot r.uri.path → ∀ {σ : Type} (w : World σ) (cache : CatalogCache) (s : σ),
    (Api.answer g (r.below Api.Route.proxyPlace)).run w cache s =
      (Companion.answer g r).run w cache s
  /-- At most one request is sent, with the method, the path, the query and the body of the one that
  arrived; without a scheme its target is the text up to a fragment. -/
  sent : Uri.IsBelowRoot r.uri.path → ∀ {σ : Type} (w : World σ) (cache : CatalogCache) (s : σ),
    ((Companion.answer g r).run w cache s).sent = [] ∨
      ∃ q, ((Companion.answer g r).run w cache s).sent = [q] ∧ q.method = r.method ∧
        q.uri = ⟨none, none, r.uri.path, r.uri.query⟩ ∧ r.body.whole? = some q.body ∧
        (r.uri.scheme = none →
          Utf8.encode q.uri.target = Uri.dropFragment (Utf8.encode text))

  /-- One is sent where the caller is made out and the request passes every check of the proxy. -/
  reached {identity : Identity} : g.identify r.headers = .ok identity →
    (∀ check : Check, check.Passes g.proxy identity (targetOf "" r.uri) r) →
    ∀ {σ : Type} (w : World σ) (cache : CatalogCache) (s : σ),
      ∃ q, ((Companion.answer g r).run w cache s).sent = [q]

/-- **The two entries of the proxy agree.** -/
theorem entries_agree (g : Gateway) {text : String} {r : InboundRequest}
    (hr : Uri.parse? text = some r.uri) : EntriesAgree g text r where
  companionTarget := parse?_targetOf_root hr
  apiTarget := parse?_targetOf_place hr
  below hbelow hscheme hlength := by
    have hwritable : r.uri.IsWritable := hbelow.isWritable hr
    have hne : r.uri.path ≠ "" := Uri.ne_empty_of_isRooted hbelow.isRooted
    obtain ⟨hauthority, htext⟩ := Uri.written_of_ofBytes? hr hscheme hne
    rw [Uri.target_eq, if_neg hne] at htext
    have hplace : Uri.dropFragment (Utf8.encode (Api.Route.proxyPlace ++ text)) =
        Utf8.encode (Api.Route.proxyPlace ++ r.uri.path ++ Uri.written r.uri.query) := by
      rw [Utf8.encode_append, Uri.dropFragment_append Api.Route.isPath_proxyPlace, htext,
        ← Utf8.encode_append, String.append_assoc]
    rw [Uri.parse?, Uri.ofBytes?_of_dropFragment hplace (Api.Route.isRooted_proxyPlace _)
      (Api.Route.isPath_proxyPlace.append hwritable.path) hwritable.query hlength,
      Uri.below, hscheme, hauthority]
  same hbelow _ w cache s := by rw [Api.answer_below g hbelow]
  sent hbelow _ w cache s := by
    have hwritable : r.uri.IsWritable := hbelow.isWritable hr
    have hne : r.uri.path ≠ "" := Uri.ne_empty_of_isRooted hbelow.isRooted
    rw [Companion.sent_answer]
    cases g.identify r.headers with
    | error e => exact .inl rfl
    | ok identity =>
      dsimp only
      cases hq : g.proxy.outbound identity (targetOf "" r.uri) r with
      | error refusal => exact .inl rfl
      | ok q =>
        obtain ⟨uri, headers, body, huri, -, hbody, rfl⟩ := outbound_eq_ok hq
        rw [targetOf_root, hwritable.parse?_target, if_neg hne] at huri
        obtain rfl := Option.some.inj huri
        refine .inr ⟨_, rfl, rfl, rfl, whole?_of_readBody hbody, fun hscheme => ?_⟩
        exact (Uri.written_of_ofBytes? hr hscheme hne).2.symm
  reached hidentity hpasses _ w cache s := by
    obtain ⟨q, hq, -⟩ := outbound_of_passes hpasses
    rw [Companion.sent_answer, hidentity]
    dsimp only
    rw [hq]
    exact ⟨q, rfl⟩

/-- A path that itself starts with the place of the proxy, with a repeated slash and an empty query:
both entries send the same request, whose target is the text. -/
theorem entries_agree_repeatedPlace :
    let g : Gateway := ⟨fun _ => .ok ⟨"alice", ["dev"]⟩, ⟨16, none⟩⟩
    let r : InboundRequest := ⟨"GET", ⟨none, none, "/proxy//v1", some ""⟩, .empty, .empty⟩
    let w : World Unit := .answering fun _ => none
    Uri.parse? "/proxy//v1?" = some r.uri ∧ Uri.IsBelowRoot r.uri.path ∧
      (Api.answer g (r.below Api.Route.proxyPlace)).run w default () =
        (Companion.answer g r).run w default () ∧
      ((Companion.answer g r).run w default ()).sent.map (·.uri.target) = ["/proxy//v1?"] := by
  intro g r w
  have hr : Uri.parse? "/proxy//v1?" = some r.uri := by decide +kernel
  have hbelow : Uri.IsBelowRoot r.uri.path := ⟨"proxy//v1", by decide, by decide⟩
  exact ⟨hr, hbelow, (entries_agree g hr).same hbelow w default (), by decide +kernel⟩

end Proxy

end ClusterGateway

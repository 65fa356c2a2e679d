import ClusterGateway.Proofs.Proxy.Headers
import ClusterGateway.Proofs.Text.Digits

/-!
# What a proxy sends on and what it answers

A proxy checks a request in a fixed order (`Proxy.Check.inOrder`): the target, the size that is
announced, the identity, the size that arrives and the end of the body.

* `Proxy.length?_eq_some_iff` : what a text says about the size of a body, told by the value of its
  digits.
* `Proxy.outbound_of_passes`, `Proxy.outbound_of_isFirstFailure` : the checks decide what becomes of
  a request, the first one that fails before all later ones.
* `Proxy.forwards_once_or_not` : **a request is sent on exactly once when it passes every check and
  never otherwise**; it keeps its method and its body, and the caller gets what the API server
  answers, without the headers of a single connection unless the protocol changes.

The end of a body is waited for without a limit of time.  Of a body that never ends it is said that
nothing is sent on, but not that the caller is told so (`Proxy.Check.IsDecided`).
-/

namespace ClusterGateway

open Http

namespace Proxy

/-! ### Announced sizes -/

/-- A text writes a number: decimal digits, which a plus sign may precede, of a value that fits
into 64 bits. -/
def WritesSize (s : String) (n : Nat) : Prop :=
  ∃ digits : List Char, (s.toList = digits ∨ s.toList = '+' :: digits) ∧ digits ≠ [] ∧
    (∀ c ∈ digits, c.isDigit = true) ∧
    n = Nat.ofDigits 10 (digits.reverse.map fun c => c.toNat - 48) ∧ n < Nat.pow 2 64

/-- The first `content-length` header of a request announces a size. -/
def Announces (h : Headers) (n : Nat) : Prop :=
  ∃ value text, (h.values "content-length").head? = some value ∧
    visibleText? value = some text ∧ WritesSize text n

/-- What follows a plus sign, or the whole text if there is none. -/
def unsigned (s : String) : List Char :=
  match s.toList with
  | '+' :: cs => cs
  | cs => cs

theorem toList_eq_unsigned (s : String) :
    s.toList = unsigned s ∨ s.toList = '+' :: unsigned s := by
  rw [unsigned]
  split
  · rename_i cs hcs
    exact .inr hcs
  · exact .inl rfl

/-- A plus sign is no digit, so that the digits of a text are told from its sign. -/
theorem unsigned_eq {s : String} {digits : List Char}
    (hs : s.toList = digits ∨ s.toList = '+' :: digits)
    (hd : ∀ c ∈ digits, c.isDigit = true) : unsigned s = digits := by
  rw [unsigned]
  split
  · rename_i cs hcs
    rcases hs with hs | hs
    · have hplus : '+'.isDigit = true := hd '+' (by simp [← hs, hcs])
      exact absurd hplus (by decide)
    · rw [hcs, List.cons.injEq] at hs
      exact hs.2
  · rename_i hno
    rcases hs with hs | hs
    · exact hs
    · exact absurd hs (hno digits)

theorem length?_eq_some_iff {s : String} {n : Nat} : length? s = some n ↔ WritesSize s n := by
  have hvalue (cs : List Char) : cs.foldl (fun n c => 10 * n + (c.toNat - 48)) 0 =
      Nat.ofDigits 10 (cs.reverse.map fun c => c.toNat - 48) := Text.foldl_digits_zero cs
  have hlength : length? s =
      if unsigned s ≠ [] ∧ (unsigned s).all Char.isDigit then
        let n := (unsigned s).foldl (fun n c => 10 * n + (c.toNat - 48)) 0
        if n < Nat.pow 2 64 then some n else none
      else none := rfl
  dsimp only at hlength
  rw [hvalue] at hlength
  constructor
  · intro h
    rw [hlength] at h
    split at h
    · rename_i hdigits
      have hd : ∀ c ∈ unsigned s, c.isDigit = true := List.all_eq_true.1 hdigits.2
      split at h
      · rename_i hlt
        cases h
        exact ⟨unsigned s, toList_eq_unsigned s, hdigits.1, hd, rfl, hlt⟩
      · cases h
    · cases h
  · rintro ⟨digits, hs, hne, hd, rfl, hlt⟩
    rw [hlength, unsigned_eq hs hd, if_pos ⟨hne, List.all_eq_true.2 hd⟩, if_pos hlt]

theorem declaredLength?_eq_some_iff {h : Headers} {n : Nat} :
    declaredLength? h = some n ↔ Announces h n := by
  have hname : lowerName "content-length" = "content-length" := by decide
  simp only [declaredLength?, Headers.first?, hname, Option.bind_eq_some_iff, length?_eq_some_iff,
    Announces]
  constructor
  · rintro ⟨text, ⟨value, hv, ht⟩, hn⟩
    exact ⟨value, text, hv, ht, hn⟩
  · rintro ⟨value, text, hv, ht, hn⟩
    exact ⟨text, ⟨value, hv, ht⟩, hn⟩

/-! ### Checks -/

/-- What is checked of a request before it is sent on. -/
inductive Check where
  /-- The target is an address. -/
  | address
  /-- The size that is announced is within the limit. -/
  | announcedSize
  /-- The identity can be written into headers. -/
  | identity
  /-- The size that arrives is within the limit. -/
  | arrivingSize
  /-- The body is complete. -/
  | completeBody
  deriving Repr, DecidableEq

namespace Check

/-- The checks in their order. -/
def inOrder : List Check := [address, announcedSize, identity, arrivingSize, completeBody]

/-- The checks that precede a check. -/
def earlier (c : Check) : List Check := inOrder.takeWhile (· ≠ c)

/-- Whether a check is about the size of the body. -/
def isSize : Check → Bool
  | announcedSize | arrivingSize => true
  | address | identity | completeBody => false

/-- A request passes a check. -/
def Passes (p : Proxy) (caller : Identity) (target : String) (r : InboundRequest) : Check → Prop
  | address => ∃ uri, Uri.parse? target = some uri
  | announcedSize => ∀ n, Announces r.headers n → n ≤ p.bodyLimit
  | identity => caller.IsWritable
  | arrivingSize => r.body.octets.length ≤ p.bodyLimit
  | completeBody => r.body.ending = .complete

/-- A check is the first one that a request fails. -/
def IsFirstFailure (p : Proxy) (caller : Identity) (target : String) (r : InboundRequest)
    (c : Check) : Prop :=
  (∀ b ∈ c.earlier, b.Passes p caller target r) ∧ ¬c.Passes p caller target r

/-- A check comes to an end.  A body that neither ends nor breaks off is waited for, and the caller
is told nothing meanwhile. -/
def IsDecided (r : InboundRequest) : Check → Prop
  | completeBody => r.body.ending ≠ .hanging
  | address | announcedSize | identity | arrivingSize => True

theorem passes_or_exists_isFirstFailure (p : Proxy) (caller : Identity) (target : String)
    (r : InboundRequest) :
    (∀ c : Check, c.Passes p caller target r) ∨ ∃ c, IsFirstFailure p caller target r c := by
  by_cases h₁ : address.Passes p caller target r
  swap
  · exact .inr ⟨address, by simp [earlier, inOrder], h₁⟩
  by_cases h₂ : announcedSize.Passes p caller target r
  swap
  · exact .inr ⟨announcedSize, by simpa [earlier, inOrder] using h₁, h₂⟩
  by_cases h₃ : identity.Passes p caller target r
  swap
  · exact .inr ⟨identity, by simpa [earlier, inOrder] using ⟨h₁, h₂⟩, h₃⟩
  by_cases h₄ : arrivingSize.Passes p caller target r
  swap
  · exact .inr ⟨arrivingSize, by simpa [earlier, inOrder] using ⟨h₁, h₂, h₃⟩, h₄⟩
  by_cases h₅ : completeBody.Passes p caller target r
  swap
  · exact .inr ⟨completeBody, by simpa [earlier, inOrder] using ⟨h₁, h₂, h₃, h₄⟩, h₅⟩
  · exact .inl fun c => by cases c <;> assumption

end Check

/-! ### Answers -/

/-- A caller is told that the request failed, and nothing else. -/
def IsBadGateway (response : Response) : Prop :=
  response.status = 502 ∧ response.body.whole? = some (Utf8.encode "Client request failed")

/-- What a caller is told of a check that fails. -/
def Check.Tells (c : Check) (response : Response) : Prop :=
  if c.isSize then response.status = 413 else IsBadGateway response

/-- What a caller gets of the API server's answer, if there is one: its status and its body, and
its headers without those of a single connection unless the protocol changes. -/
def PassesBack : Option Response → Response → Prop
  | none, response => IsBadGateway response
  | some answer, response => response.status = answer.status ∧ response.body = answer.body ∧
    ∀ name, response.headers.values name =
      if answer.status ≠ 101 ∧ name ∈ protocolHeaders ++ singleHop then []
      else answer.headers.values name

theorem isBadGateway_response : IsBadGateway Refusal.failed.response := by
  constructor
  · rfl
  · exact Body.whole?_ofBytes _

theorem mem_connectionHeaders_iff {name : String} :
    name ∈ connectionHeaders ↔ name ∈ protocolHeaders ++ singleHop := by
  have hperm : connectionHeaders.Perm (protocolHeaders ++ singleHop) := by decide
  exact hperm.mem_iff

theorem passesBack_inbound (answer : Option Response) : PassesBack answer (inbound answer) := by
  cases answer with
  | none => exact isBadGateway_response
  | some answer =>
    rw [inbound]
    by_cases hs : answer.status = 101
    · rw [if_pos hs]
      refine ⟨rfl, rfl, fun name => ?_⟩
      rw [if_neg fun h => h.1 hs]
    · rw [if_neg hs]
      refine ⟨rfl, rfl, fun name => ?_⟩
      -- the headers of a single connection are the ones that `returned` leaves out
      have hvalues : (returned answer.headers).values name =
          if !connectionHeaders.contains name then answer.headers.values name else [] :=
        answer.headers.values_keep name _
      by_cases hm : name ∈ protocolHeaders ++ singleHop
      · rw [if_pos ⟨hs, hm⟩]
        simpa [mem_connectionHeaders_iff.2 hm] using hvalues
      · rw [if_neg fun h => hm h.2]
        simpa [mt mem_connectionHeaders_iff.1 hm] using hvalues

/-! ### Requests that are sent on -/

section Outbound

variable {p : Proxy} {identity : Identity} {target : String} {r : InboundRequest}

theorem announced_iff : (declaredLength? r.headers).any (p.bodyLimit < ·) = true ↔
    ¬Check.announcedSize.Passes p identity target r := by
  rw [Option.any_eq_true, Check.Passes]
  simp only [declaredLength?_eq_some_iff, decide_eq_true_eq]
  push Not
  rfl

theorem headersFor?_eq_none_iff {h : Headers} :
    Impersonation.headersFor? h identity = none ↔ ¬identity.IsWritable := by
  rw [← Impersonation.headersFor?_isSome (h := h), Bool.not_eq_true, Option.isSome_eq_false_iff,
    Option.isNone_iff_eq_none]

/-- Once all that precedes the body is in order, only the body decides what becomes of a request. -/
theorem exists_outbound_eq (haddress : Check.address.Passes p identity target r)
    (hannounced : Check.announcedSize.Passes p identity target r)
    (hidentity : Check.identity.Passes p identity target r) :
    ∃ uri headers, Uri.parse? target = some uri ∧ p.outbound identity target r =
      (readBody p.bodyLimit r.body).map fun body =>
        ⟨r.method, uri, traced headers p.trace, body⟩ := by
  obtain ⟨uri, huri⟩ := haddress
  obtain ⟨headers, hheaders⟩ := Option.isSome_iff_exists.1
    (Impersonation.headersFor?_isSome (h := forwarded r.headers).2 hidentity)
  refine ⟨uri, headers, huri, ?_⟩
  rw [outbound_eq, huri]
  dsimp only
  rw [if_neg fun ha => announced_iff.1 ha hannounced, hheaders]

/-- **A request that passes every check** keeps its method and its body. -/
theorem outbound_of_passes (h : ∀ c : Check, c.Passes p identity target r) :
    ∃ q, p.outbound identity target r = .ok q ∧ q.method = r.method ∧
      Uri.parse? target = some q.uri ∧ r.body.whole? = some q.body := by
  obtain ⟨uri, headers, huri, hout⟩ :=
    exists_outbound_eq (h .address) (h .announcedSize) (h .identity)
  have hlimit : ¬p.bodyLimit < r.body.octets.length := Nat.not_lt.2 (h .arrivingSize)
  have hwhole : r.body.whole? = some r.body.octets := if_pos (h .completeBody)
  have hbody : readBody p.bodyLimit r.body = .ok r.body.octets := by
    rw [readBody, if_neg hlimit, hwhole]
  refine ⟨⟨r.method, uri, traced headers p.trace, r.body.octets⟩, ?_, rfl, huri, hwhole⟩
  rw [hout, hbody]
  rfl

/-- **The first check that fails** says why a request is not sent on. -/
theorem outbound_of_isFirstFailure {c : Check} (h : c.IsFirstFailure p identity target r) :
    p.outbound identity target r =
      .error (if c.isSize then .tooLarge p.bodyLimit else .failed) := by
  obtain ⟨hearlier, hfails⟩ := h
  have hpassed (b : Check) (hb : b ∈ c.earlier := by decide) : b.Passes p identity target r :=
    hearlier b hb
  -- each check is a branch of `outbound`, and those before `c` are passed
  cases c with
  | address =>
    have huri : Uri.parse? target = none := Option.eq_none_iff_forall_ne_some.2 fun uri hu =>
      hfails ⟨uri, hu⟩
    rw [outbound_eq, huri]
    rfl
  | announcedSize =>
    obtain ⟨uri, huri⟩ := hpassed .address
    rw [outbound_eq, huri]
    dsimp only
    rw [if_pos (announced_iff.2 hfails)]
    rfl
  | identity =>
    obtain ⟨uri, huri⟩ := hpassed .address
    rw [outbound_eq, huri]
    dsimp only
    rw [if_neg fun ha => announced_iff.1 ha (hpassed .announcedSize),
      headersFor?_eq_none_iff.2 hfails]
    rfl
  | arrivingSize =>
    obtain ⟨uri, headers, -, hout⟩ :=
      exists_outbound_eq (hpassed .address) (hpassed .announcedSize) (hpassed .identity)
    rw [hout, readBody, if_pos (Nat.not_le.1 hfails)]
    rfl
  | completeBody =>
    obtain ⟨uri, headers, -, hout⟩ :=
      exists_outbound_eq (hpassed .address) (hpassed .announcedSize) (hpassed .identity)
    have hwhole : r.body.whole? = none := if_neg hfails
    rw [hout, readBody, if_neg (Nat.not_lt.2 (hpassed .arrivingSize)), hwhole]
    rfl

end Outbound

/-- **A request is sent on exactly once or not at all.**  If it passes every check, one request is
sent, with its method and its body to the target, and the caller gets what comes back; otherwise
none is sent, and the caller is told of the first check that fails, once it is decided. -/
theorem forwards_once_or_not (p : Proxy) (identity : Identity) (target : String)
    (r : InboundRequest) {σ : Type} (w : World σ) (cache : CatalogCache) (s : σ) :
    let c := (p.forward identity target r).run w cache s
    ((∀ check : Check, check.Passes p identity target r) ∧
      ∃ q, c.sent = [q] ∧ q.method = r.method ∧ Uri.parse? target = some q.uri ∧
        r.body.whole? = some q.body ∧ PassesBack (w.answer s q).1 c.result) ∨
    ∃ check : Check, check.IsFirstFailure p identity target r ∧ c.sent = [] ∧
      (check.IsDecided r → check.Tells c.result) := by
  intro c
  obtain hpasses | ⟨check, hfails⟩ :=
    Check.passes_or_exists_isFirstFailure p identity target r
  · obtain ⟨q, hq, hmethod, huri, hbody⟩ := outbound_of_passes hpasses
    have hrun : c = ⟨inbound (w.answer s q).1, [q], cache, (w.answer s q).2⟩ := by
      simp only [c, forward, hq]
      rfl
    refine .inl ⟨hpasses, q, ?_, hmethod, huri, hbody, ?_⟩
    · rw [hrun]
    · rw [hrun]
      exact passesBack_inbound _
  · have hrun : c = ⟨(if check.isSize then Refusal.tooLarge p.bodyLimit else .failed).response,
        [], cache, s⟩ := by
      simp only [c, forward, outbound_of_isFirstFailure hfails]
      rfl
    refine .inr ⟨check, hfails, ?_, fun _ => ?_⟩
    · rw [hrun]
    · rw [hrun, Check.Tells]
      cases check.isSize with
      | false => exact isBadGateway_response
      | true => rfl

end Proxy

end ClusterGateway

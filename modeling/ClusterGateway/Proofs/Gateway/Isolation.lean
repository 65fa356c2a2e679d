import ClusterGateway.Proofs.Gateway.Errands
import ClusterGateway.Proofs.Resource.Snapshot

/-!
# Callers do not see each other

All callers of a gateway share its cache.  A history is a list of visits, each an errand for a
caller in surroundings of its own; the cache that one visit leaves is the one that the next visit
finds (`Gateway.occasions`).

* `Dialogue.IsLookup.run_eq` : a lookup comes to the same in two worlds that show the same time and
  answer discovery in the same way (`World.Lockstep`).
* `Occasion.Discovers` : the discovery of a visit is the part of its exchanges that is there for
  every caller; a visit has one discovery only (`Occasion.Discovers.unique`).
* `Occasion.agrees`, `Gateway.agrees_occasions` : what two visits for different callers have in
  common, and two histories at every step.
* `Occasion.reply_eq` : where the API server answers by a function, the reply to a query for a table
  or for containers is the one that the caller gets alone from the snapshot.
* `Gateway.callers_are_isolated` : **two histories that differ only in the callers and in what these
  are answered leave the same caches, make the same discoveries, and reply the same where the reply
  is for all callers; and earlier callers do not matter to a query for a table or for containers**.
-/

namespace ClusterGateway

open Http

/-! ### Two worlds -/

/-- Two worlds show the same time and answer requests of discovery in the same way, as long as a
relation holds of the exchanges so far and the states, which such steps preserve. -/
structure World.Lockstep {σ τ : Type} (w : World σ) (v : World τ)
    (R : List Exchanged → σ → τ → Prop) : Prop where
  /-- The moments are the same. -/
  moment {past : List Exchanged} {s : σ} {t : τ} : R past s t → w.moment s = v.moment t
  /-- The clocks are the same. -/
  instant {past : List Exchanged} {s : σ} {t : τ} : R past s t → w.instant s = v.instant t
  /-- The same is chosen. -/
  turn {past : List Exchanged} {s : σ} {t : τ} : R past s t →
    (w.turn s).1 = (v.turn t).1 ∧ R past (w.turn s).2 (v.turn t).2
  /-- The same is answered. -/
  answer {past : List Exchanged} {s : σ} {t : τ} {r : Request} : R past s t →
    Lookup.IsDiscovery past r → (w.answer s r).1 = (v.answer t r).1 ∧
      R (past ++ [(r, (w.answer s r).1)]) (w.answer s r).2 (v.answer t r).2

/-- What surrounds a gateway during a visit. -/
structure Surroundings where
  /-- The states of the world. -/
  {σ : Type}
  /-- The world. -/
  world : World σ
  /-- The state at the start. -/
  state : σ

/-- Two surroundings show the same time and answer requests of discovery in the same way. -/
def Surroundings.Alike (e e' : Surroundings) : Prop :=
  ∃ R, e.world.Lockstep e'.world R ∧ R [] e.state e'.state

/-- Two API servers that answer by a function can differ in what they answer to requests with
headers: discovery has none. -/
theorem Surroundings.alike_answering {f f' : Request → Option Response}
    (h : ∀ r, r.headers = .empty → f r = f' r) :
    Alike ⟨.answering f, ()⟩ ⟨.answering f', ()⟩ := by
  refine ⟨fun _ _ _ => True, ?_, trivial⟩
  constructor
  case moment => exact fun _ => rfl
  case instant => exact fun _ => rfl
  case turn => exact fun _ => ⟨rfl, trivial⟩
  case answer =>
    intro past s t r _ hr
    exact ⟨h r hr.headers_eq, trivial⟩

namespace Dialogue

variable {α : Type} {d : Dialogue α}

/-- **The same run in two worlds.** -/
theorem Meets.run_eq {σ τ : Type} {w : World σ} {v : World τ} {R : List Exchanged → σ → τ → Prop}
    {past : List Exchanged} (hd : d.Meets .discovery (fun _ _ => True) past)
    (hwv : w.Lockstep v R) (cache : CatalogCache) {s : σ} {t : τ} (hst : R past s t) :
    (d.run w cache s).result = (d.run v cache t).result ∧
      (d.run w cache s).cache = (d.run v cache t).cache ∧
      d.exchanges w cache s = d.exchanges v cache t := by
  -- by induction on the dialogue, with the relation between the states as what each step preserves
  induction d generalizing past cache s t with
  | done a => exact ⟨rfl, rfl, rfl⟩
  | send r resume ih =>
    obtain ⟨hanswer, hnext⟩ := hwv.answer hst hd.1
    obtain ⟨hresult, hcache, hexchanges⟩ := ih _ (hd.2 _ trivial) cache hnext
    simp only [run, exchanges]
    rw [← hanswer]
    exact ⟨hresult, hcache, congrArg (_ :: ·) hexchanges⟩
  | look resume ih =>
    simp only [run, exchanges]
    rw [hwv.moment hst]
    exact ih _ _ (hd _ _) cache hst
  | store catalog resume ih =>
    simp only [run, exchanges]
    rw [hwv.moment hst]
    exact ih hd _ hst
  | clock resume ih =>
    simp only [run, exchanges]
    rw [hwv.instant hst]
    exact ih _ (hd _) cache hst
  | choose resume ih =>
    obtain ⟨hturn, hnext⟩ := hwv.turn hst
    simp only [run, exchanges]
    rw [← hturn]
    exact ih _ (hd _) cache hnext

/-- A lookup comes to the same in surroundings that are alike. -/
theorem IsLookup.run_eq (hd : d.IsLookup) {e e' : Surroundings} (he : e.Alike e')
    (cache : CatalogCache) :
    (d.run e.world cache e.state).result = (d.run e'.world cache e'.state).result ∧
      (d.run e.world cache e.state).cache = (d.run e'.world cache e'.state).cache ∧
      d.exchanges e.world cache e.state = d.exchanges e'.world cache e'.state := by
  obtain ⟨R, hR, hstart⟩ := he
  exact (hd.asks []).run_eq hR cache hstart

end Dialogue

/-- All exchanges are of discovery. -/
def Lookup.AreDiscovery (xs : List Exchanged) : Prop :=
  ∀ before x after, xs = before ++ x :: after → IsDiscovery before x.1

theorem Dialogue.IsLookup.areDiscovery {α σ : Type} {d : Dialogue α} (hd : d.IsLookup)
    (w : World σ) (cache : CatalogCache) (s : σ) :
    Lookup.AreDiscovery (d.exchanges w cache s) := fun _ _ _ h =>
  (hd.asks []).allowed (admits_exchanges w cache s) (fun _ _ => trivial) h

section Apart

variable {r : Request} {past : List Exchanged}

theorem Lookup.not_isDiscovery_of_inNameOf {i : Identity} (hi : i.user ≠ "")
    (hr : Exchange.InNameOf i r) : ¬IsDiscovery past r := by
  intro hd
  have huser := hr.2 Impersonation.userHeader Impersonation.isHeader_userHeader
  rw [hd.headers_eq, Impersonation.valuesFor, if_pos rfl, if_neg hi] at huser
  cases huser

theorem Exchange.not_told_nil {α : Type} {address : String} {decode : Json.Decoder α} {a : α} :
    ¬Told [] address decode a := by
  rintro ⟨_, _, _, hmem, _⟩
  cases hmem

/-- The list of the namespaces is not a request with which discovery begins. -/
theorem Lookup.not_isDiscovery_of_reads_namespaces
    (hr : Exchange.Reads Gateway.namespacesAddress r) : ¬IsDiscovery [] r := by
  obtain ⟨uri, huri, rfl⟩ := hr
  have hne {address : String} (h : Uri.parse? address ≠ Uri.parse? Gateway.namespacesAddress) :
      ¬Exchange.Reads address (Exchange.get uri .empty) := by
    rintro ⟨uri', huri', heq⟩
    rw [Exchange.get, Exchange.get, Request.mk.injEq] at heq
    exact h (huri'.trans (heq.2.1 ▸ huri.symm))
  intro hd
  cases hd with
  | coreVersions hr => exact hne (by decide +kernel) hr
  | groups hr => exact hne (by decide +kernel) hr
  | coreKinds ht => exact Exchange.not_told_nil ht
  | groupKinds ht => exact Exchange.not_told_nil ht

theorem Lookup.AreDiscovery.eq_of_append {xs ys us vs : List Exchanged} (hx : AreDiscovery xs)
    (hy : AreDiscovery ys) (hus : ∀ x ∈ us, ∀ past, ¬IsDiscovery past x.1)
    (hvs : ∀ x ∈ vs, ∀ past, ¬IsDiscovery past x.1) (h : xs ++ us = ys ++ vs) : xs = ys := by
  obtain ⟨zs, hys, hzs⟩ | ⟨zs, hxs, hzs⟩ := List.append_eq_append_iff.1 h
  · cases zs with
    | nil => rw [hys, List.append_nil]
    | cons x zs => exact absurd (hy _ _ _ hys) (hus x (hzs ▸ List.mem_cons_self) _)
  · cases zs with
    | nil => rw [hxs, List.append_nil]
    | cons x zs => exact absurd (hx _ _ _ hxs) (hvs x (hzs ▸ List.mem_cons_self) _)

end Apart

/-! ### Histories -/

/-- An errand for a caller. -/
structure Visit where
  /-- What the gateway is asked to do. -/
  errand : Errand
  /-- For whom. -/
  identity : Identity
  /-- What surrounds the gateway meanwhile. -/
  surroundings : Surroundings

/-- Two visits with one errand at the same time, for any callers, with the same answers to requests
of discovery. -/
structure Visit.Alike (v v' : Visit) : Prop where
  /-- The errand is one. -/
  errand : v.errand.Alike v'.errand
  /-- The time and discovery are the same. -/
  surroundings : v.surroundings.Alike v'.surroundings

/-- A visit and the cache that it finds. -/
structure Occasion where
  /-- The visit. -/
  visit : Visit
  /-- The cache. -/
  found : CatalogCache

namespace Occasion

/-- What the gateway does. -/
def dialogue (g : Gateway) (o : Occasion) : Dialogue Reply :=
  o.visit.errand.dialogue g o.visit.identity

/-- What comes of it. -/
def course (g : Gateway) (o : Occasion) : Course o.visit.surroundings.σ Reply :=
  (o.dialogue g).run o.visit.surroundings.world o.found o.visit.surroundings.state

/-- The requests that are sent and what comes back, in their order. -/
def exchanges (g : Gateway) (o : Occasion) : List Exchanged :=
  (o.dialogue g).exchanges o.visit.surroundings.world o.found o.visit.surroundings.state

/-- The cache in which a kind is looked up. -/
def lookedUp (o : Occasion) (id : String) : CatalogCache :=
  ((Lookup.find id).attempt.run o.visit.surroundings.world o.found o.visit.surroundings.state).cache

/-- The same for another caller. -/
def insteadFor (i : Identity) (o : Occasion) : Occasion :=
  { o with visit := { o.visit with identity := i } }

/-- The discovery of a visit.  Whoever the caller is, the exchanges begin with it, and those after
it belong to the caller. -/
def Discovers (g : Gateway) (o : Occasion) (xs : List Exchanged) : Prop :=
  Lookup.AreDiscovery xs ∧ ∀ i, ∃ ys, (o.insteadFor i).exchanges g = xs ++ ys ∧
    ∀ x ∈ ys, o.visit.errand.IsOwn i x.1

/-- What two visits leave and discover and reply alike. -/
structure Agrees (g : Gateway) (o p : Occasion) : Prop where
  /-- The cache afterwards. -/
  cache : (o.course g).cache = (p.course g).cache
  /-- The discovery. -/
  discovery : ∃ xs, o.Discovers g xs ∧ p.Discovers g xs
  /-- The reply, where it is for all callers. -/
  reply : o.visit.errand.IsCommon → (o.course g).result = (p.course g).result

end Occasion

/-- One visit after the other: each finds the cache that the one before has left. -/
def Gateway.occasions (g : Gateway) : CatalogCache → List Visit → List Occasion
  | _, [] => []
  | cache, v :: vs => ⟨v, cache⟩ :: g.occasions (Occasion.course g ⟨v, cache⟩).cache vs

variable {g : Gateway}

namespace Occasion

theorem Discovers.eq_nil {o : Occasion} {xs : List Exchanged} (h : o.Discovers g xs)
    (ho : o.visit.errand = .query .namespaces) : xs = [] := by
  obtain ⟨⟨errand, i, e⟩, found⟩ := o
  subst ho
  obtain ⟨ys, hys, -⟩ := h.2 i
  have hreads := (Errand.confined_namespaces (i := i) g).exchanges e.world found e.state
  cases xs with
  | nil => rfl
  | cons x xs =>
    -- the first exchange is the list of the namespaces, with which no discovery begins
    have hx : x ∈ exchanges g ⟨⟨.query .namespaces, i, e⟩, found⟩ := hys ▸ List.mem_cons_self
    exact absurd (h.1 [] x xs rfl) (Lookup.not_isDiscovery_of_reads_namespaces (hreads x hx))

/-- **A visit has one discovery only.** -/
theorem Discovers.unique {o : Occasion} {xs ys : List Exchanged} (hx : o.Discovers g xs)
    (hy : o.Discovers g ys) : xs = ys := by
  by_cases ho : o.visit.errand = .query .namespaces
  · rw [hx.eq_nil ho, hy.eq_nil ho]
  · -- what belongs to a caller with a name is told from discovery by its headers
    have hown {i : Identity} {r : Request} (hi : i.user ≠ "") (hr : o.visit.errand.IsOwn i r)
        (past : List Exchanged) : ¬Lookup.IsDiscovery past r :=
      Lookup.not_isDiscovery_of_inNameOf hi (Errand.inNameOf_of_isOwn ho hr)
    obtain ⟨us, hus, hus'⟩ := hx.2 ⟨"a", []⟩
    obtain ⟨vs, hvs, hvs'⟩ := hy.2 ⟨"a", []⟩
    refine hx.1.eq_of_append hy.1 ?_ ?_ (hus.symm.trans hvs)
    · exact fun x hx => hown (by decide) (hus' x hx)
    · exact fun x hx => hown (by decide) (hvs' x hx)

theorem discovers {γ : Type} {lookup : Dialogue γ} {v : Visit} (hlookup : lookup.IsLookup)
    (hv : ∀ i, (v.errand.dialogue g i).Continues (v.errand.IsOwn i) lookup)
    (cache : CatalogCache) : Discovers g ⟨v, cache⟩
      (lookup.exchanges v.surroundings.world cache v.surroundings.state) :=
  ⟨hlookup.areDiscovery _ _ _, fun i => (hv i).exchanges _ _ _⟩

/-- **What a step preserves**: two visits that find the same cache. -/
theorem agrees {v v' : Visit} (h : v.Alike v') (cache : CatalogCache) :
    Agrees g ⟨v, cache⟩ ⟨v', cache⟩ := by
  obtain ⟨γ, lookup, hlookup, hforks⟩ := v.errand.forks g
  obtain ⟨-, hcache, hexchanges⟩ := hlookup.run_eq h.surroundings cache
  have hv := hforks v.errand (.same _)
  have hv' := hforks v'.errand h.errand
  constructor
  case cache =>
    -- only the lookup touches the cache
    have hleft := (hv v.identity).cache_run v.surroundings.world cache v.surroundings.state
    have hright := (hv' v'.identity).cache_run v'.surroundings.world cache v'.surroundings.state
    exact hleft.trans (hcache.trans hright.symm)
  case discovery =>
    refine ⟨_, discovers hlookup hv cache, ?_⟩
    rw [hexchanges]
    exact discovers hlookup hv' cache
  case reply =>
    -- a reply that is for all callers is that of a lookup
    intro hcommon
    have hdialogue : v.errand.dialogue g v.identity = v'.errand.dialogue g v'.identity :=
      Errand.dialogue_of_isCommon h.errand hcommon g
    have hall : (v.errand.dialogue g v.identity).IsLookup := Errand.isLookup_of_isCommon hcommon g
    rw [course, course, dialogue, dialogue, ← hdialogue]
    exact (hall.run_eq h.surroundings cache).1

end Occasion

/-- **Two histories**: what they have in common at every step. -/
theorem Gateway.agrees_occasions {cache : CatalogCache} {vs vs' : List Visit}
    (h : List.Forall₂ Visit.Alike vs vs') :
    List.Forall₂ (Occasion.Agrees g) (g.occasions cache vs) (g.occasions cache vs') := by
  induction h generalizing cache with
  | nil => exact .nil
  | cons hv _ ih =>
    have hfirst := Occasion.agrees (g := g) hv cache
    rw [occasions, occasions, ← hfirst.cache]
    exact .cons hfirst ih

/-! ### An API server without a state -/

variable {f : Request → Option Response}

namespace Occasion

theorem isKnown {o : Occasion} (hw : o.visit.surroundings.world.AnswersBy f)
    (h : Lookup.IsKnown f o.found.catalog) : Lookup.IsKnown f (o.course g).cache.catalog := by
  obtain ⟨γ, lookup, hlookup, hforks⟩ := o.visit.errand.forks g
  have hcache := (hforks _ (.same _) o.visit.identity).cache_run o.visit.surroundings.world o.found
  rw [course, dialogue, hcache]
  exact hlookup.keeps hw h _

/-- **The reply to a query for a table or for containers** is the one that the caller gets alone
from the snapshot that has been looked up: if the API server has always been the same, or if the
snapshot knows the kind. -/
theorem reply_eq {o : Occasion} {q : Query} {id : String} (ho : o.visit.errand = .query q)
    (hq : q.kindId? = some id) (hw : o.visit.surroundings.world.AnswersBy f)
    (h : Lookup.IsKnown f o.found.catalog ∨ ((o.lookedUp id).get? id).isSome) :
    (o.course g).cache = o.lookedUp id ∧
      (o.course g).result = .answer ((Gateway.query o.visit.identity q).attempt.run (.answering f)
        (.holding (o.lookedUp id).catalog) ()).result := by
  obtain ⟨⟨errand, i, e⟩, found⟩ := o
  subst ho
  have hquery := Gateway.extends_query (f := f) (i := i) hq
  have hfind := Lookup.result_find_eq hw h
  have hresult := hquery.result_run_eq hw (World.answersBy_answering f) hfind
  rw [course, dialogue, Errand.dialogue, Dialogue.cache_run_bind, Dialogue.result_run_bind]
  exact ⟨hquery.continues.cache_run _ _ _, congrArg Reply.answer hresult⟩

theorem isKnown_found {cache : CatalogCache} {vs : List Visit}
    (hw : ∀ v ∈ vs, v.surroundings.world.AnswersBy f) (h : Lookup.IsKnown f cache.catalog)
    {o : Occasion} (ho : o ∈ g.occasions cache vs) : Lookup.IsKnown f o.found.catalog := by
  induction vs generalizing cache with
  | nil => cases ho
  | cons v vs ih =>
    obtain ⟨hv, hvs⟩ := List.forall_mem_cons.1 hw
    obtain rfl | ho := List.mem_cons.1 ho
    · exact h
    · exact ih hvs (isKnown (o := ⟨v, cache⟩) hv h) ho

end Occasion

namespace Gateway

/-- **Callers do not see each other.**

Two histories with the same errands at the same times, in which discovery is answered in the same
way, differ at most in the callers and in what else is answered: after every visit the caches are
the same, so are the discoveries, and so are the replies that are for all callers, such as the list
of all kinds or one kind.

In a history from an empty cache on, a query for a table or for containers is answered by an API
server without a state as the caller is answered alone with the snapshot in which the kind has been
looked up, and it leaves this snapshot.  Either the API server has always been the same, or the
snapshot knows the kind, and then nothing is said of earlier visits. -/
theorem callers_are_isolated (g : Gateway) :
    (∀ (cache : CatalogCache) (vs vs' : List Visit), List.Forall₂ Visit.Alike vs vs' →
      List.Forall₂ (Occasion.Agrees g) (g.occasions cache vs) (g.occasions cache vs')) ∧
    ∀ (f : Request → Option Response) (now : Moment) (lifetime : Nat) (vs : List Visit),
      ∀ o ∈ g.occasions (.new now lifetime) vs, ∀ (q : Query) (id : String),
        o.visit.errand = .query q → q.kindId? = some id →
        o.visit.surroundings.world.AnswersBy f →
        (∀ v ∈ vs, v.surroundings.world.AnswersBy f) ∨ ((o.lookedUp id).get? id).isSome →
        (o.course g).cache = o.lookedUp id ∧
          (o.course g).result = .answer ((query o.visit.identity q).attempt.run (.answering f)
            (.holding (o.lookedUp id).catalog) ()).result := by
  refine ⟨fun cache vs vs' h => agrees_occasions h, ?_⟩
  intro f now lifetime vs o ho q id herrand hq hw h
  refine Occasion.reply_eq herrand hq hw (h.imp_left fun hall => ?_)
  exact Occasion.isKnown_found hall (.inl rfl) ho

/-- The cluster with two kinds, where nobody may see anything else. -/
def answerForbidden (r : Request) : Option Response :=
  if r.headers = .empty then Lookup.Pool.answerTwoKinds r else some (.text 403 "forbidden")

/-- A query for the table of the pods. -/
def podTable : Query := .table ⟨"pod", "", "", "", false⟩

/-- The table of the pods and then the list of all kinds, for a caller. -/
def twoVisits (i : Identity) (f : Request → Option Response) : List Visit :=
  [⟨.query podTable, i, ⟨.answering f, ()⟩⟩, ⟨.query .resourceIds, i, ⟨.answering f, ()⟩⟩]

/-- Two callers of the cluster with two kinds: one gets no answer in her name, the other is
forbidden everything.  Their visits agree, and the table of the second caller is what he gets
alone. -/
theorem callers_are_isolated_twoCallers :
    let g : Gateway := ⟨fun _ => .ok .none, ⟨16, none⟩⟩
    let xs := g.occasions (.new 0 1000) (twoVisits ⟨"alice", []⟩ Lookup.Pool.answerTwoKinds)
    let ys := g.occasions (.new 0 1000) (twoVisits ⟨"bob", []⟩ answerForbidden)
    List.Forall₂ (Occasion.Agrees g) xs ys ∧
      ∃ o ∈ ys, (o.course g).result = .answer ((query ⟨"bob", []⟩ podTable).attempt.run
        (.answering answerForbidden) (.holding (o.lookedUp "pod").catalog) ()).result := by
  intro g xs ys
  have hsame : Surroundings.Alike ⟨.answering Lookup.Pool.answerTwoKinds, ()⟩
      ⟨.answering answerForbidden, ()⟩ :=
    Surroundings.alike_answering fun r hr => (if_pos hr).symm
  have hvisits : List.Forall₂ Visit.Alike (twoVisits ⟨"alice", []⟩ Lookup.Pool.answerTwoKinds)
      (twoVisits ⟨"bob", []⟩ answerForbidden) :=
    .cons ⟨.same _, hsame⟩ (.cons ⟨.same _, hsame⟩ .nil)
  have hstateless : ∀ v ∈ twoVisits ⟨"bob", []⟩ answerForbidden,
      v.surroundings.world.AnswersBy answerForbidden := by
    simp [twoVisits, World.answersBy_answering]
  refine ⟨(callers_are_isolated g).1 _ _ _ hvisits, _, List.mem_cons_self, ?_⟩
  exact ((callers_are_isolated g).2 answerForbidden 0 1000 _ _ List.mem_cons_self podTable "pod" rfl
    rfl (World.answersBy_answering _) (.inl hstateless)).2

end Gateway

end ClusterGateway

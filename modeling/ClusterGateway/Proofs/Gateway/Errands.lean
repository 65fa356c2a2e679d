import ClusterGateway.Api.Router
import ClusterGateway.Proofs.Gateway.Requests
import ClusterGateway.Proofs.Resource.Stateless
import ClusterGateway.Proofs.Table.FanOut

/-!
# What errands have in common

Whatever a gateway is asked to do is an `Errand`.  An errand takes up the catalog first, with
nothing of the caller; from then on it keeps away from the cache, and what it asks for belongs to
the caller (`Errand.IsOwn`).

* `Dialogue.IsLookup` : a dialogue that makes requests of discovery only and leaves the catalog of
  an API server without a state where it was.
* `Dialogue.Forks` : the dialogues for all callers begin with one lookup and go on each on its own.
* `Errand.forks` : **an errand forks after its lookup**, whoever the caller is.
* `Gateway.extends_query` : a query for a table or for containers goes on from what it has looked
  up, and where the API server answers by a function this alone decides the answer.
-/

namespace ClusterGateway

open Http

/-- Anything may come back, and only requests of discovery are sent. -/
def Terms.discovery : Terms where
  answers _ _ := True
  allows := Lookup.IsDiscovery

theorem Terms.discovers_discovery : Terms.discovery.Discovers where
  lasting := Lookup.lasting_isDiscovery
  discovery _ _ h := h

namespace Dialogue

variable {α β γ : Type}

/-- A dialogue takes up the catalog: it sends requests of discovery only, and where the cache holds
the catalog of an API server without a state or nothing, this stays so. -/
structure IsLookup (d : Dialogue α) : Prop where
  /-- What is sent. -/
  asks (past : List Exchanged) : d.Meets .discovery (fun _ _ => True) past
  /-- What the cache holds. -/
  keeps {f : Request → Option Response} {σ : Type} {w : World σ} {cache : CatalogCache}
    (hw : w.AnswersBy f) (h : Lookup.IsKnown f cache.catalog) (s : σ) :
    Lookup.IsKnown f (d.run w cache s).cache.catalog

namespace IsLookup

theorem bind {d : Dialogue α} {g : α → Dialogue β} (hd : d.IsLookup) (hg : ∀ a, (g a).IsLookup) :
    (d.bind g).IsLookup where
  asks past := (meets_bind _).2 ((hd.asks past).imp fun later a _ _ => (hg a).asks later)
  keeps hw h s := by
    rw [cache_run_bind]
    exact (hg _).keeps hw (hd.keeps hw h s) _

theorem of_confined {d : Dialogue α} {P : Request → Prop} (hd : d.Confined P)
    (hP : ∀ past r, P r → Lookup.IsDiscovery past r) : d.IsLookup where
  asks _ := hd.meets hP
  keeps _ h s := by
    rw [hd.cache_run]
    exact h

theorem done (a : α) : (done a).IsLookup := of_confined (P := fun _ => False) trivial nofun

theorem now : Dialogue.now.IsLookup := of_confined (P := fun _ => False) (fun _ => trivial) nofun

theorem look {g : Moment → CatalogCache → α} :
    (Dialogue.look fun moment cache => .done (g moment cache)).IsLookup where
  asks _ _ _ := trivial
  keeps _ h _ := h

end IsLookup

theorem isLookup_refresh : Lookup.refresh.attempt.IsLookup where
  asks _ := (Lookup.meets_refresh Terms.discovers_discovery).attempt
  keeps hw h _ := .inr (Lookup.catalog_refresh hw h).2

theorem isLookup_find (id : String) : (Lookup.find id).attempt.IsLookup :=
  isLookup_refresh.bind fun _ => .look

theorem isLookup_all : Lookup.all.IsLookup := isLookup_refresh.bind fun _ => .look

theorem isLookup_health : Gateway.health.attempt.IsLookup := by
  refine .of_confined (P := Exchange.Reads Lookup.coreAddress) ?_ fun past r => .coreVersions
  exact (Exchange.confined_read _ _).bind fun _ => Operation.confined_pure ()

/-! ### Forks -/

/-- The dialogues for all callers begin with one lookup; from then on each keeps away from the cache
and sends requests of its own. -/
def Forks (own : Identity → Request → Prop) (d : Identity → Dialogue α) : Prop :=
  ∃ (γ : Type) (lookup : Dialogue γ), lookup.IsLookup ∧ ∀ i, (d i).Continues (own i) lookup

variable {own : Identity → Request → Prop}

namespace Forks

theorem of_confined {d : Identity → Dialogue α} (hd : ∀ i, (d i).Confined (own i)) :
    Forks own d := ⟨Unit, .done (), .done (), fun i => (hd i).continues⟩

theorem of_isLookup {d : Dialogue α} (hd : d.IsLookup) : Forks own fun _ => d :=
  ⟨α, d, hd, fun _ => ⟨.done, (bind_done d).symm, fun _ => trivial⟩⟩

/-- **Going on**, each on its own. -/
theorem bind {d : Identity → Dialogue α} {g : Identity → α → Dialogue β} (hd : Forks own d)
    (hg : ∀ i a, (g i a).Confined (own i)) : Forks own fun i => (d i).bind (g i) := by
  obtain ⟨γ, lookup, hlookup, hd⟩ := hd
  refine ⟨γ, lookup, hlookup, fun i => ?_⟩
  obtain ⟨rest, hrest, hconfined⟩ := hd i
  refine ⟨fun c => (rest c).bind (g i), ?_, fun c => (hconfined c).bind (hg i)⟩
  simp only [hrest, bind_assoc]

/-- **A longer lookup.** -/
theorem after {c : Dialogue γ} {d : Identity → γ → Dialogue α} (hc : c.IsLookup)
    (hd : ∀ a, Forks own fun i => d i a) : Forks own fun i => c.bind (d i) := by
  choose Γ lookup hlookup rest hrest hconfined using hd
  -- what is found is the end of the first lookup with that of the second, which depends on it
  let found : Dialogue (Σ a, Γ a) := c.bind fun a => (lookup a).bind fun b => .done ⟨a, b⟩
  refine ⟨Σ a, Γ a, found, ?_, fun i => ⟨fun p => rest p.1 i p.2, ?_, fun p => ?_⟩⟩
  · exact hc.bind fun a => (hlookup a).bind fun b => .done _
  · simp only [found, bind_assoc, done_bind]
    exact congrArg c.bind (funext fun a => hrest a i)
  · exact hconfined p.1 i p.2

end Forks

end Dialogue

namespace Operation

variable {α β γ : Type} {own : Identity → Request → Prop}

/-- The operations for all callers begin with one lookup and go on each on its own. -/
def Forks (own : Identity → Request → Prop) (o : Identity → Operation α) : Prop :=
  Dialogue.Forks own fun i => (o i).attempt

theorem Forks.bind {o : Identity → Operation α} {g : Identity → α → Operation β}
    (ho : Forks own o) (hg : ∀ i a, (g i a).Confined (own i)) :
    Forks own fun i => o i >>= g i := by
  simp only [Forks, attempt_bind]
  exact Dialogue.Forks.bind ho fun i => Confined.next (hg i)

theorem forks_ofExcept_bind {r : Except GatewayError α} {g : Identity → α → Operation β}
    (hg : ∀ a, Forks own fun i => g i a) : Forks own fun i => ofExcept r >>= g i := by
  cases r with
  | ok a => exact hg a
  | error e => exact Dialogue.Forks.of_isLookup (.done _)

theorem forks_ofDialogue_bind {c : Dialogue γ} {g : Identity → γ → Operation β} (hc : c.IsLookup)
    (hg : ∀ a, Forks own fun i => g i a) : Forks own fun i => ofDialogue c >>= g i := by
  simp only [Forks, attempt_bind, attempt_ofDialogue, Dialogue.bind_assoc]
  exact Dialogue.Forks.after hc hg

end Operation

open Exchange

/-! ### Errands -/

/-- What a gateway is asked to do. -/
inductive Errand : Type 1 where
  /-- To answer a query. -/
  | query (q : Query)
  /-- To check whether the caller may follow logs. -/
  | mayFollow (q : LogsQuery)
  /-- To follow logs. -/
  | follow {σ : Type} (q : LogsQuery) (sink : LineSink σ) (s : σ) (cancelled : Bool)
  /-- To pass a request on. -/
  | forward (target : String) (r : InboundRequest)
  /-- To answer with one kind, by its id with escapes. -/
  | resource (id : String)
  /-- To say whether the cluster answers. -/
  | health
  /-- To make sure that the cache is valid. -/
  | refresh

/-- What comes back. -/
inductive Reply where
  /-- The answer to a query. -/
  | answer (r : Except GatewayError QueryAnswer)
  /-- Whether the caller may follow logs. -/
  | allowed (r : Except ServiceError Unit)
  /-- The lines of a live stream. -/
  | lines (r : Except GatewayError (List LogLine))
  /-- A response of the API. -/
  | response (r : Response)
  /-- Whether the cache is valid. -/
  | refreshed (r : Except GatewayError Unit)

namespace Errand

/-- What a gateway does for a caller. -/
def dialogue (g : Gateway) : Errand → Identity → Dialogue Reply
  | query q, i => (Gateway.query i q).attempt.bind fun r => .done (.answer r)
  | mayFollow q, i => (Gateway.mayFollow i q).bind fun r => .done (.allowed r)
  | follow q sink s cancelled, i =>
    (Gateway.follow i q sink s cancelled).attempt.bind fun r => .done (.lines r)
  | forward target r, i => (g.proxy.forward i target r).bind fun r => .done (.response r)
  | resource id, _ => (Api.serveResource id).bind fun r => .done (.response r)
  | health, _ => Api.serveHealth.bind fun r => .done (.response r)
  | refresh, _ => Lookup.refresh.attempt.bind fun r => .done (.refreshed r)

/-- A request of an errand that belongs to the caller: the list of the namespaces, or one in the
caller's name. -/
def IsOwn : Errand → Identity → Request → Prop
  | query .resourceIds, _, _ | resource _, _, _ | health, _, _ | refresh, _, _ => False
  | query .namespaces, _, r => Reads Gateway.namespacesAddress r
  | query (.table _), i, r | query (.containers _), i, r | query (.logs _), i, r
  | mayFollow _, i, r | follow .., i, r | forward .., i, r => InNameOf i r

/-- An errand whose reply is the same for all callers. -/
def IsCommon : Errand → Prop
  | query .resourceIds | resource _ | health | refresh => True
  | query _ | mayFollow _ | follow .. | forward .. => False

/-- One errand; requests to be passed on may differ, since they come from the callers. -/
inductive Alike : Errand → Errand → Prop
  /-- The same. -/
  | same (o : Errand) : Alike o o
  /-- Two requests to be passed on. -/
  | forward {target target' : String} {r r' : InboundRequest} :
    Alike (.forward target r) (.forward target' r')

/-- All that belongs to a caller, apart from the list of the namespaces, is asked in the caller's
name. -/
theorem inNameOf_of_isOwn {o : Errand} {i : Identity} {r : Request} (ho : o ≠ .query .namespaces)
    (hr : o.IsOwn i r) : InNameOf i r := by
  cases o with
  | query q =>
    cases q with
    | resourceIds => exact hr.elim
    | namespaces => exact absurd rfl ho
    | table | containers | logs => exact hr
  | mayFollow | follow | forward => exact hr
  | resource | health | refresh => exact hr.elim

theorem forks_resolve (resource ns name : String) :
    Operation.Forks InNameOf fun i => PodGroup.resolve i resource ns name := by
  simp only [PodGroup.resolve_eq]
  refine Operation.Forks.bind (Dialogue.Forks.of_isLookup (Dialogue.isLookup_find resource)) ?_
  exact fun i d => PodGroup.confined_ofKind d ns name

theorem forks_containers (q : ContainersQuery) :
    Operation.Forks InNameOf fun i => Gateway.containers i q :=
  (forks_resolve _ _ _).bind fun _ _ => Operation.confined_pure _

theorem forks_table (q : TableQuery) :
    Operation.Forks InNameOf fun i => Gateway.table i q := by
  simp only [Gateway.table, TableFetch.table_eq]
  refine Operation.Forks.bind (Dialogue.Forks.of_isLookup (Dialogue.isLookup_find q.resource)) ?_
  exact fun i d => TableFetch.confined_ofKind d _ _ _

theorem forks_lines (q : LogsQuery) :
    Operation.Forks InNameOf fun i => LogBatch.lines i q := by
  simp only [LogBatch.lines_eq]
  refine Operation.forks_ofDialogue_bind .now fun asked => ?_
  refine Operation.forks_ofExcept_bind fun filter => ?_
  exact (forks_resolve _ _ _).bind fun i group => LogBatch.confined_ofGroup q filter _ group

theorem forks_connect (q : LogsQuery) :
    Operation.Forks InNameOf fun i => LiveStream.connect i q := by
  simp only [LiveStream.connect_eq]
  refine Operation.forks_ofExcept_bind fun filter => ?_
  exact (forks_resolve _ _ _).bind fun i group => LiveStream.confined_ofGroup q filter group

theorem forks_end {α β : Type} {own : Identity → Request → Prop} {d : Identity → Dialogue α}
    (hd : Dialogue.Forks own d) (f : α → β) :
    Dialogue.Forks own fun i => (d i).bind fun a => .done (f a) := hd.bind fun _ _ => trivial

variable {i j : Identity}

theorem isLookup_serveResource (id : String) : (Api.serveResource id).IsLookup := by
  rw [Api.serveResource]
  split
  · exact .done _
  · exact (Dialogue.isLookup_find _).bind fun _ => .done _

/-- **An errand whose reply is the same for all callers is all lookup.** -/
theorem isLookup_of_isCommon {o : Errand} (ho : o.IsCommon) (g : Gateway) :
    (o.dialogue g i).IsLookup := by
  cases o with
  | query q =>
    cases q with
    | resourceIds =>
      have hquery : (Gateway.query i .resourceIds).attempt =
          Lookup.all.bind fun ds => .done (.ok (.kinds ds)) := by
        rw [Gateway.query, Operation.attempt_bind, Operation.attempt_ofDialogue,
          Dialogue.bind_assoc]
        rfl
      rw [dialogue, hquery]
      exact (Dialogue.isLookup_all.bind fun _ => .done _).bind fun _ => .done _
    | namespaces | table | containers | logs => exact ho.elim
  | resource id => exact (isLookup_serveResource id).bind fun _ => .done _
  | health => exact (Dialogue.isLookup_health.bind fun _ => .done _).bind fun _ => .done _
  | refresh => exact Dialogue.isLookup_refresh.bind fun _ => .done _
  | mayFollow | follow | forward => exact ho.elim

theorem dialogue_of_isCommon {o p : Errand} (h : o.Alike p) (ho : o.IsCommon) (g : Gateway) :
    o.dialogue g i = p.dialogue g j := by
  cases h with
  | forward => exact ho.elim
  | same =>
    cases o with
    | query q =>
      cases q with
      | resourceIds => rfl
      | namespaces | table | containers | logs => exact ho.elim
    | resource | health | refresh => rfl
    | mayFollow | follow | forward => exact ho.elim

theorem forks_of_isCommon {o : Errand} (ho : o.IsCommon) (g : Gateway) :
    Dialogue.Forks o.IsOwn (o.dialogue g) := by
  have hsame : o.dialogue g = fun _ => o.dialogue g .none :=
    funext fun _ => dialogue_of_isCommon (.same o) ho g
  rw [hsame]
  exact .of_isLookup (isLookup_of_isCommon ho g)

theorem confined_namespaces (g : Gateway) :
    ((query .namespaces).dialogue g i).Confined (Reads Gateway.namespacesAddress) := by
  have hread := confined_read Namespaces.decodeList Gateway.namespacesAddress
  have hquery : (Gateway.query i .namespaces).Confined (Reads Gateway.namespacesAddress) :=
    Operation.Confined.bind hread fun _ => Operation.confined_pure _
  exact Dialogue.Confined.bind hquery fun _ => trivial

theorem forks_query (g : Gateway) (q : Query) :
    Dialogue.Forks (query q).IsOwn ((query q).dialogue g) := by
  cases q with
  | resourceIds => exact forks_of_isCommon (o := .query .resourceIds) trivial g
  | namespaces => exact .of_confined fun i => confined_namespaces g
  | table q => exact forks_end ((forks_table q).bind fun _ _ => Operation.confined_pure _) _
  | containers q =>
    exact forks_end ((forks_containers q).bind fun _ _ => Operation.confined_pure _) _
  | logs q => exact forks_end ((forks_lines q).bind fun _ _ => Operation.confined_pure _) _

theorem confined_forward (g : Gateway) (target : String) (r : InboundRequest) :
    ((forward target r).dialogue g i).Confined ((forward target r).IsOwn i) :=
  (Proxy.confined_forward g.proxy target r).bind fun _ => trivial

theorem forks_same (g : Gateway) (o : Errand) : Dialogue.Forks o.IsOwn (o.dialogue g) := by
  cases o with
  | query q => exact forks_query g q
  | mayFollow q => exact forks_end (forks_end (forks_containers _) _) _
  | follow q sink s cancelled =>
    exact forks_end ((forks_connect q).bind fun _ _ => Operation.confined_pure _) _
  | forward target r => exact .of_confined fun i => confined_forward g target r
  | resource id => exact forks_of_isCommon (o := .resource id) trivial g
  | health => exact forks_of_isCommon (o := .health) trivial g
  | refresh => exact forks_of_isCommon (o := .refresh) trivial g

/-- **An errand for any caller** begins with one lookup, and what comes after it belongs to the
caller. -/
theorem forks (g : Gateway) (o : Errand) : ∃ (γ : Type) (lookup : Dialogue γ), lookup.IsLookup ∧
    ∀ p, o.Alike p → ∀ i, (p.dialogue g i).Continues (p.IsOwn i) lookup := by
  by_cases hforward : ∃ target r, o = .forward target r
  · -- requests to be passed on may differ, but nothing is looked up for any of them
    obtain ⟨target, r, rfl⟩ := hforward
    refine ⟨Unit, .done (), .done (), fun p hp i => ?_⟩
    cases hp with
    | same => exact (confined_forward g _ _).continues
    | forward => exact (confined_forward g _ _).continues
  · obtain ⟨γ, lookup, hlookup, ho⟩ := forks_same g o
    refine ⟨γ, lookup, hlookup, fun p hp i => ?_⟩
    cases hp with
    | same => exact ho i
    | forward => exact absurd ⟨_, _, rfl⟩ hforward

end Errand

/-! ### Queries for objects -/

section Determined

variable {f : Request → Option Response} {i : Identity}

theorem TableFetch.isDetermined_ofKind (list : String) (filter : TableFilter) (wide : Bool)
    (d : Descriptor) : (ofKind i list filter wide d).IsDetermined f := by
  refine (Operation.onlySends_ofExcept _).isDetermined.bind fun selection => ?_
  refine (Operation.isDetermined_ofDialogue (Dialogue.isDetermined_collect fun e he => ?_)).bind
    fun results => ?_
  · obtain ⟨c, -, rfl⟩ := List.mem_map.1 he
    exact onlySends_fragment
  · refine (Operation.onlySends_ofExcept _).isDetermined.bind fun fragments => ?_
    exact (Operation.onlySends_ofExcept _).isDetermined

theorem PodGroup.onlySends_object (d : Descriptor) (ns name : String) :
    (object i d ns name).OnlySends :=
  (Operation.onlySends_ofExcept _).bind fun uri => onlySends_fetchAs uri .empty

theorem PodGroup.onlySends_ofWorkload (d : Descriptor) (ns name document : String) :
    (ofWorkload i d ns name document).OnlySends := by
  refine (Operation.onlySends_ofExcept _).bind fun selector => ?_
  refine (Operation.onlySends_ofExcept _).bind fun selector => ?_
  refine (Operation.onlySends_ofExcept _).bind fun text => ?_
  refine Operation.OnlySends.bind ?_ fun pods => Operation.onlySends_ofExcept (.ok _)
  refine (Operation.onlySends_ofExcept _).bind fun uri => ?_
  exact (onlySends_fetchAs uri .empty).bind fun text => Operation.onlySends_ofExcept _

theorem PodGroup.onlySends_ofKind (ns name : String) (d : Descriptor) :
    (ofKind i ns name d).OnlySends := by
  refine (onlySends_object d ns name).bind fun document => ?_
  split
  · exact (Operation.onlySends_ofExcept _).bind fun pod => Operation.onlySends_ofExcept (.ok _)
  · exact onlySends_ofWorkload d ns name document

/-- The kind that a query for a table or for containers is about. -/
def Query.kindId? : Query → Option String
  | .table q => some q.resource
  | .containers q => some q.resource
  | .resourceIds | .namespaces | .logs _ => none

/-- **A query for a table or for containers** looks its kind up and goes on from what it has
found. -/
theorem Gateway.extends_query {q : Query} {id : String} (h : q.kindId? = some id) :
    (query i q).attempt.Extends f (InNameOf i) (Lookup.find id).attempt := by
  have hpure {α : Type} (a : α) : Operation.Confined (InNameOf i) (pure a) ∧
      Operation.IsDetermined f (pure a) := ⟨trivial, .done _⟩
  cases q with
  | table q =>
    cases h
    refine Operation.extends_bind ?_ (fun t => (hpure _).1) fun t => (hpure _).2
    refine Operation.extends_bind (.refl _) (fun d => ?_) fun d => ?_
    · exact TableFetch.confined_ofKind d _ _ _
    · exact TableFetch.isDetermined_ofKind _ _ _ d
  | containers q =>
    cases h
    refine Operation.extends_bind ?_ (fun names => (hpure _).1) fun names => (hpure _).2
    refine Operation.extends_bind ?_ (fun group => (hpure _).1) fun group => (hpure _).2
    refine Operation.extends_bind (.refl _) (fun d => ?_) fun d => ?_
    · exact PodGroup.confined_ofKind d q.ns q.name
    · exact (PodGroup.onlySends_ofKind q.ns q.name d).isDetermined
  | resourceIds | namespaces | logs => cases h

end Determined

end ClusterGateway

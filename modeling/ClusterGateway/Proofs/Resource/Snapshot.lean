import ClusterGateway.Proofs.Resource.Catalog
import ClusterGateway.Proofs.Resource.Refresh
import Mathlib.Logic.Relation

/-!
# The snapshot of the catalog

Any number of calls share one client, and with it the cache of the catalog (`Lookup.Pool`).  A call
refreshes the cache, looks for a kind or lists all kinds; between two of its steps the others may go
on, time goes by, and the API server may answer anything.

* `Lookup.Task.exists_gathers` : a call that stores a catalog has gathered its lists in one
  discovery of its own.
* `Lookup.Pool.IsSound.step`, `Lookup.Pool.isSound_of_reaches` : what a step preserves holds in
  every state that is reached.
* `Lookup.Pool.snapshot_consistent` : **in every state that is reached the snapshot is the first one
  or the catalog of what one discovery has gathered, it is never emptied, and a discovery that comes
  to nothing leaves it alone**.
* `Lookup.Pool.reaches_use` : a call that runs on its own in a world is a special case.
-/

namespace ClusterGateway

open Discovery

namespace Deed

/-- What is seen of the cache is what it holds. -/
def Sees (cache : CatalogCache) : Deed → Prop
  | look _ seen => seen = cache
  | exchange _ _ | store _ _ | clock _ | turn _ => True

/-- The cache afterwards. -/
def leave (cache : CatalogCache) : Deed → CatalogCache
  | store moment catalog => cache.store catalog moment
  | exchange _ _ | look _ _ | clock _ | turn _ => cache

theorem leave_cases (x : Deed) (cache : CatalogCache) :
    x.leave cache = cache ∨
      ∃ moment catalog, x = .store moment catalog ∧ x.leave cache = cache.store catalog moment := by
  cases x with
  | store moment catalog => exact .inr ⟨moment, catalog, rfl, rfl⟩
  | exchange => exact .inl rfl
  | look => exact .inl rfl
  | clock => exact .inl rfl
  | turn => exact .inl rfl

end Deed

namespace Lookup

/-- A call that has begun. -/
structure Task where
  /-- What it is for. -/
  use : Use
  /-- What has taken place in it. -/
  deeds : List Deed
  /-- What is left to do. -/
  rest : Dialogue Unit

namespace Task

/-- A call that has just begun. -/
def begin (u : Use) : Task := ⟨u, [], u.dialogue⟩

/-- A call after one more step. -/
def next (t : Task) (x : Deed) (rest : Dialogue Unit) : Task := ⟨t.use, t.deeds ++ [x], rest⟩

/-- A call has found the cache not valid, and its discovery has come to a result. -/
def Gathers (t : Task) (gathering : List Deed) (r : Except GatewayError (List KindList)) : Prop :=
  ∃ moment seen after, t.deeds = .look moment seen :: (gathering ++ after) ∧
    seen.isValidAt moment = false ∧ gather.attempt.Path gathering (.done r)

/-- The discovery of a call has failed, or it has found no kinds. -/
def ComesToNothing (t : Task) : Prop :=
  ∃ gathering r, t.Gathers gathering r ∧ ∀ lists, r = .ok lists → (Catalog.ofLists lists).isEmpty

/-- A call has stored a snapshot: the catalog, not empty, of the lists that its own discovery has
gathered. -/
def HasStored (t : Task) (cache : CatalogCache) : Prop :=
  .store cache.storedAt cache.catalog ∈ t.deeds ∧ cache.isEmpty = false ∧
    ∃ gathering lists, t.Gathers gathering (.ok lists) ∧ cache.catalog = .ofLists lists

variable {t : Task} {gathering gathering' : List Deed} {r r' : Except GatewayError (List KindList)}
variable {x : Deed} {rest : Dialogue Unit}

theorem Gathers.unique (h : t.Gathers gathering r) (h' : t.Gathers gathering' r') :
    gathering = gathering' ∧ r = r' := by
  obtain ⟨moment, seen, after, hdeeds, -, hpath⟩ := h
  obtain ⟨moment', seen', after', hdeeds', -, hpath'⟩ := h'
  rw [hdeeds, List.cons.injEq] at hdeeds'
  exact hpath.end_unique hpath' hdeeds'.2

theorem Gathers.next (h : t.Gathers gathering r) : (t.next x rest).Gathers gathering r := by
  obtain ⟨moment, seen, after, hdeeds, hseen, hpath⟩ := h
  refine ⟨moment, seen, after ++ [x], ?_, hseen, hpath⟩
  rw [Task.next, hdeeds, List.cons_append, List.append_assoc]

theorem HasStored.next {cache : CatalogCache} (h : t.HasStored cache) :
    (t.next x rest).HasStored cache := by
  obtain ⟨hstore, hne, gathering, lists, hgathers, hcatalog⟩ := h
  exact ⟨List.mem_append_left _ hstore, hne, gathering, lists, hgathers.next, hcatalog⟩

/-- **A call that stores a catalog** has gathered its lists in one discovery of its own, and the
catalog is not empty. -/
theorem exists_gathers (hpath : t.use.dialogue.Path t.deeds t.rest) {moment : Moment}
    {catalog : Catalog} (hstore : .store moment catalog ∈ t.deeds) :
    ∃ gathering lists, t.Gathers gathering (.ok lists) ∧ catalog = .ofLists lists ∧
      catalog.isEmpty = false := by
  obtain ⟨f, hdialogue, hf⟩ := t.use.exists_dialogue_eq
  have hf (r : Except GatewayError Unit) : (f r).StoresNothing := by
    obtain h | h := hf r <;> rw [h] <;> simp [Dialogue.StoresNothing]
  rw [hdialogue] at hpath
  obtain ⟨e, ys, zs, hdeeds, hrefresh, hmem⟩ := hpath.stored_by_first hf hstore
  obtain ⟨seenAt, seen, gathering, lists, after, rfl, hseen, hgather, hcatalog, hne⟩ :=
    stored_by_refresh hrefresh hmem
  refine ⟨gathering, lists, ⟨seenAt, seen, after ++ zs, ?_, hseen, hgather⟩, hcatalog, hne⟩
  rw [hdeeds, List.cons_append, List.append_assoc]

end Task

/-! ### Many calls -/

/-- A client and the calls that share it. -/
structure Pool where
  /-- The cache of the catalog. -/
  cache : CatalogCache
  /-- The calls that have begun. -/
  tasks : List Task

namespace Pool

/-- A client that nothing has been asked of yet. -/
def start (now : Moment) (lifetime : Nat) : Pool := ⟨.new now lifetime, []⟩

/-- One step, and the call that takes it as it is then. -/
inductive Step : Pool → Task → Pool → Prop
  /-- A call begins. -/
  | begins (p : Pool) (u : Use) : Step p (.begin u) ⟨p.cache, p.tasks ++ [.begin u]⟩
  /-- A call goes on. -/
  | goesOn {p : Pool} {k : Nat} {t : Task} {x : Deed} {rest : Dialogue Unit} :
    p.tasks[k]? = some t → t.rest.Step x rest → x.Sees p.cache →
    Step p (t.next x rest) ⟨x.leave p.cache, p.tasks.set k (t.next x rest)⟩

/-- A state is reached from another one by any number of steps. -/
def Reaches : Pool → Pool → Prop := Relation.ReflTransGen fun p q => ∃ t, Step p t q

/-- Every call has gone its way, and the snapshot is the first one or has been stored by one of
them. -/
structure IsSound (first : CatalogCache) (p : Pool) : Prop where
  /-- What has taken place in a call is a path of it. -/
  path : ∀ t ∈ p.tasks, t.use.dialogue.Path t.deeds t.rest
  /-- Where the snapshot comes from. -/
  snapshot : p.cache = first ∨ ∃ t ∈ p.tasks, t.HasStored p.cache

variable {first : CatalogCache} {p q : Pool} {t : Task} {now : Moment} {lifetime : Nat}

theorem Step.mem (h : p.Step t q) : t ∈ q.tasks := by
  cases h with
  | begins u => exact List.mem_append_right _ (List.mem_singleton.2 rfl)
  | goesOn hk => exact List.mem_set (List.getElem?_eq_some_iff.1 hk).1 _

theorem Step.path (h : p.Step t q) (hp : ∀ t ∈ p.tasks, t.use.dialogue.Path t.deeds t.rest) :
    t.use.dialogue.Path t.deeds t.rest := by
  cases h with
  | begins u => exact .nil _
  | goesOn hk hstep => exact (hp _ (List.mem_of_getElem? hk)).snoc hstep

/-- **All calls go their ways.** -/
theorem Step.paths (h : p.Step t q) (hp : ∀ t ∈ p.tasks, t.use.dialogue.Path t.deeds t.rest) :
    ∀ t ∈ q.tasks, t.use.dialogue.Path t.deeds t.rest := by
  intro t' ht'
  have hpath := h.path hp
  -- only the call that takes the step has gone further
  cases h with
  | begins u =>
    obtain ht' | ht' := List.mem_append.1 ht'
    · exact hp t' ht'
    · rwa [List.mem_singleton.1 ht']
  | goesOn hk hstep hsees =>
    obtain ht' | rfl := List.mem_or_eq_of_mem_set ht'
    · exact hp t' ht'
    · exact hpath

theorem Step.exists_hasStored {cache : CatalogCache} (h : p.Step t q)
    (hstored : ∃ t ∈ p.tasks, t.HasStored cache) : ∃ t ∈ q.tasks, t.HasStored cache := by
  obtain ⟨t', ht', hstored⟩ := hstored
  cases h with
  | begins u => exact ⟨t', List.mem_append_left _ ht', hstored⟩
  | @goesOn k t x rest hk hstep hsees =>
    -- it is the call that takes the step, or another one, which stays as it is
    obtain ⟨j, hj⟩ := List.getElem?_of_mem ht'
    by_cases hkj : k = j
    · subst hkj
      rw [hk] at hj
      cases hj
      exact ⟨_, List.mem_set (List.getElem?_eq_some_iff.1 hk).1 _, hstored.next⟩
    · refine ⟨t', List.mem_of_getElem? (i := j) ?_, hstored⟩
      rwa [List.getElem?_set_ne hkj]

/-- **A step leaves the snapshot alone, or it stores what its own call has gathered.** -/
theorem IsSound.cache_step (hp : p.IsSound first) (h : p.Step t q) :
    q.cache = p.cache ∨ t.HasStored q.cache := by
  have hpath := h.path hp.path
  cases h with
  | begins u => exact .inl rfl
  | @goesOn k t x rest hk hstep hsees =>
    obtain hsame | ⟨moment, catalog, rfl, hleave⟩ := x.leave_cases p.cache
    · exact .inl hsame
    · -- the path of the call says where a catalog that is stored comes from
      have hstore : .store moment catalog ∈ (t.next (.store moment catalog) rest).deeds :=
        List.mem_append_right _ (List.mem_singleton.2 rfl)
      obtain ⟨gathering, lists, hgathers, hcatalog, hne⟩ := Task.exists_gathers hpath hstore
      refine .inr ⟨?_, ?_, gathering, lists, hgathers, ?_⟩
      · exact hleave ▸ hstore
      · exact hleave ▸ hne
      · exact hleave ▸ hcatalog

/-- **What a step preserves.** -/
theorem IsSound.step (hp : p.IsSound first) (h : p.Step t q) : q.IsSound first := by
  constructor
  · exact h.paths hp.path
  · obtain hsame | hstored := hp.cache_step h
    · rw [hsame]
      exact hp.snapshot.imp_right h.exists_hasStored
    · exact .inr ⟨t, h.mem, hstored⟩

/-- **What holds in every state that is reached.** -/
theorem isSound_of_reaches (h : (start now lifetime).Reaches p) :
    p.IsSound (.new now lifetime) := by
  induction h with
  | refl => exact ⟨fun t ht => absurd ht List.not_mem_nil, .inl rfl⟩
  | tail _ hstep ih =>
    obtain ⟨t, ht⟩ := hstep
    exact ih.step ht

theorem IsSound.isEmpty_of_reaches (hp : p.IsSound first) (hne : p.cache.isEmpty = false)
    (h : p.Reaches q) : q.cache.isEmpty = false := by
  suffices q.IsSound first ∧ q.cache.isEmpty = false from this.2
  induction h with
  | refl => exact ⟨hp, hne⟩
  | tail _ hstep ih =>
    obtain ⟨t, ht⟩ := hstep
    refine ⟨ih.1.step ht, ?_⟩
    obtain hsame | ⟨-, hne, -⟩ := ih.1.cache_step ht
    · rw [hsame]
      exact ih.2
    · exact hne

theorem IsSound.cache_of_comesToNothing (hp : p.IsSound first) (h : p.Step t q)
    (ht : t.ComesToNothing) : q.cache = p.cache := by
  obtain hsame | ⟨-, hne, gathering, lists, hgathers, hcatalog⟩ := hp.cache_step h
  · exact hsame
  · obtain ⟨gathering', r, hgathers', hr⟩ := ht
    obtain ⟨-, rfl⟩ := hgathers.unique hgathers'
    have hempty : q.cache.isEmpty = true := by
      rw [CatalogCache.isEmpty, hcatalog]
      exact hr lists rfl
    rw [hne] at hempty
    cases hempty

theorem IsSound.isAscending (hp : p.IsSound (.new now lifetime)) :
    Catalog.IsAscending p.cache.catalog.descriptors := by
  obtain hfirst | ⟨t, -, -, -, gathering, lists, -, hcatalog⟩ := hp.snapshot
  · rw [hfirst]
    exact List.Pairwise.nil
  · rw [hcatalog]
    exact Catalog.isAscending_ofDescriptors _

/-! ### One call on its own -/

theorem step_last {cache : CatalogCache} {tasks : List Task} {t : Task} {x : Deed}
    {rest : Dialogue Unit} (h : t.rest.Step x rest) (hx : x.Sees cache) :
    Step ⟨cache, tasks ++ [t]⟩ (t.next x rest) ⟨x.leave cache, tasks ++ [t.next x rest]⟩ := by
  have hlast : (tasks ++ [t])[tasks.length]? = some t := by simp
  have hset : (tasks ++ [t]).set tasks.length (t.next x rest) = tasks ++ [t.next x rest] := by
    simp
  have hstep := Step.goesOn (p := ⟨cache, tasks ++ [t]⟩) hlast h hx
  rwa [hset] at hstep

theorem reaches_run {σ : Type} (w : World σ) (tasks : List Task) (t : Task) (cache : CatalogCache)
    (s : σ) :
    ∃ t', Reaches ⟨cache, tasks ++ [t]⟩ ⟨(t.rest.run w cache s).cache, tasks ++ [t']⟩ := by
  obtain ⟨u, deeds, d⟩ := t
  induction d generalizing deeds cache s with
  | done a => exact ⟨_, .refl⟩
  | send r resume ih =>
    obtain ⟨t', ht'⟩ := ih (w.answer s r).1 cache (w.answer s r).2 (deeds ++ [.exchange r _])
    exact ⟨t', .head ⟨_, step_last (.send r resume _) trivial⟩ ht'⟩
  | look resume ih =>
    obtain ⟨t', ht'⟩ := ih (w.moment s) cache cache s (deeds ++ [.look _ _])
    exact ⟨t', .head ⟨_, step_last (.look resume _ _) rfl⟩ ht'⟩
  | store catalog resume ih =>
    obtain ⟨t', ht'⟩ := ih (cache.store catalog (w.moment s)) s (deeds ++ [.store _ catalog])
    exact ⟨t', .head ⟨_, step_last (.store catalog resume _) trivial⟩ ht'⟩
  | clock resume ih =>
    obtain ⟨t', ht'⟩ := ih (w.instant s) cache s (deeds ++ [.clock _])
    exact ⟨t', .head ⟨_, step_last (.clock resume _) trivial⟩ ht'⟩
  | choose resume ih =>
    obtain ⟨t', ht'⟩ := ih (w.turn s).1 cache (w.turn s).2 (deeds ++ [.turn _])
    exact ⟨t', .head ⟨_, step_last (.choose resume _) trivial⟩ ht'⟩

/-- **A call that runs on its own in a world** leaves the cache in a state that is reached. -/
theorem reaches_use {σ : Type} (w : World σ) (p : Pool) (u : Use) (s : σ) :
    ∃ t, p.Reaches ⟨(u.dialogue.run w p.cache s).cache, p.tasks ++ [t]⟩ := by
  obtain ⟨t, ht⟩ := reaches_run w p.tasks (.begin u) p.cache s
  exact ⟨t, .head ⟨_, .begins p u⟩ ht⟩

/-! ### Every state -/

/-- What is known of the snapshot in a state. -/
structure SnapshotConsistent (first : CatalogCache) (p : Pool) : Prop where
  /-- The snapshot is the first one, or a call has stored it: it is the catalog, not empty, of the
  lists that the one discovery of this call has gathered. -/
  origin : p.cache = first ∨ ∃ t ∈ p.tasks, t.HasStored p.cache
  /-- Only a call that has gathered the lists of a new snapshot replaces the old one. -/
  replaced {t : Task} {q : Pool} : p.Step t q → q.cache = p.cache ∨ t.HasStored q.cache
  /-- A call whose discovery has failed or has found nothing leaves the snapshot with its moment
  alone. -/
  untouched {t : Task} {q : Pool} : p.Step t q → t.ComesToNothing → q.cache = p.cache
  /-- A snapshot that is not empty is never emptied. -/
  kept {q : Pool} : p.cache.isEmpty = false → p.Reaches q → q.cache.isEmpty = false
  /-- What is known under an id has this id. -/
  known {id : String} {d : Descriptor} : p.cache.get? id = some d → d.id = id
  /-- The listing holds exactly what is known under some id. -/
  listed {d : Descriptor} : d ∈ p.cache.all ↔ ∃ id, p.cache.get? id = some d
  /-- The listing is in strictly ascending order of the ids, so that everything is in it once. -/
  ascending : p.cache.all.Pairwise fun d e => d.id < e.id

/-- **The snapshot is consistent in every state that is reached**, however many calls take turns in
whatever order, whatever the API server answers and however much time goes by. -/
theorem snapshot_consistent (h : (start now lifetime).Reaches p) :
    p.SnapshotConsistent (.new now lifetime) := by
  have hsound := isSound_of_reaches h
  -- ids do not occur twice in a catalog in ascending order, so that look-up is membership
  have hget {id : String} {d : Descriptor} :
      p.cache.get? id = some d ↔ d ∈ p.cache.all ∧ d.id = id :=
    Catalog.get?_eq_some_iff hsound.isAscending
  constructor
  case origin => exact hsound.snapshot
  case replaced => exact hsound.cache_step
  case untouched => exact hsound.cache_of_comesToNothing
  case kept => exact hsound.isEmpty_of_reaches
  case known =>
    intro id d hd
    exact (hget.1 hd).2
  case listed =>
    intro d
    constructor
    · intro hd
      exact ⟨d.id, hget.2 ⟨hd, rfl⟩⟩
    · rintro ⟨id, hd⟩
      exact (hget.1 hd).1
  case ascending => exact hsound.isAscending

/-- A cluster with one kind of the core API and one of a group. -/
def answerTwoKinds (r : Http.Request) : Option Http.Response :=
  if r.uri.path = "/api" then some (.text 200 "\x7b\"versions\":[\"v1\"]\x7d")
  else if r.uri.path = "/api/v1" then
    some (.text 200 ("\x7b\"groupVersion\":\"v1\",\"resources\":[\x7b" ++
      "\"name\":\"pods\",\"kind\":\"Pod\",\"verbs\":[\"list\"]\x7d]\x7d"))
  else if r.uri.path = "/apis" then
    some (.text 200 ("\x7b\"groups\":[\x7b\"versions\":[\x7b" ++
      "\"groupVersion\":\"apps/v1\"\x7d]\x7d]\x7d"))
  else if r.uri.path = "/apis/apps/v1" then
    some (.text 200 ("\x7b\"groupVersion\":\"apps/v1\",\"resources\":[\x7b" ++
      "\"name\":\"deployments\",\"kind\":\"Deployment\",\"verbs\":[\"list\"]\x7d]\x7d"))
  else none

/-- Its lists of kinds. -/
def twoKinds : List KindList :=
  [⟨"v1", [⟨"pods", "Pod", false, ["list"]⟩]⟩,
    ⟨"apps/v1", [⟨"deployments", "Deployment", false, ["list"]⟩]⟩]

theorem gather_answerTwoKinds : (gather.attempt.run (.answering answerTwoKinds) (.new 0 1000)
    ()).result = .ok twoKinds := by
  decide +kernel

theorem cache_answerTwoKinds :
    (Use.refresh.dialogue.run (.answering answerTwoKinds) (start 0 1000).cache ()).cache =
      ⟨.ofLists twoKinds, 0, 1000⟩ := by
  have hne : (Catalog.ofLists twoKinds).isEmpty = false := by decide +kernel
  rw [start, Use.cache_run, (cache_run_refresh rfl gather_answerTwoKinds hne).2]
  rfl

/-- A refresh of a client of this cluster leads to a state in which both kinds are known. -/
theorem snapshot_consistent_twoKinds :
    ∃ p, (start 0 1000).Reaches p ∧ p.cache.all.map Descriptor.id = ["deployment.apps", "pod"] ∧
      p.SnapshotConsistent (.new 0 1000) := by
  obtain ⟨t, ht⟩ := reaches_use (.answering answerTwoKinds) (start 0 1000) .refresh ()
  rw [cache_answerTwoKinds] at ht
  have hids : (Catalog.ofLists twoKinds).descriptors.map Descriptor.id =
      ["deployment.apps", "pod"] := by
    decide +kernel
  exact ⟨_, ht, hids, snapshot_consistent ht⟩

end Pool

end Lookup

end ClusterGateway

import ClusterGateway.Proofs.Resource.Snapshot

/-!
# Lookups over time

A snapshot of the catalog counts as valid for the lifetime of the cache from the moment at which it
was stored.  A call that finds it valid asks the API server for nothing; one that does not runs
discovery, and answers from the snapshot that is in place afterwards, whether its discovery has come
to something or not.  Catalogs may also be stored from outside, at any moment.

* `CatalogCache.isValidAt_iff`, `CatalogCache.isValidAt_of_le` : when a snapshot is valid, and that
  it does not become valid again as it ages.
* `Dialogue.acc_follows` : no call goes on for ever.
* `Lookup.refreshed_of_path`, `Lookup.Refreshed.path` : **all that a refresh can do**
  (`Lookup.Refreshed`), and that it can.
* `Lookup.exchanges_of_use` : a call exchanges nothing with the API server but what one discovery
  does.
* `Lookup.Pool.Run.cache_eq` : **the snapshot after a run is the one stored last**.
* `Lookup.Pool.lookups_over_time` : what holds of the snapshot, of the requests and of the answers
  of all calls in every state of a run.
-/

namespace ClusterGateway

open Discovery

namespace CatalogCache

variable {c : CatalogCache} {t t' : Moment}

/-- **When a snapshot is valid**: it is not empty, and less than the lifetime has gone by since it
was stored, where before that moment no time has gone by. -/
theorem isValidAt_iff : c.isValidAt t = true ↔ c.isEmpty = false ∧
    (t < c.storedAt → 0 < c.lifetime) ∧ (c.storedAt ≤ t → t < c.storedAt + c.lifetime) := by
  have hage (now stored lifetime : Nat) : now - stored < lifetime ↔
      (now < stored → 0 < lifetime) ∧ (stored ≤ now → now < stored + lifetime) := by omega
  rw [isValidAt, Bool.and_eq_true, Bool.not_eq_true', decide_eq_true_eq]
  exact and_congr_right fun _ => hage t c.storedAt c.lifetime

/-- A snapshot that is not valid is not valid later. -/
theorem isValidAt_of_le (h : t ≤ t') (ht : c.isValidAt t = false) : c.isValidAt t' = false := by
  rw [isValidAt, Bool.and_eq_false_iff, decide_eq_false_iff_not, Nat.not_lt] at ht ⊢
  exact ht.imp_right fun hage => Nat.le_trans hage (Nat.sub_le_sub_right h _)

/-- The cache after catalogs have been stored, each at a moment. -/
def storeAll (c : CatalogCache) (stored : List (Moment × Catalog)) : CatalogCache :=
  stored.foldl (fun c s => c.store s.2 s.1) c

theorem storeAll_append (c : CatalogCache) (stored more : List (Moment × Catalog)) :
    c.storeAll (stored ++ more) = (c.storeAll stored).storeAll more := List.foldl_append

theorem lifetime_storeAll (c : CatalogCache) (stored : List (Moment × Catalog)) :
    (c.storeAll stored).lifetime = c.lifetime := by
  induction stored generalizing c with
  | nil => rfl
  | cons s stored ih => exact ih (c.store s.2 s.1)

theorem storeAll_eq (c : CatalogCache) (stored : List (Moment × Catalog)) :
    c.storeAll stored = stored.getLast?.elim c fun s => ⟨s.2, s.1, c.lifetime⟩ := by
  obtain rfl | ⟨earlier, s, rfl⟩ := List.eq_nil_or_concat' stored
  · rfl
  · rw [storeAll_append, List.getLast?_concat, Option.elim_some,
      ← lifetime_storeAll c earlier]
    rfl

end CatalogCache

namespace Dialogue

variable {α : Type}

theorem done_or_step (d : Dialogue α) (cache : CatalogCache) :
    (∃ a, d = done a) ∨ ∃ x e, d.Step x e ∧ x.Sees cache := by
  cases d with
  | done a => exact .inl ⟨a, rfl⟩
  | send r resume => exact .inr ⟨_, _, .send r resume none, trivial⟩
  | look resume => exact .inr ⟨_, _, .look resume 0 cache, rfl⟩
  | store catalog resume => exact .inr ⟨_, _, .store catalog resume 0, trivial⟩
  | clock resume => exact .inr ⟨_, _, .clock resume default, trivial⟩
  | choose resume => exact .inr ⟨_, _, .choose resume true, trivial⟩

/-- One dialogue is what is left of another one after a step. -/
def Follows (e d : Dialogue α) : Prop := ∃ x, d.Step x e

/-- **No dialogue goes on for ever.** -/
theorem acc_follows (d : Dialogue α) : Acc Follows d := by
  induction d with
  | done a => exact ⟨_, fun e ⟨_, h⟩ => absurd h not_step_done⟩
  | send r resume ih => exact ⟨_, fun e ⟨_, h⟩ => by cases h; exact ih _⟩
  | look resume ih => exact ⟨_, fun e ⟨_, h⟩ => by cases h; exact ih _ _⟩
  | store catalog resume ih => exact ⟨_, fun e ⟨_, h⟩ => by cases h; exact ih⟩
  | clock resume ih => exact ⟨_, fun e ⟨_, h⟩ => by cases h; exact ih _⟩
  | choose resume ih => exact ⟨_, fun e ⟨_, h⟩ => by cases h; exact ih _⟩

end Dialogue

/-- What takes place beside a cache leaves it alone: it is seen as it is, if at all, and nothing is
stored. -/
structure Deed.LeavesAlone (cache : CatalogCache) (x : Deed) : Prop where
  /-- What is seen of the cache is what it holds. -/
  sees : x.Sees cache
  /-- No catalog is stored. -/
  ne_store : ∀ moment catalog, x ≠ .store moment catalog

theorem Deed.LeavesAlone.leave_eq {cache : CatalogCache} {x : Deed} (h : x.LeavesAlone cache) :
    x.leave cache = cache := by
  obtain hsame | ⟨moment, catalog, hstore, -⟩ := x.leave_cases cache
  · exact hsame
  · exact absurd hstore (h.ne_store moment catalog)

namespace Lookup

/-! ### All that a call can do -/

/-- What has taken place in a refresh that is over, and what has come of it. -/
inductive Refreshed : List Deed → Except GatewayError Unit → Prop
  /-- The snapshot is valid, and nothing more is done. -/
  | valid {moment : Moment} {seen : CatalogCache} : seen.isValidAt moment = true →
    Refreshed [.look moment seen] (.ok ())
  /-- The snapshot is not valid, discovery gathers the lists of a catalog that is not empty, and it
  is stored. -/
  | renewed {moment storing : Moment} {seen : CatalogCache} {gathering : List Deed}
    {lists : List KindList} : seen.isValidAt moment = false →
    gather.attempt.Path gathering (.done (.ok lists)) → (Catalog.ofLists lists).isEmpty = false →
    Refreshed (.look moment seen :: (gathering ++ [.store storing (.ofLists lists)])) (.ok ())
  /-- The snapshot is not valid, and discovery fails or finds nothing. -/
  | failed {moment : Moment} {seen : CatalogCache} {gathering : List Deed}
    {r : Except GatewayError (List KindList)} : seen.isValidAt moment = false →
    gather.attempt.Path gathering (.done r) →
    (∀ lists, r = .ok lists → (Catalog.ofLists lists).isEmpty = true) →
    Refreshed (.look moment seen :: gathering) (.error .discoveryEmpty)

/-- What a call exchanges with the API server is part of one discovery, which it begins because it
finds the snapshot not valid. -/
def DiscoversOnce (xs : List Deed) : Prop :=
  ∃ moment seen gathering after e, xs = .look moment seen :: (gathering ++ after) ∧
    seen.isValidAt moment = false ∧ gather.attempt.Path gathering e ∧ exchanged after = []

variable {xs : List Deed}

/-- **All that a refresh can do.** -/
theorem refreshed_of_path {r : Except GatewayError Unit} (h : refresh.attempt.Path xs (.done r)) :
    Refreshed xs r := by
  obtain ⟨-, hend⟩ | ⟨moment, seen, ys, rfl, ⟨hvalid, rfl, hend⟩ | ⟨hstale, hrest⟩⟩ :=
    path_refresh_cases h
  · rw [attempt_refresh] at hend
    cases hend
  · cases hend
    exact .valid hvalid
  -- discovery has ended somewhere on the path, and the rest follows from what it has come to
  obtain ⟨a, gathering, zs, rfl, hgather, hend⟩ := hrest.of_bind_done
  obtain ⟨rfl, hdone⟩ | ⟨lists, storing, rfl, hne, rfl, hdone⟩ := path_conclude_cases hend
  · obtain ⟨hempty, hconclude⟩ | ⟨lists, -, -, hconclude⟩ := conclude_cases a
    · cases hdone.trans hconclude
      rw [List.append_nil]
      exact .failed hstale hgather hempty
    · cases hdone.trans hconclude
  · cases hdone
    exact .renewed hstale hgather hne

/-- All of it can take place. -/
theorem Refreshed.path {r : Except GatewayError Unit} (h : Refreshed xs r) :
    refresh.attempt.Path xs (.done r) := by
  rw [attempt_refresh]
  cases h with
  | valid hvalid =>
    refine .cons (.look _ _ _) ?_
    rw [if_pos hvalid]
    exact .nil _
  | renewed hstale hgather hne =>
    refine .cons (.look _ _ _) ?_
    rw [if_neg (by simp [hstale])]
    refine hgather.bind ?_
    rw [conclude, if_neg (by simp [hne])]
    exact .cons (.store _ _ _) (.nil _)
  | @failed moment seen gathering a hstale hgather hempty =>
    refine .cons (.look _ _ _) ?_
    rw [if_neg (by simp [hstale]), ← List.append_nil gathering]
    refine hgather.bind ?_
    obtain ⟨-, hconclude⟩ | ⟨lists, hlists, hne, -⟩ := conclude_cases a
    · rw [hconclude]
      exact .nil _
    · rw [hempty lists hlists] at hne
      cases hne

theorem Refreshed.unique {r r' : Except GatewayError Unit} (h : Refreshed xs r)
    (h' : Refreshed xs r') : r = r' := by
  have hsame : xs ++ [] = xs ++ [] := rfl
  exact (h.path.end_unique h'.path hsame).2

theorem exchanges_of_refresh {e : Dialogue (Except GatewayError Unit)}
    (h : refresh.attempt.Path xs e) : exchanged xs = [] ∨ DiscoversOnce xs := by
  obtain ⟨rfl, -⟩ | ⟨moment, seen, ys, rfl, ⟨-, rfl, -⟩ | ⟨hstale, hrest⟩⟩ := path_refresh_cases h
  · exact .inl exchanged_nil
  · exact .inl rfl
  obtain ⟨e', hgather, -⟩ | ⟨a, gathering, zs, rfl, hgather, hend⟩ := hrest.of_bind
  · exact .inr ⟨moment, seen, ys, [], e', by rw [List.append_nil], hstale, hgather, exchanged_nil⟩
  -- what concludes a refresh stores a catalog at most
  have hsilent : exchanged zs = [] := by
    obtain ⟨rfl, -⟩ | ⟨lists, storing, -, -, rfl, -⟩ := path_conclude_cases hend <;> rfl
  exact .inr ⟨moment, seen, gathering, zs, _, rfl, hstale, hgather, hsilent⟩

/-- **What a call exchanges with the API server.** -/
theorem exchanges_of_use {u : Use} {e : Dialogue Unit} (h : u.dialogue.Path xs e) :
    exchanged xs = [] ∨ DiscoversOnce xs := by
  obtain ⟨f, hdialogue, hf⟩ := u.exists_dialogue_eq
  rw [hdialogue] at h
  obtain ⟨e', hrefresh, -⟩ | ⟨r, ys, zs, rfl, hrefresh, hend⟩ := h.of_bind
  · exact exchanges_of_refresh hrefresh
  -- what comes after the refresh is a look at most
  have hsilent : exchanged zs = [] := by
    obtain hdone | hlook := hf r
    · rw [hdone] at hend
      rw [hend.of_done.1, exchanged_nil]
    · rw [hlook] at hend
      obtain ⟨rfl, -⟩ | ⟨moment, cache, ws, rfl, hlast⟩ := hend.of_look
      · exact exchanged_nil
      · rw [hlast.of_done.1]
        rfl
  obtain hnone | ⟨moment, seen, gathering, after, e', rfl, hseen, hgather, hafter⟩ :=
    exchanges_of_refresh hrefresh
  · exact .inl (by rw [exchanged_append, hnone, hsilent, List.append_nil])
  · refine .inr ⟨moment, seen, gathering, after ++ zs, e', ?_, hseen, hgather, ?_⟩
    · rw [List.cons_append, List.append_assoc]
    · rw [exchanged_append, hafter, hsilent, List.append_nil]

theorem exchanges_of_valid {u : Use} {e : Dialogue Unit} (h : u.dialogue.Path xs e)
    {moment : Moment} {seen : CatalogCache} {rest : List Deed}
    (hxs : xs = .look moment seen :: rest) (hvalid : seen.isValidAt moment = true) :
    exchanged xs = [] := by
  obtain hnone | ⟨moment', seen', gathering, after, e', hxs', hseen, -⟩ := exchanges_of_use h
  · exact hnone
  · rw [hxs, List.cons.injEq] at hxs'
    cases hxs'.1
    rw [hvalid] at hseen
    cases hseen

/-! ### Answers -/

/-- What a call that looks for a kind answers from a snapshot, after a refresh has come to
something. -/
structure Answers (id : String) (snapshot : CatalogCache) (refreshed : Except GatewayError Unit)
    (r : Except GatewayError Descriptor) : Prop where
  /-- What the snapshot has under the id, also when the refresh has failed. -/
  known : ∀ d, snapshot.get? id = some d → r = .ok d
  /-- That discovery came to nothing, when it did and the snapshot has nothing under the id. -/
  failed : snapshot.get? id = none → refreshed = .error .discoveryEmpty →
    r = .error .discoveryEmpty
  /-- That there is no such kind, when the snapshot was valid or has been renewed. -/
  unknown : snapshot.get? id = none → refreshed = .ok () → r = .error (.notFound id)

theorem answers_answer (id : String) (snapshot : CatalogCache)
    (refreshed : Except GatewayError Unit) :
    Answers id snapshot refreshed (answer id refreshed (snapshot.get? id)) where
  known d hd := by rw [hd, answer]
  failed hnone hrefreshed := by rw [hnone, hrefreshed, answer]
  unknown hnone hrefreshed := by rw [hnone, hrefreshed, answer]

theorem Answers.eq_answer {id : String} {snapshot : CatalogCache}
    {refreshed : Except GatewayError Unit} {r : Except GatewayError Descriptor}
    (h : Answers id snapshot refreshed r) (hrefreshed : Refreshed xs refreshed) :
    r = answer id refreshed (snapshot.get? id) := by
  cases hget : snapshot.get? id with
  | some d => exact h.known d hget
  | none =>
    cases hrefreshed with
    | valid | renewed => exact h.unknown hget rfl
    | failed => exact h.failed hget rfl

/-- **What a call to find a kind answers.**  It ends with a look at the snapshot after its
refresh. -/
theorem answers_of_path {id : String} (h : (Use.find id).dialogue.Path xs (.done ())) :
    ∃ r refreshing refreshed moment seen, (find id).attempt.Path xs (.done r) ∧
      xs = refreshing ++ [.look moment seen] ∧ Refreshed refreshing refreshed ∧
      Answers id seen refreshed r := by
  rw [Use.dialogue] at h
  obtain ⟨r, ys, zs, rfl, hfind, hend⟩ := h.of_bind_done
  obtain ⟨rfl, -⟩ := hend.of_done
  rw [List.append_nil]
  have hpath := hfind
  rw [find, Operation.attempt_mk] at hpath
  obtain ⟨refreshed, refreshing, zs, rfl, hrefresh, hlook⟩ := hpath.of_bind_done
  obtain ⟨-, hnotOver⟩ | ⟨moment, seen, ws, rfl, hlast⟩ := hlook.of_look
  · cases hnotOver
  obtain ⟨rfl, hr⟩ := hlast.of_done
  cases hr
  exact ⟨_, refreshing, refreshed, moment, seen, hfind, rfl, refreshed_of_path hrefresh,
    answers_answer id seen refreshed⟩

/-! ### Runs -/

/-- What the last step of a call has stored, and when. -/
def Task.lastStored (t : Task) : List (Moment × Catalog) :=
  match t.deeds.getLast? with
  | some (.store moment catalog) => [(moment, catalog)]
  | _ => []

theorem Task.lastStored_next {cache : CatalogCache} {x : Deed} (h : x.LeavesAlone cache) (t : Task)
    (rest : Dialogue Unit) : (t.next x rest).lastStored = [] := by
  rw [lastStored, next, List.getLast?_concat]
  split
  · rename_i moment catalog hstore
    exact absurd (Option.some.inj hstore) (h.ne_store moment catalog)
  · rfl

namespace Pool

/-- A run in which catalogs are stored, each at a moment, by the calls or from outside. -/
inductive Run (p : Pool) : List (Moment × Catalog) → Pool → Prop
  /-- Nothing has happened. -/
  | nil : Run p [] p
  /-- A call takes a step. -/
  | call {stored : List (Moment × Catalog)} {q r : Pool} {t : Task} : Run p stored q → q.Step t r →
    Run p (stored ++ t.lastStored) r
  /-- A catalog is stored from outside. -/
  | setAll {stored : List (Moment × Catalog)} {q : Pool} (moment : Moment) (catalog : Catalog) :
    Run p stored q → Run p (stored ++ [(moment, catalog)]) ⟨q.cache.store catalog moment, q.tasks⟩

variable {p q : Pool} {t : Task} {stored : List (Moment × Catalog)} {now : Moment} {lifetime : Nat}

/-- **What a step does to the snapshot.** -/
theorem Step.cache_eq (h : p.Step t q) : q.cache = p.cache.storeAll t.lastStored := by
  cases h with
  | begins u => rfl
  | @goesOn k t x rest hk hstep hsees =>
    rw [Task.lastStored, Task.next, List.getLast?_concat]
    cases x <;> rfl

theorem Step.sees (h : p.Step t q) {moment : Moment} {seen : CatalogCache}
    (hlast : t.deeds.getLast? = some (.look moment seen)) : seen = p.cache := by
  cases h with
  | begins u => cases hlast
  | @goesOn k t x rest hk hstep hsees =>
    rw [Task.next, List.getLast?_concat] at hlast
    cases hlast
    exact hsees

/-- **The snapshot after a run** has everything stored in it that was stored in the run. -/
theorem Run.cache_eq (h : p.Run stored q) : q.cache = p.cache.storeAll stored := by
  induction h with
  | nil => rfl
  | call _ hstep ih => rw [hstep.cache_eq, ih, CatalogCache.storeAll_append]
  | setAll moment catalog _ ih =>
    rw [CatalogCache.storeAll_append, ← ih]
    rfl

theorem Run.trans {r : Pool} {more : List (Moment × Catalog)} (h : p.Run stored q)
    (h' : q.Run more r) : p.Run (stored ++ more) r := by
  induction h' with
  | nil => rwa [List.append_nil]
  | call _ hstep ih =>
    rw [← List.append_assoc]
    exact .call ih hstep
  | setAll moment catalog _ ih =>
    rw [← List.append_assoc]
    exact .setAll moment catalog ih

theorem Run.paths (h : p.Run stored q) (hp : ∀ t ∈ p.tasks, t.use.dialogue.Path t.deeds t.rest) :
    ∀ t ∈ q.tasks, t.use.dialogue.Path t.deeds t.rest := by
  induction h with
  | nil => exact hp
  | call _ hstep ih => exact hstep.paths ih
  | setAll _ _ _ ih => exact ih

/-- A call that leaves the cache alone can take its steps with nothing between them. -/
theorem run_of_path {cache : CatalogCache} {tasks : List Task} {u : Use} {deeds xs : List Deed}
    {d e : Dialogue Unit} (h : d.Path xs e) (hxs : ∀ x ∈ xs, x.LeavesAlone cache) :
    Run ⟨cache, tasks ++ [⟨u, deeds, d⟩]⟩ [] ⟨cache, tasks ++ [⟨u, deeds ++ xs, e⟩]⟩ := by
  induction h generalizing deeds with
  | nil d =>
    rw [List.append_nil]
    exact .nil
  | @cons d d' e x xs hstep _ ih =>
    obtain ⟨hx, hxs⟩ := List.forall_mem_cons.1 hxs
    have hfirst : Run ⟨cache, tasks ++ [⟨u, deeds, d⟩]⟩ _ _ :=
      .call .nil (step_last (t := ⟨u, deeds, d⟩) hstep hx.sees)
    rw [hx.leave_eq, Task.lastStored_next hx] at hfirst
    have hrest := hfirst.trans (ih hxs)
    rw [List.append_assoc deeds] at hrest
    exact hrest

/-- A refresh that leaves the cache alone is part of a call to find a kind, whose last step can be
taken. -/
theorem exists_find (id : String) {refreshing : List Deed} {refreshed : Except GatewayError Unit}
    (h : Refreshed refreshing refreshed) (halone : ∀ x ∈ refreshing, x.LeavesAlone p.cache)
    (moment : Moment) : ∃ q t r, p.Run [] q ∧ q.Step t r ∧ t.use = .find id ∧ t.rest = .done () ∧
      t.deeds = refreshing ++ [.look moment p.cache] ∧ q.cache = p.cache := by
  have hpath : (Use.find id).dialogue.Path (refreshing ++ [])
      (.look fun _ _ => .done ()) := by
    rw [Use.dialogue, find, Operation.attempt_mk, Dialogue.bind_assoc]
    exact h.path.bind (.nil _)
  rw [List.append_nil] at hpath
  have hbegun : p.Run [] ⟨p.cache, p.tasks ++ [.begin (.find id)]⟩ := .call .nil (.begins p _)
  exact ⟨_, _, _, hbegun.trans (run_of_path hpath halone), step_last (.look _ moment _) rfl, rfl,
    rfl, rfl, rfl⟩

/-- What is known of the snapshot, of the calls and of their answers after a run in which catalogs
have been stored. -/
structure LookupsOverTime (now : Moment) (lifetime : Nat) (stored : List (Moment × Catalog))
    (p : Pool) : Prop where
  /-- The snapshot is the catalog that was stored last, with the moment at which it was stored, or
  the empty one from the start. -/
  snapshot : p.cache = stored.getLast?.elim (.new now lifetime) fun s => ⟨s.2, s.1, lifetime⟩
  /-- It is valid just if it is not empty and less than the lifetime has gone by since then; before
  that moment no time has gone by. -/
  valid (t : Moment) : p.cache.isValidAt t = true ↔ p.cache.isEmpty = false ∧
    (t < p.cache.storedAt → 0 < lifetime) ∧
    (p.cache.storedAt ≤ t → t < p.cache.storedAt + lifetime)
  /-- As long as nothing is stored, it does not become valid again. -/
  aged {q : Pool} {t t' : Moment} : p.Run [] q → t ≤ t' → p.cache.isValidAt t = false →
    q.cache.isValidAt t' = false
  /-- Whatever a call sees of the cache is the snapshot in place. -/
  sees {q : Pool} {t : Task} {moment : Moment} {seen : CatalogCache} : p.Step t q →
    t.deeds.getLast? = some (.look moment seen) → seen = p.cache
  /-- A call that has found the snapshot valid exchanges nothing with the API server. -/
  silent {t : Task} {moment : Moment} {seen : CatalogCache} {rest : List Deed} : t ∈ p.tasks →
    t.deeds = .look moment seen :: rest → seen.isValidAt moment = true → exchanged t.deeds = []
  /-- A call runs discovery once at most. -/
  once {t : Task} : t ∈ p.tasks → exchanged t.deeds = [] ∨ DiscoversOnce t.deeds
  /-- A call that is not over can go on, and none goes on for ever. -/
  ends {t : Task} : t ∈ p.tasks →
    (t.rest = .done () ∨ ∃ x rest, t.rest.Step x rest ∧ x.Sees p.cache) ∧
      Acc Dialogue.Follows t.rest
  /-- The last step of a call that looks for a kind is a look at the snapshot in place after its
  refresh, and from it comes the answer. -/
  answered {q : Pool} {t : Task} {id : String} : p.Step t q → t.use = .find id →
    t.rest = .done () → ∃ r refreshing refreshed moment,
      (find id).attempt.Path t.deeds (.done r) ∧ t.deeds = refreshing ++ [.look moment p.cache] ∧
      Refreshed refreshing refreshed ∧ Answers id p.cache refreshed r

theorem LookupsOverTime.path_answer (hp : LookupsOverTime now lifetime stored p) {id : String}
    {refreshing : List Deed} {last : Deed} {refreshed : Except GatewayError Unit}
    (hstep : p.Step t q) (huse : t.use = .find id) (hrest : t.rest = .done ())
    (hdeeds : t.deeds = refreshing ++ [last]) (h : Refreshed refreshing refreshed) :
    (find id).attempt.Path t.deeds (.done (answer id refreshed (p.cache.get? id))) := by
  obtain ⟨r, refreshing', refreshed', moment', hpath, hdeeds', hrefreshed, hanswers⟩ :=
    hp.answered hstep huse hrest
  obtain ⟨rfl, -⟩ := List.append_inj' (hdeeds.symm.trans hdeeds') rfl
  rw [h.unique hrefreshed, ← hanswers.eq_answer hrefreshed]
  exact hpath

/-- **Lookups over time.**  Any number of calls take turns in whatever order, catalogs are stored
from outside at any moments, and the API server may answer anything. -/
theorem lookups_over_time (h : (start now lifetime).Run stored p) :
    LookupsOverTime now lifetime stored p := by
  have hcache : p.cache =
      stored.getLast?.elim (.new now lifetime) fun s => ⟨s.2, s.1, lifetime⟩ :=
    h.cache_eq.trans (CatalogCache.storeAll_eq _ _)
  have hlifetime : p.cache.lifetime = lifetime := by
    rw [h.cache_eq, CatalogCache.lifetime_storeAll]
    rfl
  have hpaths := h.paths fun t ht => absurd ht List.not_mem_nil
  constructor
  case snapshot => exact hcache
  case valid =>
    intro t
    rw [← hlifetime]
    exact CatalogCache.isValidAt_iff
  case aged =>
    intro q t t' hrun hle ht
    rw [hrun.cache_eq]
    exact CatalogCache.isValidAt_of_le hle ht
  case sees => exact fun hstep hlast => hstep.sees hlast
  case silent => exact fun ht hdeeds hvalid => exchanges_of_valid (hpaths _ ht) hdeeds hvalid
  case once => exact fun ht => exchanges_of_use (hpaths _ ht)
  case ends =>
    intro t _
    refine ⟨?_, t.rest.acc_follows⟩
    exact (t.rest.done_or_step p.cache).imp_left fun ⟨_, hdone⟩ => hdone
  case answered =>
    intro q t id hstep huse hrest
    have hpath := hstep.path hpaths
    rw [huse, hrest] at hpath
    obtain ⟨r, refreshing, refreshed, moment, seen, hfind, hdeeds, hrefreshed, hanswers⟩ :=
      answers_of_path hpath
    have hseen : seen = p.cache := hstep.sees (by rw [hdeeds, List.getLast?_concat])
    exact ⟨r, refreshing, refreshed, moment, hfind, hseen ▸ hdeeds, hrefreshed,
      hseen ▸ hanswers⟩

/-- While nothing is stored, a call is made to find a kind: it looks at the cache at a moment first,
exchanges something with the API server and answers. -/
def Finds (p : Pool) (id : String) (first : Moment) (xs : List Exchanged)
    (r : Except GatewayError Descriptor) : Prop :=
  ∃ q t q' rest, p.Run [] q ∧ q.Step t q' ∧ t.use = .find id ∧ t.rest = .done () ∧
    t.deeds = .look first p.cache :: rest ∧ exchanged t.deeds = xs ∧
    (find id).attempt.Path t.deeds (.done r)

theorem finds_of_refreshed (hp : ∀ q, p.Run [] q → LookupsOverTime now lifetime stored q)
    (id : String) {first : Moment} {more : List Deed} {refreshed : Except GatewayError Unit}
    (h : Refreshed (.look first p.cache :: more) refreshed)
    (hmore : ∀ x ∈ more, x.LeavesAlone p.cache) {r : Except GatewayError Descriptor}
    (hr : answer id refreshed (p.cache.get? id) = r) : p.Finds id first (exchanged more) r := by
  have halone : ∀ x ∈ .look first p.cache :: more, x.LeavesAlone p.cache :=
    List.forall_mem_cons.2 ⟨⟨rfl, nofun⟩, hmore⟩
  obtain ⟨q, t, q', hq, hstep, huse, hrest, hdeeds, hcache⟩ := exists_find id h halone first
  have hpath := (hp q hq).path_answer hstep huse hrest hdeeds h
  rw [hcache, hr] at hpath
  refine ⟨q, t, q', _, hq, hstep, huse, hrest, hdeeds, ?_, hpath⟩
  rw [hdeeds, exchanged_append]
  exact List.append_nil _

/-- The snapshot of two kinds. -/
def storedTwoKinds : CatalogCache := ⟨.ofLists twoKinds, 5, 1000⟩

/-- A catalog that is stored at one moment is valid before and for its lifetime, and then never
again unless another one is stored.  While it is valid, calls are answered without an exchange;
later each of them asks the API server, and if that does not answer, what is known is still
found. -/
theorem lookups_over_time_expires :
    ∃ p, (start 0 1000).Run [(5, .ofLists twoKinds)] p ∧ p.cache.isValidAt 0 = true ∧
      p.cache.isValidAt 1004 = true ∧
      (∀ q, p.Run [] q → ∀ t, 1005 ≤ t → q.cache.isValidAt t = false) ∧
      p.Finds "pod" 1004 [] (.ok (.ofEntry "v1" "Pod" "pods" false)) ∧
      p.Finds "node" 1004 [] (.error (.notFound "node")) ∧
      p.Finds "pod" 1005 [(coreRequest, none)] (.ok (.ofEntry "v1" "Pod" "pods" false)) ∧
      p.Finds "node" 1005 [(coreRequest, none)] (.error .discoveryEmpty) := by
  have hrun : (start 0 1000).Run [(5, .ofLists twoKinds)] ⟨storedTwoKinds, []⟩ := .setAll 5 _ .nil
  have hover := lookups_over_time hrun
  have hlater (q) (hq : Run ⟨storedTwoKinds, []⟩ [] q) := lookups_over_time (hrun.trans hq)
  have hne : storedTwoKinds.isEmpty = false := by decide +kernel
  have hfresh : storedTwoKinds.isValidAt 1004 = true :=
    (hover.valid 1004).2 ⟨hne, by decide, by decide⟩
  have hstale : storedTwoKinds.isValidAt 1005 = false := Bool.eq_false_iff.2 fun hvalid =>
    absurd (((hover.valid 1005).1 hvalid).2.2 (by decide)) (by decide)
  have hunanswered : Refreshed [.look 1005 storedTwoKinds, .exchange coreRequest none]
      (.error .discoveryEmpty) := .failed hstale path_gather_unanswered nofun
  have halone : ∀ x ∈ [Deed.exchange coreRequest none], x.LeavesAlone storedTwoKinds :=
    List.forall_mem_singleton.2 ⟨trivial, nofun⟩
  have hpod : storedTwoKinds.get? "pod" = some (.ofEntry "v1" "Pod" "pods" false) := by
    decide +kernel
  have hnode : storedTwoKinds.get? "node" = none := by decide +kernel
  refine ⟨_, hrun, (hover.valid 0).2 ⟨hne, by decide, by decide⟩, hfresh,
    fun q hq t ht => hover.aged hq ht hstale, ?_, ?_, ?_, ?_⟩
  · exact finds_of_refreshed hlater "pod" (.valid hfresh) nofun (congrArg (answer _ _) hpod)
  · exact finds_of_refreshed hlater "node" (.valid hfresh) nofun (congrArg (answer _ _) hnode)
  · exact finds_of_refreshed hlater "pod" hunanswered halone (congrArg (answer _ _) hpod)
  · exact finds_of_refreshed hlater "node" hunanswered halone (congrArg (answer _ _) hnode)

end Pool

end Lookup

end ClusterGateway

import ClusterGateway.Proofs.Dialogue.Steps
import ClusterGateway.Resource.Lookup

/-!
# What a refresh stores

A refresh of the cache of the catalog looks at the cache first, then gathers the lists of all kinds,
and stores a catalog last; these are steps of their own, and much may happen between them.

* `Lookup.attempt_refresh` : a refresh looks at the cache, gathers lists if the cache is not valid,
  and stores their catalog if that is not empty.
* `Lookup.stored_by_refresh` : **what a refresh stores is the catalog of the lists of one
  discovery**, which stores nothing itself (`Lookup.storesNothing_gather`).
* `Lookup.Use.exists_dialogue_eq` : whatever a client is asked for, it refreshes the cache and then
  looks at it once more at most.
* `Lookup.cache_run_refresh` : the cache after a refresh that runs on its own.
-/

namespace ClusterGateway

open Discovery

namespace Exchange

theorem attempt_read {α : Type} (decode : Json.Decoder α) (address : String) :
    (read decode address).attempt = match Http.Uri.parse? address with
      | none => .done (.error .badUri)
      | some uri => .send (get uri .empty) fun answer => .done ((textOf answer).bind fun text =>
        match decode.parse? text with
        | some a => .ok a
        | none => .error (.exchange .undecodable)) := by
  rw [read, Operation.attempt_bind]
  cases Http.Uri.parse? address with
  | none => rfl
  | some uri =>
    refine congrArg (Dialogue.send _) (funext fun answer => ?_)
    change (Operation.ofExcept (textOf answer) >>= fun text =>
      Operation.orElse (.exchange .undecodable) (decode.parse? text)).attempt = _
    rw [Operation.attempt_bind, Operation.attempt_ofExcept]
    cases textOf answer with
    | error e => rfl
    | ok text =>
      dsimp only [Dialogue.done_bind, Operation.next, Except.bind]
      cases decode.parse? text <;> rfl

theorem onlySends_read {α : Type} (decode : Json.Decoder α) (address : String) :
    (read decode address).OnlySends := by
  refine (Operation.onlySends_ofExcept _).bind fun uri => ?_
  refine (Operation.onlySends_request _).bind fun answer => ?_
  exact (Operation.onlySends_ofExcept _).bind fun text => Operation.onlySends_ofExcept _

end Exchange

namespace Lookup

/-! ### One call -/

theorem storesNothing_read {α : Type} (decode : Json.Decoder α) (address : String) :
    (Exchange.read decode address).StoresNothing :=
  Dialogue.OnlySends.storesNothing (Exchange.onlySends_read decode address)

theorem storesNothing_coreLists (versions : List String) : (coreLists versions).StoresNothing := by
  cases versions with
  | nil => exact trivial
  | cons version versions => exact (storesNothing_read _ _).bind fun kinds => trivial

theorem storesNothing_groupLists (version : String) : (groupLists version).StoresNothing :=
  Dialogue.StoresNothing.bind (storesNothing_read _ _) fun _ => trivial

/-- Discovery stores nothing. -/
theorem storesNothing_gather : gather.StoresNothing := by
  refine (storesNothing_read decodeCoreVersions coreAddress).bind fun versions => ?_
  refine (storesNothing_coreLists versions).bind fun core => ?_
  refine (storesNothing_read decodeGroups groupsAddress).bind fun groups => ?_
  refine Operation.StoresNothing.bind ?_ fun others => trivial
  refine Dialogue.StoresNothing.bind (Dialogue.StoresNothing.all fun d hd => ?_) fun _ => trivial
  obtain ⟨version, -, rfl⟩ := List.mem_map.1 hd
  exact storesNothing_groupLists version

/-- The first request of a discovery. -/
def coreRequest : Http.Request := Exchange.get ⟨none, none, coreAddress, none⟩ .empty

theorem path_gather_unanswered :
    gather.attempt.Path [.exchange coreRequest none] (.done (.error (.exchange .transport))) := by
  have hparse : Http.Uri.parse? coreAddress = some ⟨none, none, coreAddress, none⟩ := by
    decide +kernel
  rw [gather, Operation.attempt_bind, Exchange.attempt_read, hparse]
  exact .cons (.send _ _ none) (.nil _)

/-- How a refresh ends after a discovery. -/
def conclude : Except GatewayError (List KindList) → Dialogue (Except GatewayError Unit)
  | .ok lists =>
    if (Catalog.ofLists lists).isEmpty then .done (.error .discoveryEmpty)
    else .store (.ofLists lists) (.done (.ok ()))
  | .error _ => .done (.error .discoveryEmpty)

theorem conclude_cases (r : Except GatewayError (List KindList)) :
    (∀ lists, r = .ok lists → (Catalog.ofLists lists).isEmpty = true) ∧
        conclude r = .done (.error .discoveryEmpty) ∨
      ∃ lists, r = .ok lists ∧ (Catalog.ofLists lists).isEmpty = false ∧
        conclude r = .store (.ofLists lists) (.done (.ok ())) := by
  cases r with
  | error e => exact .inl ⟨nofun, rfl⟩
  | ok lists =>
    by_cases hempty : (Catalog.ofLists lists).isEmpty = true
    · refine .inl ⟨?_, if_pos hempty⟩
      rintro _ ⟨⟩
      exact hempty
    · exact .inr ⟨lists, rfl, Bool.eq_false_iff.2 hempty, if_neg hempty⟩

/-- **A refresh** looks at the cache and, if it is not valid, gathers the lists of all kinds. -/
theorem attempt_refresh : refresh.attempt = .look fun moment cache =>
    if cache.isValidAt moment then .done (.ok ()) else gather.attempt.bind conclude := by
  have hdiscover : (Operation.ofDialogue discover >>= fun catalog =>
      if catalog.isEmpty then Operation.ofExcept (.error .discoveryEmpty)
      else Operation.ofDialogue (.keep catalog)).attempt = gather.attempt.bind conclude := by
    rw [Operation.attempt_bind, Operation.attempt_ofDialogue, discover, Dialogue.bind_assoc,
      Dialogue.bind_assoc]
    congr 1
    funext r
    cases r with
    | error e => rfl
    | ok lists =>
      rw [conclude]
      simp only [Dialogue.done_bind, Operation.next]
      split <;> rfl
  rw [refresh, Operation.attempt_bind]
  refine congrArg Dialogue.look (funext fun moment => funext fun cache => ?_)
  rw [← hdiscover]
  simp only [Dialogue.done_bind, Operation.next]
  split <;> rfl

/-- **A refresh that runs on its own** stores the catalog of the lists that it gathers, if the cache
is not valid and the catalog is not empty. -/
theorem cache_run_refresh {σ : Type} {w : World σ} {cache : CatalogCache} {s : σ}
    {lists : List KindList} (hcache : cache.isValidAt (w.moment s) = false)
    (hgather : (gather.attempt.run w cache s).result = .ok lists)
    (hlists : (Catalog.ofLists lists).isEmpty = false) :
    (refresh.attempt.run w cache s).result = .ok () ∧ (refresh.attempt.run w cache s).cache =
      cache.store (.ofLists lists) (w.moment (gather.attempt.run w cache s).state) := by
  have hsame := Dialogue.StoresNothing.cache_run storesNothing_gather w cache s
  rw [attempt_refresh, Dialogue.run, if_neg (by simp [hcache]), Dialogue.result_run_bind,
    Dialogue.cache_run_bind, hgather, conclude, if_neg (by simp [hlists]), hsame]
  exact ⟨rfl, rfl⟩

section Path

variable {xs : List Deed} {e : Dialogue (Except GatewayError Unit)}

theorem path_conclude_cases {r : Except GatewayError (List KindList)} (h : (conclude r).Path xs e) :
    xs = [] ∧ e = conclude r ∨
      ∃ lists moment, r = .ok lists ∧ (Catalog.ofLists lists).isEmpty = false ∧
        xs = [.store moment (.ofLists lists)] ∧ e = .done (.ok ()) := by
  obtain ⟨-, hconclude⟩ | ⟨lists, rfl, hne, hconclude⟩ := conclude_cases r
  · rw [hconclude] at h ⊢
    exact .inl h.of_done
  · rw [hconclude] at h ⊢
    obtain hnone | ⟨moment, ys, rfl, hrest⟩ := h.of_store
    · exact .inl hnone
    · obtain ⟨rfl, rfl⟩ := hrest.of_done
      exact .inr ⟨lists, moment, rfl, hne, rfl, rfl⟩

/-- **How a refresh goes on after its look at the cache**: it is over if the cache is valid, and
else it gathers the lists of all kinds and concludes. -/
theorem path_refresh_cases (h : refresh.attempt.Path xs e) : xs = [] ∧ e = refresh.attempt ∨
    ∃ moment seen ys, xs = .look moment seen :: ys ∧
      (seen.isValidAt moment = true ∧ ys = [] ∧ e = .done (.ok ()) ∨
        seen.isValidAt moment = false ∧ (gather.attempt.bind conclude).Path ys e) := by
  rw [attempt_refresh] at h ⊢
  obtain hnone | ⟨moment, seen, ys, rfl, hrest⟩ := h.of_look
  · exact .inl hnone
  refine .inr ⟨moment, seen, ys, rfl, ?_⟩
  by_cases hvalid : seen.isValidAt moment = true
  · rw [if_pos hvalid] at hrest
    exact .inl ⟨hvalid, hrest.of_done⟩
  · rw [if_neg hvalid] at hrest
    exact .inr ⟨Bool.eq_false_iff.2 hvalid, hrest⟩

/-- **What a refresh stores** is the catalog, not empty, of the lists that it has gathered after it
has seen a cache that was not valid. -/
theorem stored_by_refresh {moment : Moment} {catalog : Catalog} (h : refresh.attempt.Path xs e)
    (hmem : .store moment catalog ∈ xs) :
    ∃ seenAt seen gathering lists after, xs = .look seenAt seen :: (gathering ++ after) ∧
      seen.isValidAt seenAt = false ∧ gather.attempt.Path gathering (.done (.ok lists)) ∧
      catalog = .ofLists lists ∧ catalog.isEmpty = false := by
  obtain ⟨rfl, -⟩ | ⟨seenAt, seen, ys, rfl, ⟨-, rfl, -⟩ | ⟨hstale, hrest⟩⟩ := path_refresh_cases h
  · exact absurd hmem List.not_mem_nil
  · cases List.mem_singleton.1 hmem
  obtain hmem | hmem := List.mem_cons.1 hmem
  · cases hmem
  obtain ⟨r, gathering, after, rfl, hgather, hend, hmem⟩ :=
    hrest.stored_by_second storesNothing_gather hmem
  obtain ⟨rfl, -⟩ | ⟨lists, storing, rfl, hne, rfl, -⟩ := path_conclude_cases hend
  · exact absurd hmem List.not_mem_nil
  · rw [List.mem_singleton, Deed.store.injEq] at hmem
    exact ⟨seenAt, seen, gathering, lists, _, rfl, hstale, hgather, hmem.2, hmem.2 ▸ hne⟩

end Path

/-- What a client can be asked for. -/
inductive Use where
  /-- To make sure that the cache is valid. -/
  | refresh
  /-- The kind with an id. -/
  | find (id : String)
  /-- All kinds. -/
  | all

namespace Use

/-- What a call does. -/
def dialogue : Use → Dialogue Unit
  | refresh => Lookup.refresh.attempt.bind fun _ => .done ()
  | find id => (Lookup.find id).attempt.bind fun _ => .done ()
  | all => Lookup.all.bind fun _ => .done ()

/-- Every call is a refresh, after which it looks at the cache once more or is over. -/
theorem exists_dialogue_eq (u : Use) : ∃ f : Except GatewayError Unit → Dialogue Unit,
    u.dialogue = Lookup.refresh.attempt.bind f ∧
      ∀ r, f r = .done () ∨ f r = .look fun _ _ => .done () := by
  cases u with
  | refresh => exact ⟨_, rfl, fun _ => .inl rfl⟩
  | find id =>
    rw [dialogue, Lookup.find, Operation.attempt_mk, Dialogue.bind_assoc]
    exact ⟨_, rfl, fun _ => .inr rfl⟩
  | all =>
    rw [dialogue, Lookup.all, Dialogue.bind_assoc]
    exact ⟨_, rfl, fun _ => .inr rfl⟩

theorem cache_run {σ : Type} (w : World σ) (cache : CatalogCache) (s : σ) :
    (refresh.dialogue.run w cache s).cache = (Lookup.refresh.attempt.run w cache s).cache := by
  rw [dialogue, Dialogue.cache_run_bind]
  rfl

end Use

end Lookup

end ClusterGateway

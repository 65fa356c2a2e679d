import ClusterGateway.Proofs.Dialogue.Confined
import ClusterGateway.Proofs.Resource.Refresh

/-!
# The catalog of an API server without a state

An API server that answers by a function of the request has one catalog, whoever discovers it and
whenever (`Lookup.catalogOf`).

* `Lookup.catalog_refresh` : **after a refresh the cache holds this catalog**, if it has held it or
  nothing before.
* `Lookup.result_find_eq` : **what is looked up depends on the snapshot alone**: whoever starts with
  the snapshot that a lookup has left finds the same.
-/

namespace ClusterGateway

open Http Discovery

namespace Catalog

theorem eq_empty {catalog : Catalog} (h : catalog.isEmpty = true) : catalog = .empty := by
  obtain ⟨descriptors⟩ := catalog
  exact congrArg Catalog.mk (List.isEmpty_iff.1 h)

theorem isEmpty_of_get? {catalog : Catalog} {id : String} (h : (catalog.get? id).isSome) :
    catalog.isEmpty = false := by
  cases hempty : catalog.isEmpty with
  | false => rfl
  | true =>
    rw [eq_empty hempty] at h
    cases h

end Catalog

/-- A cache that has just been filled. -/
def CatalogCache.holding (catalog : Catalog) : CatalogCache := ⟨catalog, 0, 1⟩

namespace Lookup

variable {f : Request → Option Response}

theorem onlySends_coreLists (versions : List String) : (coreLists versions).OnlySends := by
  cases versions with
  | nil => exact Operation.onlySends_ofExcept (.ok [])
  | cons version versions =>
    exact (Exchange.onlySends_read _ _).bind fun kinds => Operation.onlySends_ofExcept (.ok [kinds])

theorem onlySends_groupLists (version : String) : (groupLists version).OnlySends :=
  Dialogue.OnlySends.bind (Exchange.onlySends_read _ _) fun _ => .done _

theorem isDetermined_gather : gather.IsDetermined f := by
  refine (Exchange.onlySends_read _ _).isDetermined.bind fun versions => ?_
  refine (onlySends_coreLists versions).isDetermined.bind fun core => ?_
  refine (Exchange.onlySends_read _ _).isDetermined.bind fun groups => ?_
  refine (Operation.isDetermined_ofDialogue (Dialogue.isDetermined_all fun d hd => ?_)).bind
    fun others => .done _
  obtain ⟨version, -, rfl⟩ := List.mem_map.1 hd
  exact onlySends_groupLists version

/-- The catalog of an API server. -/
def catalogOf (f : Request → Option Response) : Catalog := discover.alone f

theorem catalogOf_of_ok {lists : List KindList} (h : gather.attempt.alone f = .ok lists) :
    catalogOf f = .ofLists lists := by
  rw [Dialogue.alone] at h
  rw [catalogOf, discover, Dialogue.alone, Dialogue.result_run_bind, h]
  rfl

theorem catalogOf_of_error {e : GatewayError} (h : gather.attempt.alone f = .error e) :
    catalogOf f = .empty := by
  rw [Dialogue.alone] at h
  rw [catalogOf, discover, Dialogue.alone, Dialogue.result_run_bind, h]
  rfl

/-- A catalog is that of an API server, or nothing has been discovered yet. -/
def IsKnown (f : Request → Option Response) (catalog : Catalog) : Prop :=
  catalog = .empty ∨ catalog = catalogOf f

/-- How a refresh ends that leaves a catalog in the cache. -/
def refreshed (catalog : Catalog) : Except GatewayError Unit :=
  if catalog.isEmpty then .error .discoveryEmpty else .ok ()

variable {σ : Type} {w : World σ} {cache : CatalogCache} {s : σ} {id : String}

theorem run_refresh_of_isValidAt (h : cache.isValidAt (w.moment s) = true) :
    (refresh.attempt.run w cache s).result = .ok () ∧
      (refresh.attempt.run w cache s).cache = cache := by
  rw [attempt_refresh, Dialogue.run, if_pos h]
  exact ⟨rfl, rfl⟩

/-- **After a refresh the cache holds the catalog of the API server.** -/
theorem catalog_refresh (hw : w.AnswersBy f) (hcache : IsKnown f cache.catalog) :
    (refresh.attempt.run w cache s).result = refreshed (catalogOf f) ∧
      (refresh.attempt.run w cache s).cache.catalog = catalogOf f := by
  by_cases hvalid : cache.isValidAt (w.moment s) = true
  · obtain ⟨hresult, hsame⟩ := run_refresh_of_isValidAt hvalid
    -- a valid cache is not empty, so that it holds the catalog already
    have hne : cache.catalog.isEmpty = false := by
      simp only [CatalogCache.isValidAt, Bool.and_eq_true] at hvalid
      simpa using hvalid.1
    have hcatalog : cache.catalog = catalogOf f := by
      refine hcache.resolve_left fun hempty => ?_
      rw [hempty] at hne
      cases hne
    rw [hresult, hsame, hcatalog, refreshed, ← hcatalog, hne]
    exact ⟨rfl, rfl⟩
  · have hgather := isDetermined_gather.result_run hw cache s
    rw [attempt_refresh, Dialogue.run, if_neg hvalid, Dialogue.result_run_bind,
      Dialogue.cache_run_bind, hgather, Dialogue.StoresNothing.cache_run storesNothing_gather]
    obtain ⟨hlists, hconclude⟩ | ⟨lists, hlists, hne, hconclude⟩ :=
      conclude_cases (gather.attempt.alone f)
    · -- nothing is stored, and there was nothing before
      have hempty : catalogOf f = .empty := by
        cases hr : gather.attempt.alone f with
        | error e => exact catalogOf_of_error hr
        | ok lists => exact (catalogOf_of_ok hr).trans (Catalog.eq_empty (hlists lists hr))
      rw [hconclude, hempty]
      refine ⟨rfl, ?_⟩
      exact hcache.elim id fun h => h.trans hempty
    · rw [hconclude, catalogOf_of_ok hlists, refreshed, hne]
      exact ⟨rfl, rfl⟩

theorem run_find (w : World σ) (cache : CatalogCache) (s : σ) (id : String) :
    ((find id).attempt.run w cache s).result =
        answer id (refresh.attempt.run w cache s).result
          ((refresh.attempt.run w cache s).cache.get? id) ∧
      ((find id).attempt.run w cache s).cache = (refresh.attempt.run w cache s).cache := by
  rw [find, Operation.attempt_mk, Dialogue.result_run_bind, Dialogue.cache_run_bind]
  exact ⟨rfl, rfl⟩

theorem cache_refresh_holding {catalog : Catalog} (h : catalog.isEmpty = false) :
    (refresh.attempt.run (.answering f) (.holding catalog) ()).cache = .holding catalog := by
  refine (run_refresh_of_isValidAt ?_).2
  simp [CatalogCache.isValidAt, CatalogCache.holding, h, World.answering]

/-- **What is looked up depends on the snapshot alone**, which the lookup leaves in the cache: if
the API server has always been the same, or if the kind is known. -/
theorem result_find_eq (hw : w.AnswersBy f)
    (h : IsKnown f cache.catalog ∨ (((find id).attempt.run w cache s).cache.get? id).isSome) :
    ((find id).attempt.run w cache s).result = ((find id).attempt.run (.answering f)
      (.holding ((find id).attempt.run w cache s).cache.catalog) ()).result := by
  obtain ⟨hresult, hcache⟩ := run_find w cache s id
  rw [hcache] at h ⊢
  rw [hresult, (run_find _ _ _ id).1]
  cases h with
  | inl hknown =>
    obtain ⟨hends, hcatalog⟩ := catalog_refresh (s := s) hw hknown
    have hagain : IsKnown f (CatalogCache.holding (catalogOf f)).catalog := .inr rfl
    obtain ⟨hends', hcatalog'⟩ := catalog_refresh (s := ()) (World.answersBy_answering f) hagain
    rw [hcatalog, hends, hends', CatalogCache.get?, CatalogCache.get?, hcatalog, hcatalog']
  | inr hsome =>
    -- a snapshot that knows the kind is not empty, so that nothing is discovered when it is there
    obtain ⟨d, hd⟩ := Option.isSome_iff_exists.1 hsome
    have hagain : (CatalogCache.holding (refresh.attempt.run w cache s).cache.catalog).get? id =
      some d := hd
    rw [cache_refresh_holding (Catalog.isEmpty_of_get? hsome), hd, hagain, answer, answer]

end Lookup

end ClusterGateway

import ClusterGateway.Proofs.Gateway.Requests
import ClusterGateway.Proofs.Resource.Snapshot

/-!
# What a discovery gathers

A discovery reads the versions of the core API, the kinds of the first of them, the groups, and the
kinds of each group in one version.  The first three have to be read; a group whose kinds cannot be
read is left out of the new snapshot, though not of the old one.

* `Lookup.settles_gather` : **the lists that a discovery gathers** are those of the core API and of
  every group that has answered, in the order of the groups (`Lookup.Gathered`); it fails only when
  something of the rest is missing (`Lookup.Missing`).
* `Lookup.Pool.replaced_by_gathered` : **a snapshot is replaced only by the catalog of such lists**,
  and what is known under an id is the first descriptor in them that has it.
* `Lookup.Pool.exists_replaced` : where the snapshot has changed, some step has replaced it.
* `Lookup.forgets_unanswered_group` : a group that does not answer once is forgotten, although the
  snapshot before knew its kinds.
-/

namespace ClusterGateway

open Discovery

namespace Exchange

variable {α : Type}

/-- An address cannot be read: it cannot be written into a request, or the answer to a request for
it is not the document that is expected. -/
def Unread (past : List Exchanged) (address : String) (decode : Json.Decoder α) : Prop :=
  Http.Uri.parse? address = none ∨ ∃ r answer, (r, answer) ∈ past ∧ Reads address r ∧
    ∀ text, textOf answer = .ok text → decode.parse? text = none

theorem lasting_unread {address : String} {decode : Json.Decoder α} :
    Lasting (Unread · address decode) := by
  rintro past later hs (hnone | ⟨r, answer, hm, h⟩)
  · exact .inl hnone
  · exact .inr ⟨r, answer, hs hm, h⟩

/-- **What is read has been told, or it cannot be read.** -/
theorem settles_read (decode : Json.Decoder α) (address : String) {past : List Exchanged} :
    (read decode address).Settles .free (fun past a => Told past address decode a)
      (fun past => Unread past address decode) past := by
  rw [Operation.Settles, attempt_read]
  cases huri : Http.Uri.parse? address with
  | none => exact .inl huri
  | some uri =>
    refine ⟨trivial, fun answer _ => ?_⟩
    have hlast : (get uri .empty, answer) ∈ past ++ [(get uri .empty, answer)] := by simp
    have hreads : Reads address (get uri .empty) := ⟨uri, huri, rfl⟩
    rw [Dialogue.meets_done]
    cases htext : textOf answer with
    | error e => exact .inr ⟨_, answer, hlast, hreads, fun text ht => by simp [htext] at ht⟩
    | ok text =>
      dsimp only [Except.bind]
      cases hdecode : decode.parse? text with
      | none =>
        refine .inr ⟨_, answer, hlast, hreads, fun text' ht => ?_⟩
        rw [htext, Except.ok.injEq] at ht
        rw [← ht, hdecode]
      | some a => exact ⟨_, answer, text, hlast, hreads, htext, hdecode⟩

end Exchange

open Exchange

namespace Lookup

/-- The lists of the core API: that of its first version, if it has any. -/
inductive CoreGathered (xs : List Exchanged) : List KindList → Prop
  /-- It has no version. -/
  | none : Told xs coreAddress decodeCoreVersions [] → CoreGathered xs []
  /-- It has a first version. -/
  | first {version : String} {versions : List String} {kinds : KindList} :
    Told xs coreAddress decodeCoreVersions (version :: versions) →
    Told xs (coreAddress ++ "/" ++ version) KindList.decode kinds → CoreGathered xs [kinds]

/-- The lists of a group in a version. -/
inductive GroupGathered (xs : List Exchanged) (version : String) : List KindList → Prop
  /-- The group has answered. -/
  | answered {kinds : KindList} :
    Told xs (groupsAddress ++ "/" ++ version) KindList.decode kinds →
    GroupGathered xs version [kinds]
  /-- The kinds of the group cannot be read, and it is left out. -/
  | leftOut : Unread xs (groupsAddress ++ "/" ++ version) KindList.decode →
    GroupGathered xs version []

/-- The lists of a discovery: those of the core API and then, in their order, those of the groups
that the API server has named, each in the version that it prefers or else in its first one. -/
inductive Gathered (xs : List Exchanged) : List KindList → Prop
  /-- The core API and the groups have been read. -/
  | intro {core : List KindList} {groups : List Group} {others : List (List KindList)} :
    CoreGathered xs core → Told xs groupsAddress decodeGroups groups →
    List.Forall₂ (GroupGathered xs) (groups.filterMap Group.version?) others →
    Gathered xs (core ++ others.flatten)

/-- Something is missing that a discovery cannot do without. -/
inductive Missing (xs : List Exchanged) : Prop
  /-- The versions of the core API. -/
  | coreVersions : Unread xs coreAddress decodeCoreVersions → Missing xs
  /-- The kinds of its first version. -/
  | coreKinds {version : String} {versions : List String} :
    Told xs coreAddress decodeCoreVersions (version :: versions) →
    Unread xs (coreAddress ++ "/" ++ version) KindList.decode → Missing xs
  /-- The groups. -/
  | groups : Unread xs groupsAddress decodeGroups → Missing xs

theorem lasting_coreGathered {lists : List KindList} : Lasting (CoreGathered · lists) := by
  rintro past later hs h
  cases h with
  | none h => exact .none (lasting_told hs h)
  | first hversions hkinds => exact .first (lasting_told hs hversions) (lasting_told hs hkinds)

theorem lasting_groupGathered {version : String} {lists : List KindList} :
    Lasting (GroupGathered · version lists) := by
  rintro past later hs h
  cases h with
  | answered h => exact .answered (lasting_told hs h)
  | leftOut h => exact .leftOut (lasting_unread hs h)

variable {past : List Exchanged}

theorem settles_coreLists {versions : List String}
    (h : Told past coreAddress decodeCoreVersions versions) :
    (coreLists versions).Settles .free (fun past lists => CoreGathered past lists) Missing
      past := by
  cases versions with
  | nil => exact .none h
  | cons version versions =>
    refine (settles_read KindList.decode _).bind (fun later hs hmissing => ?_)
      fun later kinds hs hkinds => ?_
    · exact .coreKinds (lasting_told hs h) hmissing
    · exact Operation.settles_pure (.first (lasting_told hs h) hkinds)

theorem meets_groupLists_gathered (version : String) :
    (groupLists version).Meets .free (fun past lists => GroupGathered past version lists) past := by
  rw [groupLists, Dialogue.meets_bind]
  refine Dialogue.Meets.imp (settles_read KindList.decode _) fun later r _ hr => ?_
  cases r with
  | ok kinds => exact .answered hr
  | error e => exact .leftOut hr

/-- **What a discovery gathers**, and why it fails. -/
theorem settles_gather (past : List Exchanged) :
    gather.Settles .free (fun past lists => Gathered past lists) Missing past := by
  refine (settles_read decodeCoreVersions coreAddress).bind (fun _ _ => .coreVersions)
    fun past versions _ hversions => ?_
  refine (settles_coreLists hversions).bind (fun _ _ => id) fun past core _ hcore => ?_
  refine (settles_read decodeGroups groupsAddress).bind (fun _ _ => .groups)
    fun later groups hs hgroups => ?_
  -- what has been told of the core API is still true after later exchanges
  have hcore : CoreGathered later core := lasting_coreGathered hs hcore
  refine Operation.settles_ofDialogue_bind.2 ?_
  have hall : (Dialogue.all ((groups.filterMap Group.version?).map groupLists)).Meets .free
      (fun past others => List.Forall₂ (fun version lists => GroupGathered past version lists)
        (groups.filterMap Group.version?) others) later := by
    refine Dialogue.meets_all_map Terms.lasting_free (fun _ _ => lasting_groupGathered) ?_
    exact fun version _ => meets_groupLists_gathered version
  refine hall.imp fun last others hs' hothers => Operation.settles_pure ?_
  exact .intro (lasting_coreGathered hs' hcore) (lasting_told hs' hgroups) hothers

namespace Task

variable {t : Task} {gathering : List Deed} {lists : List KindList} {e : GatewayError}

theorem Gathers.gathered (h : t.Gathers gathering (.ok lists)) :
    Gathered (exchanged gathering) lists := by
  obtain ⟨moment, seen, after, -, -, hpath⟩ := h
  exact Dialogue.Meets.path (settles_gather []) hpath

theorem Gathers.missing (h : t.Gathers gathering (.error e)) : Missing (exchanged gathering) := by
  obtain ⟨moment, seen, after, -, -, hpath⟩ := h
  exact Dialogue.Meets.path (settles_gather []) hpath

end Task

namespace Pool

variable {p q : Pool} {t : Task} {now : Moment} {lifetime : Nat}

/-- **A snapshot is replaced only by what a discovery has gathered.**  The call that replaces it has
read the versions and the kinds of the core API and the groups; the new snapshot is the catalog, not
empty, of these kinds and of those of exactly the groups that have answered, and under an id it
knows the first descriptor that has it.  A call that misses the core API or the groups leaves the
snapshot with its moment alone. -/
theorem replaced_by_gathered (h : (start now lifetime).Reaches p) (hstep : p.Step t q) :
    (q.cache = p.cache ∨ ∃ gathering lists, t.Gathers gathering (.ok lists) ∧
      Gathered (exchanged gathering) lists ∧ q.cache.catalog = .ofLists lists ∧
      q.cache.isEmpty = false ∧
      ∀ id, q.cache.get? id = (lists.flatMap KindList.descriptors).find? fun d => d.id = id) ∧
    ∀ gathering e, t.Gathers gathering (.error e) →
      Missing (exchanged gathering) ∧ q.cache = p.cache := by
  have hsound := isSound_of_reaches h
  constructor
  · refine (hsound.cache_step hstep).imp_right ?_
    rintro ⟨-, hne, gathering, lists, hgathers, hcatalog⟩
    refine ⟨gathering, lists, hgathers, hgathers.gathered, hcatalog, hne, fun id => ?_⟩
    rw [CatalogCache.get?, hcatalog]
    exact Catalog.get?_ofDescriptors _ id
  · intro gathering e hgathers
    exact ⟨hgathers.missing, hsound.cache_of_comesToNothing hstep ⟨gathering, _, hgathers, nofun⟩⟩

/-- Where the snapshot differs from the one before, some step has replaced it. -/
theorem exists_replaced (h : p.Reaches q) (hne : q.cache ≠ p.cache) :
    ∃ p' t q', p.Reaches p' ∧ p'.Step t q' ∧ q'.cache ≠ p'.cache ∧ q'.cache = q.cache := by
  induction h with
  | refl => exact absurd rfl hne
  | @tail b c hreaches hstep ih =>
    obtain ⟨t, ht⟩ := hstep
    by_cases hsame : c.cache = b.cache
    · rw [hsame] at hne ⊢
      exact ih hne
    · exact ⟨b, t, c, hreaches, ht, hsame, rfl⟩

/-- A refresh of a client of a cluster with two kinds replaces the first snapshot. -/
theorem replaced_by_gathered_twoKinds :
    ∃ p t q, (start 0 1000).Reaches p ∧ p.Step t q ∧ q.cache ≠ p.cache ∧
      q.cache = ⟨.ofLists twoKinds, 0, 1000⟩ ∧
      ∃ gathering lists, t.Gathers gathering (.ok lists) ∧ Gathered (exchanged gathering) lists ∧
        q.cache.catalog = .ofLists lists := by
  obtain ⟨t', ht'⟩ := reaches_use (.answering answerTwoKinds) (start 0 1000) .refresh ()
  rw [cache_answerTwoKinds] at ht'
  have hne : (⟨.ofLists twoKinds, 0, 1000⟩ : CatalogCache) ≠ (start 0 1000).cache := by
    decide +kernel
  obtain ⟨p, t, q, hreaches, hstep, hreplaced, hcache⟩ := exists_replaced ht' hne
  obtain ⟨gathering, lists, hgathers, hgathered, hcatalog, -, -⟩ :=
    (replaced_by_gathered hreaches hstep).1.resolve_left hreplaced
  exact ⟨p, t, q, hreaches, hstep, hreplaced, hcache, gathering, lists, hgathers, hgathered,
    hcatalog⟩

end Pool

/-! ### A group that does not answer -/

/-- The cluster with two kinds at a time when its group does not answer. -/
def answerCoreOnly (r : Http.Request) : Option Http.Response :=
  if r.uri.path = "/apis/apps/v1" then none else Pool.answerTwoKinds r

/-- The cluster when the first snapshot has just become too old. -/
def coreOnlyWorld : World Unit := { World.answering answerCoreOnly with moment := fun _ => 1000 }

theorem gather_answerCoreOnly : (gather.attempt.run coreOnlyWorld ⟨.ofLists Pool.twoKinds, 0, 1000⟩
    ()).result = .ok [⟨"v1", [⟨"pods", "Pod", false, ["list"]⟩]⟩] := by
  decide +kernel

/-- **A group that does not answer once is forgotten.**  The API server has named the group, and the
snapshot knows its kind; a refresh in which the list of the group cannot be read succeeds all the
same, and until the new snapshot is too old the kind is not found. -/
theorem forgets_unanswered_group :
    let old : CatalogCache := ⟨.ofLists Pool.twoKinds, 0, 1000⟩
    let refreshed := refresh.attempt.run coreOnlyWorld old ()
    (refresh.attempt.run (.answering Pool.answerTwoKinds) (.new 0 1000) ()).cache = old ∧
      (old.get? "deployment.apps").isSome ∧
      ((Exchange.read decodeGroups groupsAddress).attempt.run coreOnlyWorld old ()).result =
        .ok [⟨none, ["apps/v1"]⟩] ∧
      ((Exchange.read KindList.decode "/apis/apps/v1").attempt.run coreOnlyWorld old ()).result =
        .error (.exchange .transport) ∧
      refreshed.result = .ok () ∧ refreshed.cache.storedAt = 1000 ∧
      refreshed.cache.get? "deployment.apps" = none ∧
      ((find "deployment.apps").attempt.run coreOnlyWorld refreshed.cache ()).result =
        .error (.notFound "deployment.apps") := by
  intro old refreshed
  have hfirst : (Catalog.ofLists Pool.twoKinds).isEmpty = false := by decide +kernel
  have hnext : (Catalog.ofLists [⟨"v1", [⟨"pods", "Pod", false, ["list"]⟩]⟩]).isEmpty = false := by
    decide +kernel
  have hold := (cache_run_refresh rfl Pool.gather_answerTwoKinds hfirst).2
  have hinvalid : old.isValidAt (coreOnlyWorld.moment ()) = false := by decide +kernel
  obtain ⟨hresult, hcache⟩ := cache_run_refresh hinvalid gather_answerCoreOnly hnext
  refine ⟨hold, by decide +kernel, by decide +kernel, by decide +kernel, hresult, ?_, ?_, ?_⟩
  · rw [hcache]
    rfl
  · rw [hcache]
    decide +kernel
  · rw [hcache]
    decide +kernel

end Lookup

end ClusterGateway

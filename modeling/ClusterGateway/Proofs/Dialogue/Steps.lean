import ClusterGateway.Proofs.Dialogue.Course

/-!
# Dialogues step by step

A dialogue that shares its cache with others goes on one step at a time, and between two steps
anything may happen to the cache.  `Dialogue.Step` is one step, told by what takes place in it (a
`Deed`), and `Dialogue.Path` is any number of steps.

* `Dialogue.Path.of_bind` : a path of two dialogues, one after the other, stays in the first one or
  goes through an end of it.
* `Dialogue.Path.end_unique` : what takes place decides where a dialogue ends and with what.
* `Dialogue.Meets.path` : what a dialogue meets from its start on, the rest of it meets after any
  path.
* `Dialogue.StoresNothing.path` : a dialogue that nowhere stores a catalog does so on no path; this
  holds of dialogues at the same time if it holds of each (`Dialogue.StoresNothing.all`).
-/

namespace ClusterGateway

open Http

/-- What takes place in one step of a dialogue. -/
inductive Deed where
  /-- A request is sent, and something comes back. -/
  | exchange (request : Request) (answer : Option Response)
  /-- The cache is looked at. -/
  | look (moment : Moment) (cache : CatalogCache)
  /-- A catalog is stored. -/
  | store (moment : Moment) (catalog : Catalog)
  /-- The clock is read. -/
  | clock (instant : Instant)
  /-- One of two ways to go on is chosen. -/
  | turn (first : Bool)

namespace Deed

/-- The exchange with the API server. -/
def exchanged? : Deed → Option Exchanged
  | exchange request answer => some (request, answer)
  | look _ _ | store _ _ | clock _ | turn _ => none

end Deed

/-- The exchanges with the API server in their order. -/
def exchanged (xs : List Deed) : List Exchanged := xs.filterMap Deed.exchanged?

@[simp] theorem exchanged_nil : exchanged [] = [] := rfl

@[simp] theorem exchanged_append (xs ys : List Deed) :
    exchanged (xs ++ ys) = exchanged xs ++ exchanged ys := List.filterMap_append

namespace Dialogue

variable {α β : Type}

/-- One step. -/
inductive Step : Dialogue α → Deed → Dialogue α → Prop
  /-- A request is sent. -/
  | send (r : Request) (resume : Option Response → Dialogue α) (answer : Option Response) :
    Step (send r resume) (.exchange r answer) (resume answer)
  /-- The cache is looked at. -/
  | look (resume : Moment → CatalogCache → Dialogue α) (moment : Moment) (cache : CatalogCache) :
    Step (look resume) (.look moment cache) (resume moment cache)
  /-- A catalog is stored. -/
  | store (catalog : Catalog) (resume : Dialogue α) (moment : Moment) :
    Step (store catalog resume) (.store moment catalog) resume
  /-- The clock is read. -/
  | clock (resume : Instant → Dialogue α) (instant : Instant) :
    Step (clock resume) (.clock instant) (resume instant)
  /-- A way to go on is chosen. -/
  | choose (resume : Bool → Dialogue α) (first : Bool) :
    Step (choose resume) (.turn first) (resume first)

/-- Any number of steps. -/
inductive Path : Dialogue α → List Deed → Dialogue α → Prop
  /-- No step. -/
  | nil (d : Dialogue α) : Path d [] d
  /-- A step and then others. -/
  | cons {d d' e : Dialogue α} {x : Deed} {xs : List Deed} : Step d x d' → Path d' xs e →
    Path d (x :: xs) e

variable {d d' e e' : Dialogue α} {x : Deed} {xs : List Deed} {a : α} {f : α → Dialogue β}

theorem Step.unique (h : d.Step x e) (h' : d.Step x e') : e = e' := by
  cases h <;> cases h' <;> rfl

theorem not_step_done : ¬(done a).Step x e := nofun

theorem Step.bind (h : d.Step x e) (f : α → Dialogue β) : (d.bind f).Step x (e.bind f) := by
  cases h with
  | send => exact .send _ _ _
  | look => exact .look _ _ _
  | store => exact .store _ _ _
  | clock => exact .clock _ _
  | choose => exact .choose _ _

theorem Step.of_bind {r : Dialogue β} (h : (d.bind f).Step x r) :
    (∃ a, d = done a) ∨ ∃ e, d.Step x e ∧ r = e.bind f := by
  cases d with
  | done a => exact .inl ⟨a, rfl⟩
  | send r resume =>
    cases h
    exact .inr ⟨_, .send r resume _, rfl⟩
  | look resume =>
    cases h
    exact .inr ⟨_, .look resume _ _, rfl⟩
  | store catalog resume =>
    cases h
    exact .inr ⟨_, .store catalog resume _, rfl⟩
  | clock resume =>
    cases h
    exact .inr ⟨_, .clock resume _, rfl⟩
  | choose resume =>
    cases h
    exact .inr ⟨_, .choose resume _, rfl⟩

namespace Path

theorem snoc (h : d.Path xs d') (hstep : d'.Step x e) : d.Path (xs ++ [x]) e := by
  induction h with
  | nil d => exact .cons hstep (.nil e)
  | cons hfirst _ ih => exact .cons hfirst (ih hstep)

theorem bind {ys : List Deed} {r : Dialogue β} (h : d.Path xs (done a)) (hf : (f a).Path ys r) :
    (d.bind f).Path (xs ++ ys) r := by
  generalize hend : done a = e at h
  induction h with
  | nil =>
    subst hend
    exact hf
  | cons hstep _ ih => exact .cons (hstep.bind f) (ih hend)

theorem of_done (h : (done a).Path xs e) : xs = [] ∧ e = done a := by
  cases h with
  | nil => exact ⟨rfl, rfl⟩
  | cons hstep => exact absurd hstep not_step_done

theorem of_look {resume : Moment → CatalogCache → Dialogue α} (h : (look resume).Path xs e) :
    xs = [] ∧ e = look resume ∨
      ∃ moment cache ys, xs = .look moment cache :: ys ∧ (resume moment cache).Path ys e := by
  cases h with
  | nil => exact .inl ⟨rfl, rfl⟩
  | cons hstep hrest =>
    cases hstep
    exact .inr ⟨_, _, _, rfl, hrest⟩

theorem of_store {catalog : Catalog} (h : (store catalog d).Path xs e) :
    xs = [] ∧ e = store catalog d ∨
      ∃ moment ys, xs = .store moment catalog :: ys ∧ d.Path ys e := by
  cases h with
  | nil => exact .inl ⟨rfl, rfl⟩
  | cons hstep hrest =>
    cases hstep
    exact .inr ⟨_, _, rfl, hrest⟩

/-- **Going on after the end.**  A path of two dialogues stays in the first one, or it goes through
an end of it and then along the second one. -/
theorem of_bind {r : Dialogue β} (h : (d.bind f).Path xs r) :
    (∃ e, d.Path xs e ∧ r = e.bind f) ∨
      ∃ a ys zs, xs = ys ++ zs ∧ d.Path ys (done a) ∧ (f a).Path zs r := by
  induction xs generalizing d with
  | nil =>
    cases h
    exact .inl ⟨d, .nil d, rfl⟩
  | cons x xs ih =>
    obtain _ | ⟨hstep, hrest⟩ := h
    obtain ⟨a, rfl⟩ | ⟨e, he, rfl⟩ := hstep.of_bind
    · exact .inr ⟨a, [], x :: xs, rfl, .nil _, .cons hstep hrest⟩
    · obtain ⟨e', he', rfl⟩ | ⟨a, ys, zs, rfl, hys, hzs⟩ := ih hrest
      · exact .inl ⟨e', .cons he he', rfl⟩
      · exact .inr ⟨a, x :: ys, zs, rfl, .cons he hys, hzs⟩

theorem of_bind_done {b : β} (h : (d.bind f).Path xs (done b)) :
    ∃ a ys zs, xs = ys ++ zs ∧ d.Path ys (done a) ∧ (f a).Path zs (done b) := by
  obtain ⟨e, he, hdone⟩ | hends := h.of_bind
  · cases e with
    | done a => exact ⟨a, xs, [], (List.append_nil xs).symm, he, hdone ▸ .nil _⟩
    | send | look | store | clock | choose => cases hdone
  · exact hends

/-- **What takes place decides the end**: two paths to ends, neither of which departs from the
other, are the same. -/
theorem end_unique {b : α} {ys us vs : List Deed} (hx : d.Path xs (done a))
    (hy : d.Path ys (done b)) (h : xs ++ us = ys ++ vs) : xs = ys ∧ a = b := by
  induction xs generalizing d ys with
  | nil =>
    cases hx
    obtain ⟨rfl, hdone⟩ := hy.of_done
    exact ⟨rfl, (done.inj hdone).symm⟩
  | cons x xs ih =>
    obtain _ | ⟨hfirst, hrest⟩ := hx
    obtain _ | ⟨hfirst', hrest'⟩ := hy
    · -- the second path cannot end where the first one takes a step
      exact absurd hfirst not_step_done
    · rw [List.cons_append, List.cons_append, List.cons.injEq] at h
      obtain ⟨rfl, htail⟩ := h
      rw [hfirst.unique hfirst'] at hrest
      obtain ⟨rfl, hab⟩ := ih hrest hrest' htail
      exact ⟨rfl, hab⟩

end Path

/-! ### What is met on the way -/

variable {Q : List Exchanged → α → Prop} {past : List Exchanged}

theorem Meets.step (hd : d.Meets .free Q past) (h : d.Step x e) :
    e.Meets .free Q (past ++ exchanged [x]) := by
  have hsame {x : Deed} (hx : x.exchanged? = none) : past ++ exchanged [x] = past := by
    rw [exchanged, List.filterMap_cons_none hx, List.filterMap_nil, List.append_nil]
  cases h with
  | send r resume answer => exact hd.2 answer trivial
  | look resume moment cache =>
    rw [hsame rfl]
    exact hd moment cache
  | store catalog resume moment =>
    rw [hsame rfl]
    exact hd
  | clock resume instant =>
    rw [hsame rfl]
    exact hd instant
  | choose resume first =>
    rw [hsame rfl]
    exact hd first

/-- **After any path the rest of a dialogue meets what the dialogue has met.** -/
theorem Meets.path (hd : d.Meets .free Q past) (h : d.Path xs e) :
    e.Meets .free Q (past ++ exchanged xs) := by
  induction h generalizing past with
  | nil d => rwa [exchanged_nil, List.append_nil]
  | cons hstep _ ih =>
    have hrest := ih (hd.step hstep)
    rwa [List.append_assoc, ← exchanged_append, List.singleton_append] at hrest

/-! ### Dialogues that store nothing -/

/-- A dialogue nowhere stores a catalog. -/
def StoresNothing : Dialogue α → Prop
  | done _ => True
  | send _ resume => ∀ answer, (resume answer).StoresNothing
  | look resume => ∀ moment cache, (resume moment cache).StoresNothing
  | store _ _ => False
  | clock resume => ∀ instant, (resume instant).StoresNothing
  | choose resume => ∀ first, (resume first).StoresNothing

namespace StoresNothing

theorem step (hd : d.StoresNothing) (h : d.Step x e) :
    e.StoresNothing ∧ ∀ moment catalog, x ≠ .store moment catalog := by
  cases h with
  | send r resume answer => exact ⟨hd answer, nofun⟩
  | look resume moment cache => exact ⟨hd moment cache, nofun⟩
  | store => exact hd.elim
  | clock resume instant => exact ⟨hd instant, nofun⟩
  | choose resume first => exact ⟨hd first, nofun⟩

theorem path (hd : d.StoresNothing) (h : d.Path xs e) (moment : Moment) (catalog : Catalog) :
    .store moment catalog ∉ xs := by
  induction h with
  | nil => exact List.not_mem_nil
  | cons hstep _ ih =>
    obtain ⟨hrest, hno⟩ := hd.step hstep
    rw [List.mem_cons, not_or]
    exact ⟨(hno moment catalog).symm, ih hrest⟩

theorem bind (hd : d.StoresNothing) (hf : ∀ a, (f a).StoresNothing) :
    (d.bind f).StoresNothing := by
  induction d with
  | done a => exact hf a
  | send r resume ih => exact fun answer => ih answer (hd answer)
  | look resume ih => exact fun moment cache => ih moment cache (hd moment cache)
  | store => exact hd
  | clock resume ih => exact fun instant => ih instant (hd instant)
  | choose resume ih => exact fun first => ih first (hd first)

theorem cache_run {σ : Type} (hd : d.StoresNothing) (w : World σ) (cache : CatalogCache) (s : σ) :
    (d.run w cache s).cache = cache := by
  induction d generalizing s with
  | done a => rfl
  | send r resume ih => exact ih _ (hd _) _
  | look resume ih => exact ih _ _ (hd _ _) _
  | store => exact hd.elim
  | clock resume ih => exact ih _ (hd _) _
  | choose resume ih => exact ih _ (hd _) _

theorem turn {other : Dialogue α} (hd : d.StoresNothing) (ho : other.StoresNothing) :
    (choose fun turn => if turn then d else other).StoresNothing := by
  intro turn
  cases turn
  · exact ho
  · exact hd

theorem bothFrom {other : Dialogue β} {step : Dialogue β → Dialogue (α × β)}
    (hd : d.StoresNothing) (hstep : ∀ e, e.StoresNothing → (step e).StoresNothing)
    (ho : other.StoresNothing) : (bothFrom d step other).StoresNothing := by
  induction other with
  | done b => exact hd.bind fun _ => trivial
  | send r resume ih => exact .turn (hstep _ ho) fun answer => ih answer (ho answer)
  | look resume ih =>
    exact .turn (hstep _ ho) fun moment cache => ih moment cache (ho moment cache)
  | store => exact ho.elim
  | clock resume ih => exact .turn (hstep _ ho) fun instant => ih instant (ho instant)
  | choose resume ih => exact .turn (hstep _ ho) fun first => ih first (ho first)

/-- **Two dialogues at the same time** store nothing if neither does. -/
theorem both {other : Dialogue β} (hd : d.StoresNothing) (ho : other.StoresNothing) :
    (d.both other).StoresNothing := by
  -- a turn of the first dialogue is the hypothesis, and those of the second are in `bothFrom`
  induction d generalizing other with
  | done a => exact ho.bind fun _ => trivial
  | send r resume ih =>
    exact .bothFrom hd (fun _ he answer => ih answer (hd answer) he) ho
  | look resume ih =>
    exact .bothFrom hd (fun _ he moment cache => ih moment cache (hd moment cache) he) ho
  | store => exact hd.elim
  | clock resume ih => exact .bothFrom hd (fun _ he instant => ih instant (hd instant) he) ho
  | choose resume ih => exact .bothFrom hd (fun _ he first => ih first (hd first) he) ho

/-- **Any number of dialogues at the same time.** -/
theorem all {ds : List (Dialogue α)} (h : ∀ d ∈ ds, d.StoresNothing) :
    (all ds).StoresNothing := by
  induction ds with
  | nil => exact trivial
  | cons d ds ih =>
    obtain ⟨hd, hds⟩ := List.forall_mem_cons.1 h
    exact (hd.both (ih hds)).bind fun _ => trivial

end StoresNothing

section Stored

variable {r : Dialogue β} {moment : Moment} {catalog : Catalog}

theorem Path.stored_by_first (h : (d.bind f).Path xs r) (hf : ∀ a, (f a).StoresNothing)
    (hmem : .store moment catalog ∈ xs) :
    ∃ e ys zs, xs = ys ++ zs ∧ d.Path ys e ∧ .store moment catalog ∈ ys := by
  obtain ⟨e, he, -⟩ | ⟨a, ys, zs, rfl, hys, hzs⟩ := h.of_bind
  · exact ⟨e, xs, [], (List.append_nil xs).symm, he, hmem⟩
  · have hnot : .store moment catalog ∉ zs := (hf a).path hzs moment catalog
    exact ⟨_, ys, zs, rfl, hys, (List.mem_append.1 hmem).resolve_right hnot⟩

theorem Path.stored_by_second (h : (d.bind f).Path xs r) (hd : d.StoresNothing)
    (hmem : .store moment catalog ∈ xs) :
    ∃ a ys zs, xs = ys ++ zs ∧ d.Path ys (done a) ∧ (f a).Path zs r ∧
      .store moment catalog ∈ zs := by
  obtain ⟨e, he, -⟩ | ⟨a, ys, zs, rfl, hys, hzs⟩ := h.of_bind
  · exact absurd hmem (hd.path he moment catalog)
  · have hnot : .store moment catalog ∉ ys := hd.path hys moment catalog
    exact ⟨a, ys, zs, rfl, hys, hzs, (List.mem_append.1 hmem).resolve_left hnot⟩

end Stored

theorem OnlySends.storesNothing (h : d.OnlySends) : d.StoresNothing := by
  induction h with
  | done a => exact trivial
  | send _ ih => exact ih

end Dialogue

/-- An operation nowhere stores a catalog. -/
def Operation.StoresNothing {α : Type} (o : Operation α) : Prop := o.attempt.StoresNothing

theorem Operation.StoresNothing.bind {α β : Type} {o : Operation α} {f : α → Operation β}
    (ho : o.StoresNothing) (hf : ∀ a, (f a).StoresNothing) :
    Operation.StoresNothing (o >>= f) := by
  rw [Operation.StoresNothing, attempt_bind]
  refine Dialogue.StoresNothing.bind ho fun r => ?_
  cases r with
  | ok a => exact hf a
  | error e => exact trivial

end ClusterGateway

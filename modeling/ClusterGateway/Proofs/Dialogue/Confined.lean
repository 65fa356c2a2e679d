import ClusterGateway.Proofs.Dialogue.Steps

/-!
# Dialogues away from the cache

A dialogue that neither looks at the cache nor stores a catalog is told apart from those before and
after it by its requests alone (`Dialogue.Confined`).

* `Dialogue.Confined.cache_run`, `Dialogue.Confined.exchanges` : a run of such a dialogue leaves the
  cache as it is, and all its requests are of the kind that it is confined to.
* `Dialogue.Confined.both`, `Dialogue.Confined.collect` : **dialogues at the same time are confined
  if each of them is**.
* `Dialogue.Continues` : a dialogue begins with another one and then keeps away from the cache.
* `Dialogue.IsDetermined` : a dialogue ends in one way only where the API server answers by a
  function of the request, in whatever state the cache is and whoever takes the next step.
* `Dialogue.Extends` : what a dialogue ends with depends on the end of its first part alone.
-/

namespace ClusterGateway

open Http

namespace Dialogue

variable {α β : Type} {P : Request → Prop} {d : Dialogue α} {e : Dialogue β}

/-- A dialogue neither looks at the cache nor stores a catalog, and it sends only requests of one
kind. -/
def Confined (P : Request → Prop) : Dialogue α → Prop
  | done _ => True
  | send r resume => P r ∧ ∀ answer, (resume answer).Confined P
  | look _ | store _ _ => False
  | clock resume => ∀ instant, (resume instant).Confined P
  | choose resume => ∀ first, (resume first).Confined P

namespace Confined

theorem bind {f : α → Dialogue β} (hd : d.Confined P) (hf : ∀ a, (f a).Confined P) :
    (d.bind f).Confined P := by
  induction d with
  | done a => exact hf a
  | send r resume ih => exact ⟨hd.1, fun answer => ih answer (hd.2 answer)⟩
  | look => exact hd.elim
  | store => exact hd.elim
  | clock resume ih => exact fun instant => ih instant (hd instant)
  | choose resume ih => exact fun first => ih first (hd first)

theorem turn {other : Dialogue α} (hd : d.Confined P) (ho : other.Confined P) :
    (choose fun turn => if turn then d else other).Confined P := by
  intro turn
  cases turn
  · exact ho
  · exact hd

theorem bothFrom {step : Dialogue β → Dialogue (α × β)} (hd : d.Confined P)
    (hstep : ∀ e, e.Confined P → (step e).Confined P) (he : e.Confined P) :
    (bothFrom d step e).Confined P := by
  induction e with
  | done b => exact hd.bind fun _ => trivial
  | send r resume ih => exact .turn (hstep _ he) ⟨he.1, fun answer => ih answer (he.2 answer)⟩
  | look => exact he.elim
  | store => exact he.elim
  | clock resume ih => exact .turn (hstep _ he) fun instant => ih instant (he instant)
  | choose resume ih => exact .turn (hstep _ he) fun first => ih first (he first)

/-- **Two dialogues at the same time** are confined if both are. -/
theorem both (hd : d.Confined P) (he : e.Confined P) : (d.both e).Confined P := by
  -- a turn of the first dialogue is the hypothesis, and those of the second are in `bothFrom`
  induction d generalizing e with
  | done a => exact he.bind fun _ => trivial
  | send r resume ih =>
    exact .bothFrom hd (fun _ he => ⟨hd.1, fun answer => ih answer (hd.2 answer) he⟩) he
  | look => exact hd.elim
  | store => exact hd.elim
  | clock resume ih => exact .bothFrom hd (fun _ he instant => ih instant (hd instant) he) he
  | choose resume ih => exact .bothFrom hd (fun _ he first => ih first (hd first) he) he

/-- **Any number of dialogues at the same time.** -/
theorem all {ds : List (Dialogue α)} (h : ∀ d ∈ ds, d.Confined P) :
    (Dialogue.all ds).Confined P := by
  induction ds with
  | nil => exact trivial
  | cons d ds ih =>
    obtain ⟨hd, hds⟩ := List.forall_mem_cons.1 h
    exact (hd.both (ih hds)).bind fun _ => trivial

theorem insertSomewhere (a : α) (as : List α) :
    (Dialogue.insertSomewhere a as).Confined P := by
  induction as with
  | nil => exact trivial
  | cons b bs ih => exact .turn trivial (ih.bind fun _ => trivial)

theorem inSomeOrder (as : List α) : (Dialogue.inSomeOrder as).Confined P := by
  induction as with
  | nil => exact trivial
  | cons a as ih => exact ih.bind fun bs => insertSomewhere a bs

/-- **Any number of dialogues at the same time**, whose results arrive in any order. -/
theorem collect {ds : List (Dialogue α)} (h : ∀ d ∈ ds, d.Confined P) :
    (Dialogue.collect ds).Confined P :=
  ((all h).bind fun as => inSomeOrder as.zipIdx).bind fun _ => trivial

theorem meets {t : Terms} (hd : d.Confined P) (ht : ∀ past r, P r → t.allows past r)
    {past : List Exchanged} : d.Meets t (fun _ _ => True) past := by
  induction d generalizing past with
  | done a => exact trivial
  | send r resume ih => exact ⟨ht past r hd.1, fun answer _ => ih answer (hd.2 answer)⟩
  | look => exact hd.elim
  | store => exact hd.elim
  | clock resume ih => exact fun instant => ih instant (hd instant)
  | choose resume ih => exact fun first => ih first (hd first)

variable {σ : Type} (w : World σ) (cache : CatalogCache) (s : σ)

/-- The cache stays as it is. -/
theorem cache_run (hd : d.Confined P) : (d.run w cache s).cache = cache := by
  induction d generalizing s with
  | done a => rfl
  | send r resume ih => exact ih _ _ (hd.2 _)
  | look => exact hd.elim
  | store => exact hd.elim
  | clock resume ih => exact ih _ _ (hd _)
  | choose resume ih => exact ih _ _ (hd _)

/-- All requests are of the kind. -/
theorem exchanges (hd : d.Confined P) : ∀ x ∈ d.exchanges w cache s, P x.1 := by
  induction d generalizing s with
  | done a => exact fun x hx => absurd hx List.not_mem_nil
  | send r resume ih => exact List.forall_mem_cons.2 ⟨hd.1, ih _ _ (hd.2 _)⟩
  | look => exact hd.elim
  | store => exact hd.elim
  | clock resume ih => exact ih _ _ (hd _)
  | choose resume ih => exact ih _ _ (hd _)

end Confined

/-- A dialogue begins with another one; from then on it keeps away from the cache and sends only
requests of one kind. -/
def Continues {γ : Type} (P : Request → Prop) (d : Dialogue α) (first : Dialogue γ) : Prop :=
  ∃ rest : γ → Dialogue α, d = first.bind rest ∧ ∀ c, (rest c).Confined P

theorem Confined.continues (hd : d.Confined P) : d.Continues P (done ()) :=
  ⟨fun _ => d, rfl, fun _ => hd⟩

namespace Continues

variable {γ σ : Type} {first : Dialogue γ} (hd : d.Continues P first) (w : World σ)
  (cache : CatalogCache) (s : σ)
include hd

/-- The cache stays as the first part leaves it. -/
theorem cache_run : (d.run w cache s).cache = (first.run w cache s).cache := by
  obtain ⟨rest, rfl, hrest⟩ := hd
  rw [cache_run_bind, (hrest _).cache_run]

/-- The exchanges are those of the first part and then some of the kind. -/
theorem exchanges : ∃ xs, d.exchanges w cache s = first.exchanges w cache s ++ xs ∧
    ∀ x ∈ xs, P x.1 := by
  obtain ⟨rest, rfl, hrest⟩ := hd
  exact ⟨_, exchanges_bind .., (hrest _).exchanges _ _ _⟩

end Continues

/-! ### Dialogues that end in one way only -/

variable {f : Request → Option Response}

/-- Where the API server answers by a function, a dialogue ends in one way only. -/
def IsDetermined (f : Request → Option Response) (d : Dialogue α) : Prop :=
  ∃ a, ∀ {σ : Type} (w : World σ), w.AnswersBy f → ∀ cache s, (d.run w cache s).result = a

namespace IsDetermined

theorem done (a : α) : (done a).IsDetermined f := ⟨a, fun _ _ _ _ => rfl⟩

theorem bind {g : α → Dialogue β} (hd : d.IsDetermined f) (hg : ∀ a, (g a).IsDetermined f) :
    (d.bind g).IsDetermined f := by
  obtain ⟨a, ha⟩ := hd
  obtain ⟨b, hb⟩ := hg a
  refine ⟨b, fun w hw cache s => ?_⟩
  rw [result_run_bind, ha w hw, hb w hw]

/-- **A dialogue ends as it does alone.** -/
theorem result_run {σ : Type} {w : World σ} (hd : d.IsDetermined f) (hw : w.AnswersBy f)
    (cache : CatalogCache) (s : σ) : (d.run w cache s).result = d.alone f := by
  obtain ⟨a, ha⟩ := hd
  rw [ha w hw, alone, ha _ (World.answersBy_answering f)]

end IsDetermined

theorem OnlySends.isDetermined (hd : d.OnlySends) : d.IsDetermined f := by
  have hmeets : d.Meets (.answering f) (fun _ a => a = d.alone f) [] := hd.meets
  exact ⟨d.alone f, fun _ hw cache s => hmeets.result_run cache s fun s r => hw s r⟩

theorem isDetermined_collect {ds : List (Dialogue α)} (h : ∀ d ∈ ds, d.OnlySends) :
    (collect ds).IsDetermined f := ⟨_, fun _ hw cache s => result_collect hw cache s h⟩

theorem isDetermined_all {ds : List (Dialogue α)} (h : ∀ d ∈ ds, d.OnlySends) :
    (all ds).IsDetermined f := by
  refine ⟨ds.map (alone f), fun w hw cache s => ?_⟩
  have hall : (all (ds.map id)).Meets (.answering f)
      (fun _ as => List.Forall₂ (fun d a => a = alone f d) ds as) [] :=
    meets_all_map (Terms.lasting_answering f) (fun _ _ _ _ _ ha => ha) fun d hd => (h d hd).meets
  rw [List.map_id] at hall
  have hends := hall.result_run cache s fun s r => hw s r
  have hmap : List.Forall₂ (· = ·) (ds.map (alone f)) ((all ds).run w cache s).result :=
    List.forall₂_map_left_iff.2 (hends.imp fun _ _ ha => ha.symm)
  rw [List.forall₂_eq_eq_eq] at hmap
  exact hmap.symm

/-- A dialogue begins with another one.  From then on it keeps away from the cache, sends only
requests of one kind, and ends in one way only where the API server answers by a function. -/
def Extends {γ : Type} (f : Request → Option Response) (P : Request → Prop) (d : Dialogue α)
    (first : Dialogue γ) : Prop :=
  ∃ rest : γ → Dialogue α, d = first.bind rest ∧ (∀ c, (rest c).Confined P) ∧
    ∀ c, (rest c).IsDetermined f

namespace Extends

variable {γ : Type} {first : Dialogue γ}

theorem refl (d : Dialogue α) : d.Extends f P d :=
  ⟨done, (bind_done d).symm, fun _ => trivial, .done⟩

theorem bind {g : α → Dialogue β} (hd : d.Extends f P first) (hg : ∀ a, (g a).Confined P)
    (hg' : ∀ a, (g a).IsDetermined f) : (d.bind g).Extends f P first := by
  obtain ⟨rest, rfl, hrest, hrest'⟩ := hd
  refine ⟨fun c => (rest c).bind g, bind_assoc .., fun c => ?_, fun c => ?_⟩
  · exact (hrest c).bind hg
  · exact (hrest' c).bind hg'

theorem continues (hd : d.Extends f P first) : d.Continues P first := by
  obtain ⟨rest, hrest, hconfined, -⟩ := hd
  exact ⟨rest, hrest, hconfined⟩

/-- **Two runs end in the same way** if their first parts do. -/
theorem result_run_eq {σ τ : Type} {w : World σ} {w' : World τ} (hd : d.Extends f P first)
    (hw : w.AnswersBy f) (hw' : w'.AnswersBy f) {cache cache' : CatalogCache} {s : σ} {s' : τ}
    (h : (first.run w cache s).result = (first.run w' cache' s').result) :
    (d.run w cache s).result = (d.run w' cache' s').result := by
  obtain ⟨rest, rfl, -, hrest⟩ := hd
  rw [result_run_bind, result_run_bind, (hrest _).result_run hw, (hrest _).result_run hw', h]

end Extends

end Dialogue

/-! ### Operations -/

namespace Operation

variable {α β : Type} {P : Request → Prop} {o : Operation α} {g : α → Operation β}

/-- An operation keeps away from the cache and sends only requests of one kind. -/
def Confined (P : Request → Prop) (o : Operation α) : Prop := o.attempt.Confined P

theorem Confined.next (hg : ∀ a, (g a).Confined P) (r : Except GatewayError α) :
    Dialogue.Confined P (next g r) := by
  cases r with
  | ok a => exact hg a
  | error e => exact trivial

theorem Confined.bind (ho : o.Confined P) (hg : ∀ a, (g a).Confined P) :
    Operation.Confined P (o >>= g) := by
  rw [Operation.Confined, attempt_bind]
  exact Dialogue.Confined.bind ho (Confined.next hg)

theorem confined_ofExcept (r : Except GatewayError α) : (ofExcept r).Confined P := trivial

theorem confined_pure (a : α) : Operation.Confined P (pure a : Operation α) := trivial

theorem confined_orElse_bind {error : GatewayError} {found : Option α}
    (h : ∀ a, found = some a → (g a).Confined P) :
    Operation.Confined P (orElse error found >>= g) := by
  cases found with
  | none => exact trivial
  | some a => exact h a rfl

theorem confined_request_bind {r : Request} {g : Option Response → Operation β} (hr : P r)
    (hg : ∀ answer, (g answer).Confined P) :
    Operation.Confined P (ofDialogue (.request r) >>= g) := ⟨hr, hg⟩

theorem confined_ofDialogue {d : Dialogue α} (hd : d.Confined P) : (ofDialogue d).Confined P :=
  Dialogue.Confined.bind hd fun _ => trivial

theorem Confined.meets {t : Terms} (ho : o.Confined P) (ht : ∀ past r, P r → t.allows past r)
    {past : List Exchanged} : o.Meets t (fun _ _ => True) past :=
  meets_iff.2 ((Dialogue.Confined.meets ho ht).imp fun _ _ _ _ _ _ => trivial)

/-- An operation ends in one way only. -/
def IsDetermined (f : Request → Option Response) (o : Operation α) : Prop :=
  o.attempt.IsDetermined f

variable {f : Request → Option Response}

theorem IsDetermined.next (hg : ∀ a, (g a).IsDetermined f) (r : Except GatewayError α) :
    Dialogue.IsDetermined f (next g r) := by
  cases r with
  | ok a => exact hg a
  | error e => exact .done _

theorem IsDetermined.bind (ho : o.IsDetermined f) (hg : ∀ a, (g a).IsDetermined f) :
    Operation.IsDetermined f (o >>= g) := by
  rw [Operation.IsDetermined, attempt_bind]
  exact Dialogue.IsDetermined.bind ho (IsDetermined.next hg)

theorem extends_bind {γ : Type} {first : Dialogue γ} (ho : o.attempt.Extends f P first)
    (hg : ∀ a, (g a).Confined P) (hg' : ∀ a, (g a).IsDetermined f) :
    Dialogue.Extends f P (o >>= g).attempt first := by
  rw [attempt_bind]
  exact ho.bind (Confined.next hg) (IsDetermined.next hg')

theorem OnlySends.isDetermined (ho : o.OnlySends) : o.IsDetermined f :=
  Dialogue.OnlySends.isDetermined ho

theorem isDetermined_ofDialogue {d : Dialogue α} (hd : d.IsDetermined f) :
    (ofDialogue d).IsDetermined f := Dialogue.IsDetermined.bind hd fun _ => .done _

end Operation

end ClusterGateway

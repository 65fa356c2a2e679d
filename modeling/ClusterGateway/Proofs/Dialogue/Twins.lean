import ClusterGateway.Proofs.Dialogue.Course

/-!
# Two runs of a dialogue

Two worlds go along with each other (`World.Alongside`) when they show the same time and make the
same choices; what they answer to a request may differ, within a relation that depends on the
request.  Two dialogues are twins when they take the same steps as long as the answers are so
related, and end with values in a relation (`Dialogue.Twins`).

* `Dialogue.Twins.run` : **twins in worlds that go along with each other come to related ends**.
* `Dialogue.Twins.both`, `Dialogue.Twins.collect` : twins at the same time are twins, also when
  their results arrive in any order.
* `Dialogue.run_eq_of_answers` : where the answers to the requests of a run are the same, a dialogue
  comes to the same in both worlds.
-/

namespace ClusterGateway

open Http

/-- Two worlds whose states stay in a relation.  They show the same time and choose the same, and
their answers to a request are related. -/
structure World.Alongside {σ τ : Type} (w : World σ) (v : World τ) (S : σ → τ → Prop)
    (R : Request → Option Response → Option Response → Prop) : Prop where
  /-- The moments are the same. -/
  moment {s : σ} {t : τ} : S s t → w.moment s = v.moment t
  /-- The clocks are the same. -/
  instant {s : σ} {t : τ} : S s t → w.instant s = v.instant t
  /-- The same is chosen. -/
  turn {s : σ} {t : τ} : S s t → (w.turn s).1 = (v.turn t).1 ∧ S (w.turn s).2 (v.turn t).2
  /-- The answers are related. -/
  answer {s : σ} {t : τ} (r : Request) : S s t →
    R r (w.answer s r).1 (v.answer t r).1 ∧ S (w.answer s r).2 (v.answer t r).2

namespace Dialogue

variable {α β α' β' : Type} {R : Request → Option Response → Option Response → Prop}
variable {P : α → α' → Prop} {Q : β → β' → Prop}
variable {d : Dialogue α} {d' : Dialogue α'} {e : Dialogue β} {e' : Dialogue β'}

/-- Two dialogues take the same steps as long as the answers are related, and their ends are
related. -/
inductive Twins (R : Request → Option Response → Option Response → Prop) (P : α → α' → Prop) :
    Dialogue α → Dialogue α' → Prop
  /-- Both end. -/
  | done {a : α} {a' : α'} : P a a' → Twins R P (done a) (done a')
  /-- Both send the same request. -/
  | send {r : Request} {resume : Option Response → Dialogue α}
      {resume' : Option Response → Dialogue α'} :
    (∀ answer answer', R r answer answer' → Twins R P (resume answer) (resume' answer')) →
      Twins R P (send r resume) (send r resume')
  /-- Both look at the cache. -/
  | look {resume : Moment → CatalogCache → Dialogue α}
      {resume' : Moment → CatalogCache → Dialogue α'} :
    (∀ moment cache, Twins R P (resume moment cache) (resume' moment cache)) →
      Twins R P (look resume) (look resume')
  /-- Both store the same catalog. -/
  | store {catalog : Catalog} {d : Dialogue α} {d' : Dialogue α'} :
    Twins R P d d' → Twins R P (store catalog d) (store catalog d')
  /-- Both read the clock. -/
  | clock {resume : Instant → Dialogue α} {resume' : Instant → Dialogue α'} :
    (∀ instant, Twins R P (resume instant) (resume' instant)) →
      Twins R P (clock resume) (clock resume')
  /-- Both leave a choice. -/
  | choose {resume : Bool → Dialogue α} {resume' : Bool → Dialogue α'} :
    (∀ first, Twins R P (resume first) (resume' first)) →
      Twins R P (choose resume) (choose resume')

namespace Twins

/-- **Going on**: what follows twins is twins if it is so from related ends on. -/
theorem bind {f : α → Dialogue β} {f' : α' → Dialogue β'} (hd : Twins R P d d')
    (hf : ∀ a a', P a a' → Twins R Q (f a) (f' a')) : Twins R Q (d.bind f) (d'.bind f') := by
  induction hd with
  | done h => exact hf _ _ h
  | send _ ih => exact .send ih
  | look _ ih => exact .look ih
  | store _ ih => exact .store ih
  | clock _ ih => exact .clock ih
  | choose _ ih => exact .choose ih

theorem turn {other : Dialogue α} {other' : Dialogue α'} (hd : Twins R P d d')
    (ho : Twins R P other other') :
    Twins R P (Dialogue.choose fun turn => if turn then d else other)
      (Dialogue.choose fun turn => if turn then d' else other') := by
  refine .choose fun turn => ?_
  cases turn
  · exact ho
  · exact hd

theorem bothFrom {step : Dialogue β → Dialogue (α × β)} {step' : Dialogue β' → Dialogue (α' × β')}
    (hd : Twins R P d d')
    (hstep : ∀ e e', Twins R Q e e' →
      Twins R (fun x y => P x.1 y.1 ∧ Q x.2 y.2) (step e) (step' e'))
    (he : Twins R Q e e') :
    Twins R (fun x y => P x.1 y.1 ∧ Q x.2 y.2) (Dialogue.bothFrom d step e)
      (Dialogue.bothFrom d' step' e') := by
  induction he with
  | done hb => exact hd.bind fun a a' ha => .done ⟨ha, hb⟩
  | send h ih => exact .turn (hstep _ _ (.send h)) (.send ih)
  | look h ih => exact .turn (hstep _ _ (.look h)) (.look ih)
  | store h ih => exact .turn (hstep _ _ (.store h)) (.store ih)
  | clock h ih => exact .turn (hstep _ _ (.clock h)) (.clock ih)
  | choose h ih => exact .turn (hstep _ _ (.choose h)) (.choose ih)

/-- **Twins at the same time.** -/
theorem both (hd : Twins R P d d') (he : Twins R Q e e') :
    Twins R (fun x y => P x.1 y.1 ∧ Q x.2 y.2) (d.both e) (d'.both e') := by
  -- a step of the first two is the hypothesis, and those of the second two are in `bothFrom`
  induction hd generalizing e e' with
  | done ha => exact he.bind fun b b' hb => .done ⟨ha, hb⟩
  | send h ih => exact .bothFrom (.send h) (fun _ _ he => .send fun a a' ha => ih a a' ha he) he
  | look h ih => exact .bothFrom (.look h) (fun _ _ he => .look fun m c => ih m c he) he
  | store h ih => exact .bothFrom (.store h) (fun _ _ he => .store (ih he)) he
  | clock h ih => exact .bothFrom (.clock h) (fun _ _ he => .clock fun i => ih i he) he
  | choose h ih => exact .bothFrom (.choose h) (fun _ _ he => .choose fun t => ih t he) he

/-- **Any number of twins at the same time.** -/
theorem all {ds : List (Dialogue α)} {ds' : List (Dialogue α')}
    (h : List.Forall₂ (Twins R P) ds ds') :
    Twins R (List.Forall₂ P) (Dialogue.all ds) (Dialogue.all ds') := by
  induction h with
  | nil => exact .done .nil
  | cons hd _ ih => exact (hd.both ih).bind fun x y hxy => .done (.cons hxy.1 hxy.2)

theorem insertSomewhere {a : α} {a' : α'} (ha : P a a') {as : List α} {as' : List α'}
    (h : List.Forall₂ P as as') :
    Twins R (List.Forall₂ P) (Dialogue.insertSomewhere a as)
      (Dialogue.insertSomewhere a' as') := by
  induction h with
  | nil => exact .done (.cons ha .nil)
  | cons hb hbs ih =>
    exact .turn (.done (.cons ha (.cons hb hbs))) (ih.bind fun _ _ hcs => .done (.cons hb hcs))

theorem inSomeOrder {as : List α} {as' : List α'} (h : List.Forall₂ P as as') :
    Twins R (List.Forall₂ P) (Dialogue.inSomeOrder as) (Dialogue.inSomeOrder as') := by
  induction h with
  | nil => exact .done .nil
  | cons ha _ ih => exact ih.bind fun _ _ hbs => insertSomewhere ha hbs

theorem forall₂_zipIdx {as : List α} {as' : List α'} (h : List.Forall₂ P as as') (n : Nat) :
    List.Forall₂ (fun x y => P x.1 y.1 ∧ x.2 = y.2) (as.zipIdx n) (as'.zipIdx n) := by
  induction h generalizing n with
  | nil => exact .nil
  | cons ha _ ih => exact .cons ⟨ha, rfl⟩ (ih (n + 1))

theorem forall₂_set {as : List α} {as' : List α'} (h : List.Forall₂ P as as') (n : Nat) {a : α}
    {a' : α'} (ha : P a a') : List.Forall₂ P (as.set n a) (as'.set n a') := by
  induction h generalizing n with
  | nil => exact .nil
  | cons hb hbs ih =>
    cases n with
    | zero => exact .cons ha hbs
    | succ n => exact .cons hb (ih n)

theorem forall₂_inPlaces {xs : List (α × Nat)} {ys : List (α' × Nat)} (places : Nat)
    (h : List.Forall₂ (fun x y => P x.1 y.1 ∧ x.2 = y.2) xs ys) :
    List.Forall₂ P (inPlaces places xs) (inPlaces places ys) := by
  have hempty : List.Forall₂ (Option.Rel P) (List.replicate places none)
      (List.replicate places none) := by
    induction places with
    | zero => exact .nil
    | succ places ih => exact .cons .none ih
  refine List.rel_filterMap (fun _ _ hslot => hslot) (List.rel_foldl ?_ hempty h)
  rintro slots slots' hslots ⟨a, n⟩ ⟨a', _⟩ ⟨ha, rfl⟩
  exact forall₂_set hslots n (.some ha)

/-- **Any number of twins at the same time**, whose results arrive in any order. -/
theorem collect {ds : List (Dialogue α)} {ds' : List (Dialogue α')}
    (h : List.Forall₂ (Twins R P) ds ds') :
    Twins R (List.Forall₂ P) (Dialogue.collect ds) (Dialogue.collect ds') := by
  have harrivals := (all h).bind fun as as' has => inSomeOrder (R := R) (forall₂_zipIdx has 0)
  refine harrivals.bind fun xs ys hxs => ?_
  rw [h.length_eq]
  exact .done (forall₂_inPlaces ds'.length hxs)

variable {σ τ : Type} {w : World σ} {v : World τ} {S : σ → τ → Prop}

/-- **Twins come to related ends**, and leave the same cache and related states. -/
theorem run (hd : Twins R P d d') (hwv : w.Alongside v S R) (cache : CatalogCache) {s : σ} {t : τ}
    (hst : S s t) : P (d.run w cache s).result (d'.run v cache t).result ∧
      (d.run w cache s).cache = (d'.run v cache t).cache ∧
      S (d.run w cache s).state (d'.run v cache t).state := by
  induction hd generalizing cache s t with
  | done h => exact ⟨h, rfl, hst⟩
  | send _ ih =>
    obtain ⟨hanswer, hnext⟩ := hwv.answer _ hst
    exact ih _ _ hanswer cache hnext
  | look _ ih =>
    simp only [Dialogue.run, hwv.moment hst]
    exact ih _ _ cache hst
  | store _ ih =>
    simp only [Dialogue.run, hwv.moment hst]
    exact ih _ hst
  | clock _ ih =>
    simp only [Dialogue.run, hwv.instant hst]
    exact ih _ cache hst
  | choose _ ih =>
    obtain ⟨hturn, hnext⟩ := hwv.turn hst
    simp only [Dialogue.run, hturn]
    exact ih _ cache hnext

end Twins

/-- **A dialogue comes to the same in both worlds** where its requests are answered the same. -/
theorem run_eq_of_answers {σ τ : Type} {w : World σ} {v : World τ} {S : σ → τ → Prop}
    (hwv : w.Alongside v S R) (d : Dialogue α) (cache : CatalogCache) {s : σ} {t : τ} (hst : S s t)
    (h : ∀ x ∈ d.exchanges w cache s, ∀ answer, R x.1 x.2 answer → x.2 = answer) :
    (d.run w cache s).result = (d.run v cache t).result ∧
      (d.run w cache s).cache = (d.run v cache t).cache ∧
      S (d.run w cache s).state (d.run v cache t).state := by
  induction d generalizing cache s t with
  | done a => exact ⟨rfl, rfl, hst⟩
  | send r resume ih =>
    obtain ⟨hanswer, hnext⟩ := hwv.answer r hst
    obtain ⟨hfirst, hlater⟩ := List.forall_mem_cons.1 h
    -- what may stand in place of this answer is the answer itself
    have hsame : (w.answer s r).1 = (v.answer t r).1 := hfirst _ hanswer
    simp only [run, ← hsame]
    exact ih _ cache hnext hlater
  | look resume ih =>
    simp only [run, ← hwv.moment hst]
    exact ih _ _ cache hst h
  | store catalog resume ih =>
    simp only [run, ← hwv.moment hst]
    exact ih _ hst h
  | clock resume ih =>
    simp only [run, ← hwv.instant hst]
    exact ih _ cache hst h
  | choose resume ih =>
    obtain ⟨hturn, hnext⟩ := hwv.turn hst
    simp only [run, ← hturn]
    exact ih _ cache hnext h

end Dialogue

end ClusterGateway

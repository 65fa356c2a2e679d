import ClusterGateway.Cluster.Dialogue
import Mathlib.Data.List.Forall2

/-!
# Terms of a dialogue

What holds on every course that a dialogue can take.  `Terms` name the answers that can come to a
request and the requests that may be sent after the exchanges so far; `Dialogue.Meets` says that a
dialogue sends only such requests as long as only such answers come, whatever the cache, the clock
and the chance say, and what holds of its end.

* `Dialogue.meets_bind` : a dialogue that goes on with another one meets terms if the second one
  meets them from every end of the first one on.
* `Dialogue.Meets.both` : **two dialogues that each meet terms that last also meet them at the same
  time**, whoever takes the next step; so does any number of them (`Dialogue.meets_all_map`),
  also when their results arrive in any order (`Dialogue.meets_collect_map`).
* `Operation.Meets.bind`, `Operation.Settles.bind` : going on after a success; `Operation.Settles`
  says what holds after a failure, too.
* `Dialogue.Meets.allowed` : every request of a course that a dialogue admits is allowed after the
  exchanges before it.
* `Dialogue.Meets.result_run` : the value at the end of a run in a world.
-/

namespace ClusterGateway

open Http

/-- A request and what came back. -/
abbrev Exchanged := Request × Option Response

/-- What the two sides of a dialogue hold each other to. -/
structure Terms where
  /-- The answers that can come to a request. -/
  answers : Request → Option Response → Prop
  /-- The requests that may be sent after the exchanges so far. -/
  allows : List Exchanged → Request → Prop

/-- A statement about the exchanges so far that further exchanges leave true. -/
def Lasting (P : List Exchanged → Prop) : Prop := ∀ ⦃past later⦄, past ⊆ later → P past → P later

/-- The terms allow what they have allowed before. -/
def Terms.Lasting (t : Terms) : Prop := ∀ r, ClusterGateway.Lasting (t.allows · r)

theorem lasting_true : Lasting fun _ => True := fun _ _ _ _ => trivial

section Partners

variable {α β : Type} {R : α → β → Prop} {as : List α} {bs : List β}

theorem exists_of_mem_left (h : List.Forall₂ R as bs) {a : α} (ha : a ∈ as) : ∃ b ∈ bs, R a b := by
  induction h with
  | nil => cases ha
  | @cons a' b _ _ hab _ ih =>
    obtain rfl | ha := List.mem_cons.1 ha
    · exact ⟨b, List.mem_cons_self, hab⟩
    · obtain ⟨b', hb', hab'⟩ := ih ha
      exact ⟨b', List.mem_cons_of_mem b hb', hab'⟩

theorem exists_of_mem_right (h : List.Forall₂ R as bs) {b : β} (hb : b ∈ bs) : ∃ a ∈ as, R a b :=
  exists_of_mem_left (R := flip R) (List.Forall₂.flip h) hb

end Partners

namespace Dialogue

variable {α β : Type} {t : Terms}

/-- From the exchanges so far on, a dialogue keeps to the terms on every course, and what it ends
with stands in the relation `Q` to all exchanges. -/
def Meets (t : Terms) (Q : List Exchanged → α → Prop) : Dialogue α → List Exchanged → Prop
  | done a, past => Q past a
  | send r resume, past => t.allows past r ∧
    ∀ answer, t.answers r answer → (resume answer).Meets t Q (past ++ [(r, answer)])
  | look resume, past => ∀ moment cache, (resume moment cache).Meets t Q past
  | store _ resume, past => resume.Meets t Q past
  | clock resume, past => ∀ instant, (resume instant).Meets t Q past
  | choose resume, past => ∀ first, (resume first).Meets t Q past

variable {Q : List Exchanged → α → Prop} {R : List Exchanged → β → Prop}
variable {d : Dialogue α} {e : Dialogue β} {past : List Exchanged}

@[simp] theorem meets_done (a : α) : (done a).Meets t Q past ↔ Q past a := Iff.rfl

/-- **Going on.**  A dialogue and what follows it meet terms just if the first part ends only where
the second part meets them. -/
@[simp] theorem meets_bind (f : α → Dialogue β) :
    (d.bind f).Meets t R past ↔ d.Meets t (fun past a => (f a).Meets t R past) past := by
  induction d generalizing past with
  | done a => rfl
  | send r resume ih => simp only [bind, Meets, ih]
  | look resume ih => simp only [bind, Meets, ih]
  | store catalog resume ih => simp only [bind, Meets, ih]
  | clock resume ih => simp only [bind, Meets, ih]
  | choose resume ih => simp only [bind, Meets, ih]

/-- What follows from the end of a dialogue; the exchanges there include those so far. -/
theorem Meets.imp {P : List Exchanged → α → Prop} (hd : d.Meets t Q past)
    (h : ∀ later a, past ⊆ later → Q later a → P later a) : d.Meets t P past := by
  induction d generalizing past with
  | done a => exact h past a (List.Subset.refl past) hd
  | send r resume ih =>
    refine ⟨hd.1, fun answer ha => ih answer (hd.2 answer ha) fun later a hs => h later a ?_⟩
    exact List.Subset.trans (List.subset_append_left past _) hs
  | look resume ih => exact fun moment cache => ih moment cache (hd moment cache) h
  | store catalog resume ih => exact ih hd h
  | clock resume ih => exact fun instant => ih instant (hd instant) h
  | choose resume ih => exact fun first => ih first (hd first) h

theorem Meets.later {later : List Exchanged} (ht : t.Lasting) (hQ : ∀ a, Lasting (Q · a))
    (hd : d.Meets t Q past) (hs : past ⊆ later) : d.Meets t Q later := by
  induction d generalizing past later with
  | done a => exact hQ a hs hd
  | send r resume ih =>
    refine ⟨ht r hs hd.1, fun answer ha => ih answer (hd.2 answer ha) ?_⟩
    exact List.append_subset.2 ⟨List.subset_append_of_subset_left _ hs,
      List.subset_append_right later _⟩
  | look resume ih => exact fun moment cache => ih moment cache (hd moment cache) hs
  | store catalog resume ih => exact ih hd hs
  | clock resume ih => exact fun instant => ih instant (hd instant) hs
  | choose resume ih => exact fun first => ih first (hd first) hs

/-! ### At the same time -/

theorem Meets.turn {first other : Dialogue α} (hf : first.Meets t Q past)
    (ho : other.Meets t Q past) :
    (choose fun turn => if turn then first else other).Meets t Q past := by
  intro turn
  cases turn
  · exact ho
  · exact hf

section Both

variable (ht : t.Lasting) (hQ : ∀ a, Lasting (Q · a)) (hR : ∀ b, Lasting (R · b))

include ht hQ hR in
/-- The second of two dialogues runs through its own steps; `step` stands for a step of the
first. -/
theorem Meets.bothFrom {step : Dialogue β → Dialogue (α × β)} (hd : d.Meets t Q past)
    (hstep : ∀ later e, past ⊆ later → e.Meets t R later →
      (step e).Meets t (fun past r => Q past r.1 ∧ R past r.2) later)
    (he : e.Meets t R past) :
    (bothFrom d step e).Meets t (fun past r => Q past r.1 ∧ R past r.2) past := by
  have same {past : List Exchanged} : past ⊆ past := List.Subset.refl past
  -- a turn of the first dialogue is `hstep`, one of the second its own step and the hypothesis
  induction e generalizing past with
  | done b =>
    rw [Dialogue.bothFrom, meets_bind]
    exact hd.imp fun later a hs h => ⟨h, hR b hs he⟩
  | send r resume ih =>
    refine .turn (hstep past _ same he) ⟨he.1, fun answer ha => ?_⟩
    have hs := List.subset_append_left past [(r, answer)]
    refine ih answer (hd.later ht hQ hs) (fun later e h => ?_) (he.2 answer ha)
    exact hstep later e (List.Subset.trans hs h)
  | look resume ih =>
    exact .turn (hstep past _ same he) fun moment cache => ih moment cache hd hstep (he _ _)
  | store catalog resume ih => exact .turn (hstep past _ same he) (ih hd hstep he)
  | clock resume ih =>
    exact .turn (hstep past _ same he) fun instant => ih instant hd hstep (he instant)
  | choose resume ih =>
    exact .turn (hstep past _ same he) fun first => ih first hd hstep (he first)

include ht hQ hR in
/-- **Two dialogues at the same time** keep to terms that each of them keeps to, and each ends as
it does alone. -/
theorem Meets.both (hd : d.Meets t Q past) (he : e.Meets t R past) :
    (d.both e).Meets t (fun past r => Q past r.1 ∧ R past r.2) past := by
  -- between two steps of the first dialogue `bothFrom` takes any number of steps of the second,
  -- so the second is whatever is left of it then
  induction d generalizing e past with
  | done a =>
    rw [Dialogue.both, meets_bind]
    exact he.imp fun later b hs h => ⟨hQ a hs hd, h⟩
  | send r resume ih =>
    refine Meets.bothFrom ht hQ hR hd (fun later e hs he => ?_) he
    refine ⟨ht r hs hd.1, fun answer ha => ih answer ?_ ?_⟩
    · refine (hd.2 answer ha).later ht hQ (List.append_subset.2 ⟨?_, ?_⟩)
      · exact List.subset_append_of_subset_left _ hs
      · exact List.subset_append_right later _
    · exact he.later ht hR (List.subset_append_left later _)
  | look resume ih =>
    refine Meets.bothFrom ht hQ hR hd (fun later e hs he moment cache => ?_) he
    exact ih moment cache ((hd moment cache).later ht hQ hs) he
  | store catalog resume ih =>
    refine Meets.bothFrom ht hQ hR hd (fun later e hs he => ?_) he
    exact ih (Meets.later (d := resume) ht hQ hd hs) he
  | clock resume ih =>
    refine Meets.bothFrom ht hQ hR hd (fun later e hs he instant => ?_) he
    exact ih instant ((hd instant).later ht hQ hs) he
  | choose resume ih =>
    refine Meets.bothFrom ht hQ hR hd (fun later e hs he first => ?_) he
    exact ih first ((hd first).later ht hQ hs) he

end Both

/-- **Any number of dialogues of one kind at the same time.**  Each ends as it does alone, and the
results are in the order of what the dialogues are about. -/
theorem meets_all_map (ht : t.Lasting) {ι : Type} {f : ι → Dialogue α}
    {Q : ι → List Exchanged → α → Prop} (hQ : ∀ i a, Lasting (Q i · a)) {is : List ι}
    (h : ∀ i ∈ is, (f i).Meets t (Q i) past) :
    (all (is.map f)).Meets t (fun past as => List.Forall₂ (fun i a => Q i past a) is as) past := by
  induction is with
  | nil => exact .nil
  | cons i is ih =>
    have hlast (as : List α) : Lasting fun past => List.Forall₂ (fun i a => Q i past a) is as :=
      fun _ _ hs h => h.imp fun i a => hQ i a hs
    have his := ih fun i hi => h i (List.mem_cons_of_mem _ hi)
    rw [List.map_cons, all, meets_bind]
    refine ((h i List.mem_cons_self).both ht (hQ i) hlast his).imp fun later r _ hr => ?_
    exact .cons hr.1 hr.2

theorem meets_all_trivial (ht : t.Lasting) {ds : List (Dialogue α)}
    (h : ∀ d ∈ ds, d.Meets t (fun _ _ => True) past) :
    (all ds).Meets t (fun _ _ => True) past := by
  have hall := meets_all_map ht (f := id) (fun _ _ => lasting_true) h
  rw [List.map_id] at hall
  exact hall.imp fun _ _ _ _ => trivial

/-! ### In any order -/

theorem meets_insertSomewhere (a : α) (as : List α) :
    (insertSomewhere a as).Meets t (fun _ out => out.Perm (a :: as)) past := by
  induction as with
  | nil => exact List.Perm.refl _
  | cons b bs ih =>
    refine .turn (List.Perm.refl _) ?_
    rw [meets_bind]
    exact ih.imp fun _ cs _ h => (h.cons b).trans (List.Perm.swap a b bs)

theorem meets_inSomeOrder (as : List α) :
    (inSomeOrder as).Meets t (fun _ out => out.Perm as) past := by
  induction as with
  | nil => exact List.Perm.refl _
  | cons a as ih =>
    rw [inSomeOrder, meets_bind]
    refine ih.imp fun _ bs _ h => (meets_insertSomewhere a bs).imp fun _ out _ ho => ?_
    exact ho.trans (h.cons a)

theorem foldl_set_zipIdx (as : List α) (filled : List (Option α)) :
    (as.zipIdx filled.length).foldl (fun slots result => slots.set result.2 (some result.1))
      (filled ++ List.replicate as.length none) = filled ++ as.map some := by
  induction as generalizing filled with
  | nil => simp
  | cons a as ih =>
    have h := ih (filled ++ [some a])
    simp only [List.length_append, List.length_singleton, List.append_assoc] at h
    simpa [List.zipIdx_cons, List.replicate_succ, List.set_append] using h

/-- **Results are put back into their places**, in whatever order they have arrived. -/
theorem inPlaces_of_perm {as : List α} {arrived : List (α × Nat)} (h : arrived.Perm as.zipIdx) :
    inPlaces as.length arrived = as := by
  -- two results with one place are the same, so that the order of the writes does not matter
  have comm : ∀ x ∈ arrived, ∀ y ∈ arrived, ∀ slots : List (Option α),
      (slots.set x.2 (some x.1)).set y.2 (some y.1) =
        (slots.set y.2 (some y.1)).set x.2 (some x.1) := by
    intro x hx y hy slots
    by_cases hxy : x.2 = y.2
    · have ex := List.mk_mem_zipIdx_iff_getElem?.1 (h.subset hx)
      have ey := List.mk_mem_zipIdx_iff_getElem?.1 (h.subset hy)
      rw [hxy, ey] at ex
      rw [hxy, Option.some.inj ex]
    · exact List.set_comm _ _ hxy
  have hfold := h.foldl_eq' (f := fun slots result => slots.set result.2 (some result.1)) comm
    (List.replicate as.length none)
  have hown := foldl_set_zipIdx as []
  simp only [List.length_nil, List.nil_append] at hown
  rw [inPlaces, hfold, hown]
  simp [List.filterMap_map]

/-- **Any number of dialogues of one kind at the same time, whose results arrive in any order.**
Each ends as it does alone, and the results are in the order of what the dialogues are about. -/
theorem meets_collect_map (ht : t.Lasting) {ι : Type} {f : ι → Dialogue α}
    {Q : ι → List Exchanged → α → Prop} (hQ : ∀ i a, Lasting (Q i · a)) {is : List ι}
    (h : ∀ i ∈ is, (f i).Meets t (Q i) past) :
    (collect (is.map f)).Meets t (fun past as => List.Forall₂ (fun i a => Q i past a) is as)
      past := by
  rw [collect, arrivals, meets_bind, meets_bind]
  refine (meets_all_map ht hQ h).imp fun later as _ has => ?_
  -- the results arrive as some permutation, which putting them into their places undoes
  refine (meets_inSomeOrder as.zipIdx).imp fun last arrived hs hp => ?_
  rw [meets_done, List.length_map, has.length_eq, inPlaces_of_perm hp]
  exact has.imp fun i a => hQ i a hs

theorem meets_collect (ht : t.Lasting) {Q : Dialogue α → List Exchanged → α → Prop}
    (hQ : ∀ d a, Lasting (Q d · a)) {ds : List (Dialogue α)}
    (h : ∀ d ∈ ds, d.Meets t (Q d) past) :
    (collect ds).Meets t (fun past as => List.Forall₂ (fun d a => Q d past a) ds as) past := by
  have hcollect := meets_collect_map ht (f := id) hQ h
  rwa [List.map_id] at hcollect

end Dialogue

/-! ### Operations -/

namespace Operation

variable {α β : Type} {t : Terms} {Q : List Exchanged → α → Prop} {R : List Exchanged → β → Prop}
variable {past : List Exchanged}

/-- An operation keeps to the terms on every course, and what it succeeds with stands in the
relation `Q` to all exchanges. -/
def Meets (t : Terms) (Q : List Exchanged → α → Prop) (o : Operation α)
    (past : List Exchanged) : Prop :=
  o.attempt.Meets t (fun past r => ∀ a, r = .ok a → Q past a) past

theorem meets_iff {o : Operation α} : o.Meets t Q past ↔
    o.attempt.Meets t (fun past r => ∀ a, r = .ok a → Q past a) past := Iff.rfl

theorem meets_pure {a : α} (h : Q past a) : Operation.Meets t Q (pure a) past := by
  intro b hb
  exact Except.ok.inj hb ▸ h

theorem meets_ofExcept {r : Except GatewayError α} (h : ∀ a, r = .ok a → Q past a) :
    (ofExcept r).Meets t Q past := h

theorem meets_orElse {error : GatewayError} {found : Option α}
    (h : ∀ a, found = some a → Q past a) : (orElse error found).Meets t Q past := by
  cases found with
  | none => exact fun a ha => nomatch ha
  | some b => exact fun a ha => h a (congrArg some (Except.ok.inj ha))

/-- **Going on after a success.** -/
theorem Meets.bind {o : Operation α} {f : α → Operation β} (ho : o.Meets t Q past)
    (hf : ∀ later a, past ⊆ later → Q later a → (f a).Meets t R later) :
    Operation.Meets t R (o >>= f) past := by
  rw [Operation.Meets, attempt_bind, Dialogue.meets_bind]
  refine Dialogue.Meets.imp ho fun later r hs hr => ?_
  cases r with
  | ok a => exact hf later a hs (hr a rfl)
  | error e => exact fun b hb => nomatch hb

theorem meets_ofExcept_bind {r : Except GatewayError α} {f : α → Operation β}
    (h : ∀ a, r = .ok a → (f a).Meets t R past) :
    Operation.Meets t R (ofExcept r >>= f) past := by
  cases r with
  | ok a => exact h a rfl
  | error e => exact fun b hb => nomatch hb

theorem meets_orElse_bind {error : GatewayError} {found : Option α} {f : α → Operation β}
    (h : ∀ a, found = some a → (f a).Meets t R past) :
    Operation.Meets t R (orElse error found >>= f) past := by
  cases found with
  | none => exact fun b hb => nomatch hb
  | some a => exact h a rfl

theorem meets_ofDialogue_bind {d : Dialogue α} {f : α → Operation β} :
    Operation.Meets t R (ofDialogue d >>= f) past ↔
      d.Meets t (fun past a => (f a).Meets t R past) past := by
  rw [Operation.Meets, attempt_bind, Dialogue.meets_bind, attempt_ofDialogue, Dialogue.meets_bind]
  rfl

theorem meets_ofDialogue {d : Dialogue α} :
    (ofDialogue d).Meets t Q past ↔ d.Meets t Q past := by
  rw [meets_iff, attempt_ofDialogue, Dialogue.meets_bind]
  exact ⟨fun h => h.imp fun _ a _ ha => ha a rfl,
    fun h => h.imp fun _ a _ ha b hb => Except.ok.inj hb ▸ ha⟩

theorem Meets.attempt {o : Operation α} (ho : o.Meets t Q past) :
    o.attempt.Meets t (fun _ _ => True) past :=
  Dialogue.Meets.imp ho fun _ _ _ _ => trivial

-- from here on an operation is taken apart by the lemmas above, never by running it
attribute [irreducible] Operation.Meets

/-! ### Operations that succeed or fail -/

/-- An operation keeps to the terms on every course; what it succeeds with stands in the relation
`Q` to all exchanges, and where it fails `E` holds of them. -/
def Settles (t : Terms) (Q : List Exchanged → α → Prop) (E : List Exchanged → Prop)
    (o : Operation α) (past : List Exchanged) : Prop :=
  o.attempt.Meets t (fun past r => match r with
    | .ok a => Q past a
    | .error _ => E past) past

variable {E E' : List Exchanged → Prop}

theorem settles_pure {a : α} (h : Q past a) : Operation.Settles t Q E (pure a) past := h

/-- **Going on after a success**, while a failure is that of both. -/
theorem Settles.bind {o : Operation α} {f : α → Operation β} (ho : o.Settles t Q E past)
    (hE : ∀ later, past ⊆ later → E later → E' later)
    (hf : ∀ later a, past ⊆ later → Q later a → (f a).Settles t R E' later) :
    Operation.Settles t R E' (o >>= f) past := by
  rw [Settles, attempt_bind, Dialogue.meets_bind]
  refine Dialogue.Meets.imp ho fun later r hs hr => ?_
  cases r with
  | ok a => exact hf later a hs hr
  | error e => exact hE later hs hr

theorem settles_ofDialogue_bind {d : Dialogue α} {f : α → Operation β} :
    Operation.Settles t R E (ofDialogue d >>= f) past ↔
      d.Meets t (fun past a => (f a).Settles t R E past) past := by
  rw [Settles, attempt_bind, Dialogue.meets_bind, attempt_ofDialogue, Dialogue.meets_bind]
  rfl

end Operation

end ClusterGateway

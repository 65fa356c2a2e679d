import ClusterGateway.Proofs.Dialogue.Terms

/-!
# Courses of a dialogue

`Dialogue.Admits` says which exchanges a dialogue can have, from its start on, when nothing is known
of the answers, the cache, the clock and the chance; the course may stop anywhere.  The exchanges
of a run in a world (`Dialogue.exchanges`) are such a course.  A dialogue that meets terms sends
only requests that these allow (`Dialogue.Meets.allowed`), and what holds at its ends holds at the
end of every run (`Dialogue.Meets.result_run`).

Where the API server answers by a function of the request, a dialogue that only sends ends in one
way only (`Dialogue.alone`), whatever takes place at the same time (`Dialogue.OnlySends.meets`).
-/

namespace ClusterGateway

open Http

namespace Dialogue

variable {σ α β : Type}

/-- The exchanges that a dialogue can have from its start on. -/
inductive Admits : Dialogue α → List Exchanged → Prop
  /-- The course stops here. -/
  | start (d : Dialogue α) : Admits d []
  /-- A request is sent, and something comes back. -/
  | send {r : Request} {resume : Option Response → Dialogue α} {answer : Option Response}
      {xs : List Exchanged} : Admits (resume answer) xs → Admits (send r resume) ((r, answer) :: xs)
  /-- The cache holds anything. -/
  | look {resume : Moment → CatalogCache → Dialogue α} {moment : Moment} {cache : CatalogCache}
      {xs : List Exchanged} : Admits (resume moment cache) xs → Admits (look resume) xs
  /-- A catalog is stored. -/
  | store {catalog : Catalog} {resume : Dialogue α} {xs : List Exchanged} :
      Admits resume xs → Admits (store catalog resume) xs
  /-- The clock shows anything. -/
  | clock {resume : Instant → Dialogue α} {instant : Instant} {xs : List Exchanged} :
      Admits (resume instant) xs → Admits (clock resume) xs
  /-- Anything is chosen. -/
  | choose {resume : Bool → Dialogue α} {first : Bool} {xs : List Exchanged} :
      Admits (resume first) xs → Admits (choose resume) xs

variable {t : Terms} {Q : List Exchanged → α → Prop} {d : Dialogue α} {past : List Exchanged}

/-- **Every request of a course is allowed** after the exchanges before it. -/
theorem Meets.allowed {xs before after : List Exchanged} {x : Exchanged} (hd : d.Meets t Q past)
    (hx : d.Admits xs) (ha : ∀ x ∈ xs, t.answers x.1 x.2) (h : xs = before ++ x :: after) :
    t.allows (past ++ before) x.1 := by
  induction hx generalizing past before with
  | start d => simp at h
  | @send r resume answer xs _ ih =>
    -- the request in question is this one, or it comes later and this one is behind it
    cases before with
    | nil =>
      obtain ⟨rfl, -⟩ := List.cons.inj h
      simpa using hd.1
    | cons y before =>
      obtain ⟨rfl, hxs⟩ := List.cons.inj h
      have hnext := hd.2 answer (ha _ List.mem_cons_self)
      simpa using ih hnext (fun x hx => ha x (List.mem_cons_of_mem _ hx)) hxs
  | look _ ih => exact ih (hd _ _) ha h
  | store _ ih => exact ih hd ha h
  | clock _ ih => exact ih (hd _) ha h
  | choose _ ih => exact ih (hd _) ha h

/-! ### Runs -/

/-- The exchanges of a run, in their order. -/
def exchanges (w : World σ) : Dialogue α → CatalogCache → σ → List Exchanged
  | done _, _, _ => []
  | send request resume, cache, s =>
    let (answer, s) := w.answer s request
    (request, answer) :: (resume answer).exchanges w cache s
  | look resume, cache, s => (resume (w.moment s) cache).exchanges w cache s
  | store catalog resume, cache, s => resume.exchanges w (cache.store catalog (w.moment s)) s
  | clock resume, cache, s => (resume (w.instant s)).exchanges w cache s
  | choose resume, cache, s =>
    let (first, s) := w.turn s
    (resume first).exchanges w cache s

variable (w : World σ) (cache : CatalogCache) (s : σ)

theorem sent_run : (d.run w cache s).sent = (d.exchanges w cache s).map Prod.fst := by
  induction d generalizing cache s with
  | done a => rfl
  | send r resume ih => simp [run, exchanges, ih]
  | look resume ih => exact ih _ _ _ _
  | store catalog resume ih => exact ih _ _
  | clock resume ih => exact ih _ _ _
  | choose resume ih => exact ih _ _ _

/-- **Every run is a course.** -/
theorem admits_exchanges : d.Admits (d.exchanges w cache s) := by
  induction d generalizing cache s with
  | done a => exact .start _
  | send r resume ih => exact .send (ih _ _ _)
  | look resume ih => exact .look (ih _ _ _ _)
  | store catalog resume ih => exact .store (ih _ _)
  | clock resume ih => exact .clock (ih _ _ _)
  | choose resume ih => exact .choose (ih _ _ _)

theorem result_run_bind (f : α → Dialogue β) :
    ((d.bind f).run w cache s).result =
      ((f (d.run w cache s).result).run w (d.run w cache s).cache
        (d.run w cache s).state).result := by
  induction d generalizing cache s with
  | done a => rfl
  | send r resume ih => exact ih _ _ _
  | look resume ih => exact ih _ _ _ _
  | store catalog resume ih => exact ih _ _
  | clock resume ih => exact ih _ _ _
  | choose resume ih => exact ih _ _ _

theorem cache_run_bind (f : α → Dialogue β) :
    ((d.bind f).run w cache s).cache =
      ((f (d.run w cache s).result).run w (d.run w cache s).cache
        (d.run w cache s).state).cache := by
  induction d generalizing cache s with
  | done a => rfl
  | send r resume ih => exact ih _ _ _
  | look resume ih => exact ih _ _ _ _
  | store catalog resume ih => exact ih _ _
  | clock resume ih => exact ih _ _ _
  | choose resume ih => exact ih _ _ _

theorem exchanges_bind (f : α → Dialogue β) :
    (d.bind f).exchanges w cache s = d.exchanges w cache s ++
      (f (d.run w cache s).result).exchanges w (d.run w cache s).cache
        (d.run w cache s).state := by
  induction d generalizing cache s with
  | done a => rfl
  | send r resume ih => exact congrArg (_ :: ·) (ih _ _ _)
  | look resume ih => exact ih _ _ _ _
  | store catalog resume ih => exact ih _ _
  | clock resume ih => exact ih _ _ _
  | choose resume ih => exact ih _ _ _

variable {w}

/-- **What holds at the ends of a dialogue holds at the end of every run** in a world that keeps to
the terms. -/
theorem Meets.result_run (hw : ∀ s r, t.answers r (w.answer s r).1) (hd : d.Meets t Q past) :
    Q (past ++ d.exchanges w cache s) (d.run w cache s).result := by
  induction d generalizing past cache s with
  | done a =>
    rw [exchanges, List.append_nil]
    exact hd
  | send r resume ih =>
    have h := ih _ cache (w.answer s r).2 (hd.2 _ (hw s r))
    rwa [List.append_assoc] at h
  | look resume ih => exact ih _ _ _ _ (hd _ _)
  | store catalog resume ih => exact ih _ _ hd
  | clock resume ih => exact ih _ _ _ (hd _)
  | choose resume ih => exact ih _ _ _ (hd _)

end Dialogue

/-- Anything may come back, and any request may be sent. -/
def Terms.free : Terms where
  answers _ _ := True
  allows _ _ := True

theorem Terms.lasting_free : Terms.free.Lasting := fun _ => lasting_true

theorem Dialogue.meets_free {α : Type} (d : Dialogue α) (past : List Exchanged) :
    d.Meets .free (fun _ _ => True) past := by
  induction d generalizing past with
  | done a => exact trivial
  | send r resume ih => exact ⟨trivial, fun answer _ => ih answer _⟩
  | look resume ih => exact fun moment cache => ih moment cache past
  | store catalog resume ih => exact ih past
  | clock resume ih => exact fun instant => ih instant past
  | choose resume ih => exact fun first => ih first past

theorem Dialogue.Meets.result_run_free {σ α : Type} {Q : List Exchanged → α → Prop}
    {d : Dialogue α} (hd : d.Meets .free Q []) (w : World σ) (cache : CatalogCache) (s : σ) :
    Q (d.exchanges w cache s) (d.run w cache s).result := by
  have hw (s : σ) (r : Request) : Terms.free.answers r (w.answer s r).1 := trivial
  exact hd.result_run cache s hw

/-- **What holds where an operation succeeds** holds of every run that ends well. -/
theorem Operation.Meets.result_run {σ α : Type} {Q : List Exchanged → α → Prop} {o : Operation α}
    (ho : o.Meets .free Q []) {w : World σ} {cache : CatalogCache} {s : σ} {a : α}
    (h : (o.attempt.run w cache s).result = .ok a) : Q (o.attempt.exchanges w cache s) a :=
  (meets_iff.1 ho).result_run_free w cache s a h

/-! ### Answers that depend on the request alone -/

/-- The API server answers a request by a function of it, whatever has happened before. -/
def World.AnswersBy {σ : Type} (w : World σ) (f : Request → Option Response) : Prop :=
  ∀ s r, (w.answer s r).1 = f r

/-- The world in which no time goes by and the first of two dialogues goes on. -/
def World.answering (f : Request → Option Response) : World Unit where
  answer s r := (f r, s)
  moment _ := 0
  instant _ := default
  turn s := (true, s)

theorem World.answersBy_answering (f : Request → Option Response) :
    (World.answering f).AnswersBy f := fun _ _ => rfl

/-- The answers are those of a function, and any request may be sent. -/
def Terms.answering (f : Request → Option Response) : Terms where
  answers r answer := answer = f r
  allows _ _ := True

theorem Terms.lasting_answering (f : Request → Option Response) : (Terms.answering f).Lasting :=
  fun _ => lasting_true

namespace Dialogue

variable {α β : Type} {f : Request → Option Response} {d : Dialogue α} {g : α → Dialogue β}

/-- The dialogue does nothing but send requests. -/
inductive OnlySends : Dialogue α → Prop
  /-- The end. -/
  | done (a : α) : OnlySends (done a)
  /-- A request, and nothing but requests after it. -/
  | send {r : Request} {resume : Option Response → Dialogue α} :
      (∀ answer, OnlySends (resume answer)) → OnlySends (send r resume)

theorem onlySends_request (r : Request) : (request r).OnlySends := .send fun answer => .done answer

theorem OnlySends.bind (hd : d.OnlySends) (hg : ∀ a, (g a).OnlySends) : (d.bind g).OnlySends := by
  induction hd with
  | done a => exact hg a
  | send _ ih => exact .send ih

/-- What a dialogue ends with where nothing else takes place. -/
def alone (f : Request → Option Response) (d : Dialogue α) : α :=
  (d.run (.answering f) default ()).result

@[simp] theorem alone_done (a : α) : (done a).alone f = a := rfl

theorem OnlySends.alone_bind (hd : d.OnlySends) : (d.bind g).alone f = (g (d.alone f)).alone f := by
  induction hd with
  | done a => rfl
  | @send r resume _ ih => exact ih (f r)

/-- **A dialogue that only sends ends as it does alone**, whatever takes place beside it. -/
theorem OnlySends.meets (hd : d.OnlySends) {past : List Exchanged} :
    d.Meets (.answering f) (fun _ a => a = d.alone f) past := by
  induction hd generalizing past with
  | done a => exact rfl
  | send _ ih =>
    refine ⟨trivial, fun answer ha => ?_⟩
    rw [ha]
    exact ih _

/-- **The outcomes of any number of dialogues that only send** are those that each comes to alone,
in the order of the dialogues: neither the order of their steps nor that of their ends matters. -/
theorem result_collect {σ : Type} {w : World σ} (hw : w.AnswersBy f) (cache : CatalogCache) (s : σ)
    {ds : List (Dialogue α)} (hds : ∀ d ∈ ds, d.OnlySends) :
    ((collect ds).run w cache s).result = ds.map (alone f) := by
  have hcollect : (collect ds).Meets (.answering f)
      (fun _ as => List.Forall₂ (fun d a => a = alone f d) ds as) [] := by
    refine meets_collect (Terms.lasting_answering f) (Q := fun d _ a => a = d.alone f) ?_ ?_
    · exact fun d a _ _ _ h => h
    · exact fun d hd => (hds d hd).meets
  have hall := hcollect.result_run cache s fun s r => hw s r
  have hmap : List.Forall₂ (· = ·) (ds.map (alone f)) ((collect ds).run w cache s).result :=
    List.forall₂_map_left_iff.2 (hall.imp fun _ _ h => h.symm)
  rw [List.forall₂_eq_eq_eq] at hmap
  exact hmap.symm

end Dialogue

namespace Operation

variable {α β : Type} {f : Request → Option Response} {o : Operation α} {g : α → Operation β}

/-- A run of two operations, the first of which succeeds: the second one decides what comes of
both, and its exchanges are the last ones. -/
theorem run_bind {σ : Type} {w : World σ} {cache : CatalogCache} {s : σ} {a : α}
    (h : (o.attempt.run w cache s).result = .ok a) :
    ∃ cache' s', ((o >>= g).attempt.run w cache s).result =
        ((g a).attempt.run w cache' s').result ∧
      (o >>= g).attempt.exchanges w cache s =
        o.attempt.exchanges w cache s ++ (g a).attempt.exchanges w cache' s' := by
  rw [attempt_bind, Dialogue.result_run_bind, Dialogue.exchanges_bind, h]
  exact ⟨_, _, rfl, rfl⟩

theorem result_run_bind {σ : Type} {w : World σ} {cache : CatalogCache} {s : σ} {a : α}
    (h : (o.attempt.run w cache s).result = .ok a) :
    ∃ cache' s', ((o >>= g).attempt.run w cache s).result =
      ((g a).attempt.run w cache' s').result := by
  obtain ⟨cache', s', hresult, -⟩ := run_bind h
  exact ⟨cache', s', hresult⟩

theorem result_run_ofDialogue_bind {σ : Type} {w : World σ} {cache : CatalogCache} {s : σ}
    {d : Dialogue α} {a : α} (h : (d.run w cache s).result = a) :
    ∃ cache' s', ((ofDialogue d >>= g).attempt.run w cache s).result =
      ((g a).attempt.run w cache' s').result := by
  refine result_run_bind ?_
  -- the dialogue ends in some value, and that is the success of the operation
  rw [attempt_ofDialogue, Dialogue.result_run_bind, h]
  rfl

theorem run_ofDialogue_map {σ : Type} (w : World σ) (cache : CatalogCache) (s : σ)
    (d : Dialogue α) (h : α → β) :
    ((ofDialogue d >>= fun a => pure (h a)).attempt.run w cache s).result =
        .ok (h (d.run w cache s).result) ∧
      (ofDialogue d >>= fun a => pure (h a)).attempt.exchanges w cache s =
        d.exchanges w cache s := by
  have hattempt : (ofDialogue d >>= fun a => pure (h a)).attempt =
      d.bind fun a => .done (.ok (h a)) := by
    rw [attempt_bind, attempt_ofDialogue, Dialogue.bind_assoc]
    rfl
  rw [hattempt, Dialogue.result_run_bind, Dialogue.exchanges_bind]
  exact ⟨rfl, List.append_nil _⟩

/-- The operation does nothing but send requests. -/
def OnlySends (o : Operation α) : Prop := o.attempt.OnlySends

theorem onlySends_ofExcept (r : Except GatewayError α) : (ofExcept r).OnlySends := .done r

theorem onlySends_request (r : Request) : (ofDialogue (.request r)).OnlySends :=
  (Dialogue.onlySends_request r).bind fun _ => .done _

theorem OnlySends.bind (ho : o.OnlySends) (hg : ∀ a, (g a).OnlySends) : (o >>= g).OnlySends := by
  rw [OnlySends, attempt_bind]
  refine Dialogue.OnlySends.bind ho fun r => ?_
  cases r with
  | ok a => exact hg a
  | error e => exact .done _

/-- What an operation comes to where nothing else takes place. -/
def outcome (f : Request → Option Response) (o : Operation α) : Except GatewayError α :=
  o.attempt.alone f

@[simp] theorem outcome_ofExcept (r : Except GatewayError α) : (ofExcept r).outcome f = r := rfl

@[simp] theorem outcome_pure (a : α) : (pure a : Operation α).outcome f = .ok a := rfl

theorem OnlySends.outcome_bind_eq_ok (ho : o.OnlySends) {b : β} :
    (o >>= g).outcome f = .ok b ↔ ∃ a, o.outcome f = .ok a ∧ (g a).outcome f = .ok b := by
  have h : (o >>= g).outcome f = (next g (o.outcome f)).alone f := by
    rw [outcome, attempt_bind, Dialogue.OnlySends.alone_bind ho, outcome]
  rw [h]
  cases o.outcome f with
  | ok a => simp [next, outcome]
  | error e => simp [next]

theorem outcome_request_bind {r : Request} {g : Option Response → Operation β} :
    (ofDialogue (.request r) >>= g).outcome f = (g (f r)).outcome f := rfl

theorem outcome_orElse_eq_ok {error : GatewayError} {found : Option α} {a : α} :
    (orElse error found).outcome f = .ok a ↔ found = some a := by
  cases found <;> simp [orElse]

theorem outcome_orElse_bind_eq_ok {error : GatewayError} {found : Option α} {b : β} :
    (orElse error found >>= g).outcome f = .ok b ↔
      ∃ a, found = some a ∧ (g a).outcome f = .ok b := by
  rw [OnlySends.outcome_bind_eq_ok (o := orElse error found) (onlySends_ofExcept _)]
  simp only [outcome_orElse_eq_ok]

end Operation

end ClusterGateway

import ClusterGateway.Companion.Lifecycle
import Mathlib.Data.List.Basic

/-!
# Runs of the companion listener

Any number of calls start and stop one listener, and their steps come in any order.  A run of the
listener lasts from the claim of a start to the end of that call (`StartProgress.run?`); a stop
marks the run that it finds and cancels the current token in a later step, when that run may be
over and another one may have begun.

* `Lifecycle.startMove`, `Lifecycle.stopMove` : all that a step of a call can do.
* `Lifecycle.System.IsSound.change` : **all that an event can do to the runs of a listener**, and
  from it what an event preserves (`Lifecycle.System.IsSound.step`).
* `Lifecycle.System.IsMarked.run`, `Lifecycle.System.IsHeeded.run` : what a stop brings about is not
  undone by any course of events.
* `Lifecycle.runs_one_at_a_time` : **in every state that can be reached there is at most one run**,
  a run that has been marked never listens again, and a stop that has marked a run and cancelled a
  token has reached that run, unless it was over before.
-/

namespace ClusterGateway

namespace Lifecycle

namespace StartProgress

/-- The run of a call that has claimed the listener and has not given it back. -/
def run? : StartProgress → Option Token
  | claimed run | bound run _ | published run | serving run | closing run _ | cleared run _ =>
    some run
  | called | returned _ => none

/-- Whether the call has published the address of its run and not withdrawn it. -/
def isPublished : StartProgress → Bool
  | published _ | serving _ | closing _ _ => true
  | called | claimed _ | bound _ _ | cleared _ _ | returned _ => false

theorem isPublished_of_run?_eq_none {c : StartProgress} (h : c.run? = none) :
    c.isPublished = false := by
  cases c with
  | called | returned => rfl
  | claimed | bound | published | serving | closing | cleared => cases h

end StartProgress

/-- The runs between their claim and their end. -/
def System.active (s : System) : List Token := s.starts.filterMap StartProgress.run?

/-- How the phase can change while a run lasts. -/
inductive Phase.Advances : Phase → Phase → Prop
  /-- It stays the same. -/
  | stays (p : Phase) : Advances p p
  /-- The run begins to listen. -/
  | listens : Advances .starting .running
  /-- The run is marked. -/
  | isMarked {p : Phase} : p ≠ .stopped → Advances p .stopping

theorem Phase.Advances.eq_stopping {p : Phase} (h : Advances .stopping p) : p = .stopping := by
  cases h <;> rfl

theorem Phase.Advances.stopped_iff {p q : Phase} (h : Advances p q) :
    q = .stopped ↔ p = .stopped := by
  cases h with
  | stays => exact Iff.rfl
  | listens => decide
  | isMarked hp => exact iff_of_false (by decide) hp

/-! ### Steps of a call -/

/-- All that a step of a call to start can do to the listener and to the call. -/
inductive StartMove (l : Listener) : StartProgress → Listener → StartProgress → Prop
  /-- It claims the listener. -/
  | claims : l.phase = .stopped → StartMove l .called l.claim (.claimed l.claim.token)
  /-- It has no run and gets none. -/
  | idles {c c' : StartProgress} : c.run? = none → c'.run? = none → StartMove l c l c'
  /-- Its run goes on; the address is known only as long as the call has published it. -/
  | goesOn {c c' : StartProgress} {l' : Listener} {run : Token} : c.run? = some run →
    c'.run? = some run → l'.token = l.token → l'.cancelled = l.cancelled →
    l.phase.Advances l'.phase →
    (c'.isPublished = true ∨ l'.address = none ∨
      l'.address = l.address ∧ c.isPublished = false) → StartMove l c l' c'
  /-- Its run ends, after the address has been withdrawn. -/
  | ends {c c' : StartProgress} {run : Token} : c.run? = some run → c.isPublished = false →
    c'.run? = none → StartMove l c { l with phase := .stopped } c'

theorem startMove (chance : Chance) (l : Listener) (c : StartProgress) :
    StartMove l c (startStep chance l c).1 (startStep chance l c).2 := by
  -- a claim begins a run, and giving up the address is the last step before the run ends
  cases c with
  | called =>
    rw [startStep]
    split
    · rename_i hstopped
      exact .claims hstopped
    · exact .idles rfl rfl
  | claimed run =>
    rw [startStep]
    split
    · exact .goesOn rfl rfl rfl rfl (.stays _) (.inr (.inr ⟨rfl, rfl⟩))
    · exact .goesOn rfl rfl rfl rfl (.stays _) (.inl rfl)
  | bound run address => exact .goesOn rfl rfl rfl rfl (.stays _) (.inl rfl)
  | published run =>
    rw [startStep, Listener.markRunning]
    split
    · rename_i hstarting
      exact .goesOn rfl rfl rfl rfl (hstarting ▸ .listens) (.inl rfl)
    · exact .goesOn rfl rfl rfl rfl (.stays _) (.inl rfl)
  | serving run =>
    rw [startStep]
    split
    · exact .goesOn rfl rfl rfl rfl (.stays _) (.inl rfl)
    · split
      · exact .goesOn rfl rfl rfl rfl (.stays _) (.inl rfl)
      · exact .goesOn rfl rfl rfl rfl (.stays _) (.inl rfl)
  | closing run result => exact .goesOn rfl rfl rfl rfl (.stays _) (.inr (.inl rfl))
  | cleared run result => exact .ends rfl rfl rfl
  | returned result => exact .idles rfl rfl

/-- All that a step of a call to stop can do to the listener. -/
structure StopMove (l l' : Listener) : Prop where
  /-- It does not begin a run. -/
  token : l'.token = l.token
  /-- It does not touch the address. -/
  address : l'.address = l.address
  /-- It may cancel a token. -/
  cancelled : l.cancelled ⊆ l'.cancelled
  /-- It may mark a run. -/
  phase : l.phase.Advances l'.phase

theorem StopMove.refl (l : Listener) : StopMove l l := ⟨rfl, rfl, List.Subset.refl _, .stays _⟩

theorem Listener.phase_ne_of_isLive {l : Listener} (h : l.isLive = true) : l.phase ≠ .stopped := by
  intro hstopped
  simp [isLive, hstopped] at h

theorem stopMove (chance : Chance) (l : Listener) (c : StopProgress) :
    StopMove l (stopStep chance l c).1 := by
  cases c with
  | called =>
    rw [stopStep, Listener.markStopping]
    split
    · rename_i hlive
      exact ⟨rfl, rfl, List.Subset.refl _, .isMarked (Listener.phase_ne_of_isLive hlive)⟩
    · exact .refl l
  | marked run => exact ⟨rfl, rfl, List.subset_cons_self _ _, .stays _⟩
  | waiting run =>
    rw [stopStep]
    split
    · exact .refl l
    · split
      · exact .refl l
      · exact .refl l
  | returned result => exact .refl l

/-! ### Events -/

theorem exists_split {α : Type} {as : List α} {i : Nat} {a : α} (h : as[i]? = some a) :
    ∃ before after, as = before ++ a :: after ∧ ∀ b, as.set i b = before ++ b :: after := by
  obtain ⟨hi, rfl⟩ := List.getElem?_eq_some_iff.1 h
  refine ⟨as.take i, as.drop (i + 1), ?_, fun b => List.set_eq_take_append_cons_drop.trans ?_⟩
  · rw [List.getElem_cons_drop, List.take_append_drop]
  · rw [if_pos hi]

namespace System

variable {s : System} {k : Token}

theorem active_split (l : Listener) (before after : List StartProgress) (c : StartProgress)
    (stops : List StopProgress) : active ⟨l, before ++ c :: after, stops⟩ =
      before.filterMap StartProgress.run? ++
        (c.run?.toList ++ after.filterMap StartProgress.run?) := by
  rw [active, List.filterMap_append, List.filterMap_cons]
  cases c.run? <;> rfl

theorem exists_startMove (s : System) (i : Nat) (chance : Chance) :
    step s (.start i chance) = s ∨ ∃ l l' before after c c' stops,
      s = ⟨l, before ++ c :: after, stops⟩ ∧
      step s (.start i chance) = ⟨l', before ++ c' :: after, stops⟩ ∧ StartMove l c l' c' := by
  obtain ⟨l, starts, stops⟩ := s
  cases hc : starts[i]? with
  | none => exact .inl (by simp [step, hc])
  | some c =>
    obtain ⟨before, after, rfl, hset⟩ := exists_split hc
    refine .inr ⟨l, _, before, after, c, _, stops, rfl, ?_, startMove chance l c⟩
    simp [step, hc, hset]

theorem exists_stopMove (s : System) (i : Nat) (chance : Chance) :
    ∃ l stops, step s (.stop i chance) = ⟨l, s.starts, stops⟩ ∧ StopMove s.listener l := by
  rw [step]
  split
  · rename_i c hc
    exact ⟨_, _, rfl, stopMove chance s.listener c⟩
  · exact ⟨s.listener, s.stops, rfl, .refl _⟩

/-- What holds of a listener and its calls. -/
structure IsSound (s : System) : Prop where
  /-- The only run, if the listener is not stopped, is that of the current token. -/
  active : s.active = if s.listener.phase = .stopped then [] else [s.listener.token]
  /-- The address is known only where a call has published it. -/
  address : s.listener.address = none ∨ s.starts.any StartProgress.isPublished = true

/-- All that an event can do to the runs of a listener. -/
inductive Change (s t : System) : Prop
  /-- A run begins with a fresh token. -/
  | begins : s.listener.phase = .stopped → t.listener.phase = .starting →
    t.listener.token = s.listener.token + 1 → t.active = [t.listener.token] → Change s t
  /-- The runs stay the same. -/
  | stays : t.listener.token = s.listener.token → t.active = s.active →
    s.listener.phase.Advances t.listener.phase → Change s t
  /-- The run ends. -/
  | ends : s.listener.phase ≠ .stopped → t.listener.phase = .stopped →
    t.listener.token = s.listener.token → t.active = [] → Change s t

theorem IsSound.active_eq_nil_iff (hs : s.IsSound) :
    s.active = [] ↔ s.listener.phase = .stopped := by
  rw [hs.active]
  split <;> simp_all

theorem IsSound.eq_token_of_mem (hs : s.IsSound) (h : k ∈ s.active) :
    k = s.listener.token := by
  rw [hs.active] at h
  split at h
  · exact absurd h List.not_mem_nil
  · exact List.mem_singleton.1 h

theorem IsSound.change_start (hs : s.IsSound) (i : Nat) (chance : Chance) :
    Change s (step s (.start i chance)) := by
  obtain hsame | ⟨l, l', before, after, c, c', stops, rfl, hstep, hmove⟩ :=
    s.exists_startMove i chance
  · rw [hsame]
    exact .stays rfl rfl (.stays _)
  rw [hstep]
  have hnone := hs.active_eq_nil_iff
  have hactive := hs.active
  rw [active_split] at hnone hactive
  cases hmove with
  | claims hstopped =>
    -- there is no run beside the one that begins
    obtain ⟨hbefore, hrest⟩ := List.append_eq_nil_iff.1 (hnone.2 hstopped)
    refine .begins hstopped rfl rfl ?_
    rw [active_split, hbefore, (List.append_eq_nil_iff.1 hrest).2]
    rfl
  | idles hrun hrun' =>
    refine .stays rfl ?_ (.stays _)
    rw [active_split, active_split, hrun, hrun']
  | goesOn hrun hrun' htoken _ hphase _ =>
    refine .stays htoken ?_ hphase
    rw [active_split, active_split, hrun, hrun']
  | ends hrun _ hrun' =>
    rw [hrun] at hnone hactive
    have hlive : l.phase ≠ .stopped := fun hstopped => by simpa using hnone.2 hstopped
    refine .ends hlive rfl rfl ?_
    -- there is no run beside the one that ends
    rw [if_neg hlive, Option.toList_some, List.singleton_append] at hactive
    rw [active_split, hrun']
    cases hbefore : before.filterMap StartProgress.run? with
    | nil =>
      rw [hbefore, List.nil_append] at hactive
      exact (List.cons.inj hactive).2
    | cons run runs =>
      rw [hbefore, List.cons_append] at hactive
      exact absurd (List.cons.inj hactive).2 (by simp)

/-- **All that an event can do to the runs.** -/
theorem IsSound.change (hs : s.IsSound) (e : Event) : Change s (step s e) := by
  cases e with
  | callStart =>
    refine .stays rfl ?_ (.stays _)
    rw [step, System.active, List.filterMap_append]
    exact List.append_nil _
  | callStop => exact .stays rfl rfl (.stays _)
  | start i chance => exact hs.change_start i chance
  | stop i chance =>
    obtain ⟨l, stops, hstep, hmove⟩ := s.exists_stopMove i chance
    rw [hstep]
    exact .stays hmove.token rfl hmove.phase

/-- An address is withdrawn before the call that has published it ends its run. -/
theorem IsSound.address_step (hs : s.IsSound) (e : Event) :
    (step s e).listener.address = none ∨
      (step s e).starts.any StartProgress.isPublished = true := by
  cases e with
  | callStart =>
    rw [step, List.any_append, Bool.or_eq_true]
    exact hs.address.imp_right .inl
  | callStop => exact hs.address
  | stop i chance =>
    obtain ⟨l, stops, hstep, hmove⟩ := s.exists_stopMove i chance
    rw [hstep, hmove.address]
    exact hs.address
  | start i chance =>
    obtain hsame | ⟨l, l', before, after, c, c', stops, rfl, hstep, hmove⟩ :=
      s.exists_startMove i chance
    · rw [hsame]
      exact hs.address
    rw [hstep]
    -- the call is not the one that has published the address, unless it publishes one
    have hother (h : l'.address = l.address) (hc : c.isPublished = false) :
        l'.address = none ∨ (before ++ c' :: after).any StartProgress.isPublished = true := by
      have haddress := hs.address
      simp only [List.any_append, List.any_cons, hc, Bool.false_or, Bool.or_eq_true]
        at haddress ⊢
      rw [h]
      exact haddress.imp_right (Or.imp_right .inr)
    cases hmove with
    | claims => exact hother rfl rfl
    | idles hrun => exact hother rfl (StartProgress.isPublished_of_run?_eq_none hrun)
    | goesOn _ _ _ _ _ haddress =>
      obtain hpublished | hnone | ⟨hsame, hc⟩ := haddress
      · refine .inr (List.any_eq_true.2 ⟨c', ?_, hpublished⟩)
        exact List.mem_append_right _ List.mem_cons_self
      · exact .inl hnone
      · exact hother hsame hc
    | ends _ hc => exact hother rfl hc

/-- **What an event preserves.** -/
theorem IsSound.step (hs : s.IsSound) (e : Event) : (step s e).IsSound where
  active := by
    cases hs.change e with
    | begins _ hphase _ hactive => rw [hactive, hphase, if_neg (by decide)]
    | ends _ hphase _ hactive => rw [hactive, hphase, if_pos rfl]
    | stays htoken hactive hphase =>
      rw [hactive, hs.active, htoken]
      exact if_congr hphase.stopped_iff.symm rfl rfl
  address := hs.address_step e

theorem IsSound.run (hs : s.IsSound) (events : List Event) : (run s events).IsSound := by
  induction events generalizing s with
  | nil => exact hs
  | cons e events ih => exact ih (hs.step e)

/-- **What holds in every state that can be reached.** -/
theorem isSound_of_reachable (h : Reachable s) : s.IsSound := by
  obtain ⟨events, rfl⟩ := h
  exact IsSound.run ⟨rfl, .inl rfl⟩ events

theorem IsSound.address_of_stopped (hs : s.IsSound) (h : s.listener.phase = .stopped) :
    s.listener.address = none := by
  refine hs.address.resolve_right fun hany => ?_
  obtain ⟨c, hc, hpublished⟩ := List.any_eq_true.1 hany
  -- a call that has published its address has a run, but there is none
  have hnone := List.filterMap_eq_nil_iff.1 (hs.active_eq_nil_iff.2 h) c hc
  rw [StartProgress.isPublished_of_run?_eq_none hnone] at hpublished
  cases hpublished

/-! ### What a stop brings about -/

/-- A token that has been given to a run is given to no other, and while the run lasts the phase
only advances. -/
theorem IsSound.active_step (hs : s.IsSound) (e : Event) (hk : k ≤ s.listener.token) :
    k ≤ (Lifecycle.step s e).listener.token ∧
      (k ∈ (Lifecycle.step s e).active →
        k ∈ s.active ∧ s.listener.phase.Advances (Lifecycle.step s e).listener.phase) := by
  cases hs.change e with
  | begins _ _ htoken hactive =>
    refine ⟨htoken ▸ Nat.le_succ_of_le hk, fun hmem => ?_⟩
    rw [hactive, List.mem_singleton, htoken] at hmem
    exact absurd (hmem ▸ hk) (Nat.not_succ_le_self _)
  | stays htoken hactive hphase => exact ⟨htoken ▸ hk, fun hmem => ⟨hactive ▸ hmem, hphase⟩⟩
  | ends _ _ htoken hactive =>
    refine ⟨htoken ▸ hk, fun hmem => ?_⟩
    rw [hactive] at hmem
    exact absurd hmem List.not_mem_nil

theorem cancelled_step (s : System) (e : Event) :
    s.listener.cancelled ⊆ (step s e).listener.cancelled := by
  cases e with
  | callStart | callStop => exact List.Subset.refl _
  | start i chance =>
    obtain hsame | ⟨l, l', before, after, c, c', stops, rfl, hstep, hmove⟩ :=
      s.exists_startMove i chance
    · rw [hsame]
      exact List.Subset.refl _
    rw [hstep]
    cases hmove with
    | goesOn _ _ _ hcancelled => exact hcancelled ▸ List.Subset.refl _
    | claims | idles | ends => exact List.Subset.refl _
  | stop i chance =>
    obtain ⟨l, stops, hstep, hmove⟩ := s.exists_stopMove i chance
    rw [hstep]
    exact hmove.cancelled

/-- A run has been marked: it stays marked until it is over. -/
structure IsMarked (k : Token) (s : System) : Prop where
  /-- The token has been given to a run. -/
  token : k ≤ s.listener.token
  /-- The run is marked or over. -/
  marked : k ∈ s.active → s.listener.phase = .stopping

theorem IsMarked.step (h : s.IsMarked k) (hs : s.IsSound) (e : Event) :
    (Lifecycle.step s e).IsMarked k := by
  obtain ⟨htoken, hactive⟩ := hs.active_step e h.token
  refine ⟨htoken, fun hmem => ?_⟩
  obtain ⟨hmem, hphase⟩ := hactive hmem
  rw [h.marked hmem] at hphase
  exact hphase.eq_stopping

/-- **A run that has been marked never listens again.** -/
theorem IsMarked.run (h : s.IsMarked k) (hs : s.IsSound) (events : List Event) :
    (Lifecycle.run s events).IsMarked k := by
  induction events generalizing s with
  | nil => exact h
  | cons e events ih => exact ih (h.step hs e) (hs.step e)

/-- A stop has marked a run: it has not yet cancelled a token, or it has reached the run, or the
run is over. -/
structure IsHeeded (i : Nat) (k : Token) (s : System) : Prop where
  /-- The token has been given to a run. -/
  token : k ≤ s.listener.token
  /-- How far it has got. -/
  heeded : s.stops[i]? = some (.marked (some k)) ∨ k ∈ s.listener.cancelled ∨ k ∉ s.active

theorem getElem?_stops_step (s : System) {e : Event} {i : Nat} {c : StopProgress}
    (hc : s.stops[i]? = some c) (he : ∀ chance, e ≠ .stop i chance) :
    (step s e).stops[i]? = some c := by
  cases e with
  | callStart => exact hc
  | callStop => exact List.getElem?_append_left (List.getElem?_eq_some_iff.1 hc).1 ▸ hc
  | start j chance =>
    obtain hsame | ⟨l, l', before, after, c, c', stops, rfl, hstep, -⟩ :=
      s.exists_startMove j chance
    · rwa [hsame]
    · rwa [hstep]
  | stop j chance =>
    have hne : j ≠ i := fun h => he chance (h ▸ rfl)
    rw [step]
    split
    · exact (List.getElem?_set_ne hne).trans hc
    · exact hc

theorem IsHeeded.step {i : Nat} (h : s.IsHeeded i k) (hs : s.IsSound) (e : Event) :
    (Lifecycle.step s e).IsHeeded i k := by
  obtain ⟨htoken, hactive⟩ := hs.active_step e h.token
  refine ⟨htoken, ?_⟩
  obtain hmarked | hcancelled | hover := h.heeded
  · by_cases he : ∃ chance, e = .stop i chance
    · -- the stop cancels the current token, and this is the token of the run if that lasts
      obtain ⟨chance, rfl⟩ := he
      refine .inr (or_iff_not_imp_right.2 fun hlasts => ?_)
      obtain ⟨hmem, -⟩ := hactive (not_not.1 hlasts)
      rw [hs.eq_token_of_mem hmem, Lifecycle.step, hmarked]
      exact List.mem_cons_self
    · exact .inl (s.getElem?_stops_step hmarked (not_exists.1 he))
  · exact .inr (.inl (s.cancelled_step e hcancelled))
  · exact .inr (.inr fun hmem => hover (hactive hmem).1)

/-- **A stop that has marked a run reaches it.** -/
theorem IsHeeded.run {i : Nat} (h : s.IsHeeded i k) (hs : s.IsSound) (events : List Event) :
    (Lifecycle.run s events).IsHeeded i k := by
  induction events generalizing s with
  | nil => exact h
  | cons e events ih => exact ih (h.step hs e) (hs.step e)

end System

/-! ### Every state -/

/-- What is known of the runs of a listener in a state. -/
structure RunsOneAtATime (s : System) : Prop where
  /-- At most one run is between its claim and its end. -/
  single : s.active.length ≤ 1
  /-- The listener is stopped just if there is no run. -/
  stopped_iff : s.listener.phase = .stopped ↔ s.active = []
  /-- A stopped listener has no address. -/
  hidden : s.listener.phase = .stopped → s.listener.address = none
  /-- A start that finds the listener not stopped says so and changes nothing. -/
  refused {i : Nat} (chance : Chance) : s.starts[i]? = some .called →
    s.listener.phase ≠ .stopped →
    step s (.start i chance) = { s with starts := s.starts.set i (.returned .alreadyRunning) }
  /-- What comes next after a run has been marked is that the listener is stopped. -/
  next (e : Event) : s.listener.phase = .stopping →
    (step s e).listener.phase = .stopping ∨ (step s e).listener.phase = .stopped
  /-- A run that has been marked stays marked until it is over; it never listens again. -/
  marked {k : Token} (events : List Event) : s.listener.phase = .stopping → k ∈ s.active →
    k ∈ (run s events).active → (run s events).listener.phase = .stopping
  /-- A stop that finds a run marks it.  Whatever happens then, once this stop has cancelled a
  token, the token of that run is cancelled or the run is over. -/
  heeded {i : Nat} (chance : Chance) : s.stops[i]? = some .called → s.listener.isLive = true →
    ∃ k, s.active = [k] ∧ (step s (.stop i chance)).listener.phase = .stopping ∧
      (step s (.stop i chance)).stops[i]? = some (.marked (some k)) ∧
      ∀ events, let t := run (step s (.stop i chance)) events
        t.stops[i]? ≠ some (.marked (some k)) → k ∈ t.listener.cancelled ∨ k ∉ t.active

/-- **There is one run of a listener at a time**, however many calls start and stop it, and no stop
is lost. -/
theorem runs_one_at_a_time {s : System} (h : Reachable s) : RunsOneAtATime s := by
  have hs := System.isSound_of_reachable h
  constructor
  case single =>
    rw [hs.active]
    split
    · exact Nat.zero_le 1
    · exact Nat.le_refl 1
  case stopped_iff => exact hs.active_eq_nil_iff.symm
  case hidden => exact hs.address_of_stopped
  case refused =>
    intro i chance hcalled hphase
    simp [step, hcalled, startStep, hphase]
  case next =>
    intro e hphase
    cases hs.change e with
    | begins hstopped =>
      rw [hphase] at hstopped
      cases hstopped
    | stays _ _ hadvances => exact .inl (hphase ▸ hadvances).eq_stopping
    | ends _ hstopped => exact .inr hstopped
  case marked =>
    intro k events hphase hk
    have hmarked : s.IsMarked k := ⟨Nat.le_of_eq (hs.eq_token_of_mem hk), fun _ => hphase⟩
    exact (hmarked.run hs events).marked
  case heeded =>
    intro i chance hcalled hlive
    have hi := (List.getElem?_eq_some_iff.1 hcalled).1
    -- the first step marks the live run and takes its token along, which is never given again
    have hstep : step s (.stop i chance) =
        { s with
          listener := { s.listener with phase := .stopping },
          stops := s.stops.set i (.marked (some s.listener.token)) } := by
      simp [step, hcalled, stopStep, Listener.markStopping, hlive]
    have htoken : (step s (.stop i chance)).listener.token = s.listener.token := by rw [hstep]
    have hself : (step s (.stop i chance)).stops[i]? = some (.marked (some s.listener.token)) := by
      rw [hstep]
      exact List.getElem?_set_self hi
    have hheeded : (step s (.stop i chance)).IsHeeded i s.listener.token :=
      ⟨Nat.le_of_eq htoken.symm, .inl hself⟩
    refine ⟨s.listener.token, ?_, ?_, hself, fun events hcancels => ?_⟩
    · rw [hs.active, if_neg (Listener.phase_ne_of_isLive hlive)]
    · rw [hstep]
    · exact (hheeded.run (hs.step _) events).heeded.resolve_left hcancels

/-- A stop comes between the claim of a start and its listening, while another start is refused:
the run is marked, then its token is cancelled, and it does not listen any more. -/
theorem runs_one_at_a_time_stoppedEarly :
    let chance : Chance := ⟨some none, false, false, false⟩
    let s := run .fresh [.callStart, .callStart, .callStop, .start 0 chance, .stop 0 chance,
      .start 1 chance, .start 0 chance, .start 0 chance, .start 0 chance, .stop 0 chance]
    Reachable s ∧ RunsOneAtATime s ∧
      s = ⟨⟨.stopping, 1, [1], none⟩, [.serving 1, .returned .alreadyRunning],
        [.waiting (some 1)]⟩ := by
  intro chance s
  have hs : Reachable s := ⟨_, rfl⟩
  exact ⟨hs, runs_one_at_a_time hs, by decide⟩

end Lifecycle

end ClusterGateway

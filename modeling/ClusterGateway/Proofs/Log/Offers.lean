import ClusterGateway.Log.Live
import Mathlib.Tactic.Common

/-!
# What becomes of the log of a pod

The pods of a live stream share one sink and one cancellation, and their steps come in any order.
`LiveStream.offers` are the lines that reach the sink in a course of events, each with the place of
its pod and the sink's answer.

* `LiveStream.step_moves` : all that one event can do to the log at one place (`LiveStream.Moves`).
* `LiveStream.run_reaches` : **all that a course of events can do to it** (`LiveStream.Reaches`).
* `LiveStream.exists_isOver` : a log that goes on often enough comes to its end.
* `LiveStream.offers_of_cancelled` : after a cancellation only a line that is on its way is offered.
-/

namespace ClusterGateway

/-- The lines of raw lines of a pod that pass a filter. -/
def LineFilter.passing (f : LineFilter) (pod : String) (raws : List String) : List LogLine :=
  (raws.filterMap fun raw => LogLine.parse? raw pod).filter f.accepts

namespace PodProgress

/-- The lines that are still to be offered. -/
def left (f : LineFilter) (pod : String) : PodProgress → List LogLine
  | reading rest => f.passing pod rest
  | offering line rest | handing line rest => line :: f.passing pod rest
  | ended => []

/-- The line that is on its way to the sink. -/
def inHand : PodProgress → List LogLine
  | handing line _ => [line]
  | reading _ | offering _ _ | ended => []

/-- How far a log is after its line has been withdrawn. -/
def withdrawn : PodProgress → PodProgress
  | handing _ _ => ended
  | p => p

/-- The number of steps to the end. -/
def stepsLeft : PodProgress → Nat
  | reading rest => 3 * rest.length
  | offering _ rest => 3 * rest.length + 2
  | handing _ rest => 3 * rest.length + 1
  | ended => 0

/-- A log has come to its end. -/
def IsOver (p : PodProgress) : Prop := p.stepsLeft = 0

theorem left_of_isOver {f : LineFilter} {pod : String} {p : PodProgress} (h : p.IsOver) :
    p.left f pod = [] := by
  cases p with
  | reading rest =>
    have hlength : rest.length = 0 := by
      simp only [IsOver, stepsLeft] at h
      omega
    rw [List.length_eq_zero_iff.1 hlength]
    rfl
  | offering line rest => simp [IsOver, stepsLeft] at h
  | handing line rest => simp [IsOver, stepsLeft] at h
  | ended => rfl

end PodProgress

namespace LineFilter

variable {f : LineFilter} {pod raw : String} {rest : List String}

theorem passing_cons : f.passing pod (raw :: rest) = f.passing pod [raw] ++ f.passing pod rest := by
  rw [← List.singleton_append, passing, List.filterMap_append, List.filter_append]
  rfl

theorem pod_eq_of_mem_passing {line : LogLine} (h : line ∈ f.passing pod rest) :
    line.pod = pod := by
  obtain ⟨raw, -, hparse⟩ := List.mem_filterMap.1 (List.mem_filter.1 h).1
  exact LogLine.pod_of_parse? hparse

theorem readLine_cases (f : LineFilter) (pod raw : String) (rest : List String) :
    (f.passing pod [raw] = [] ∧ LiveStream.readLine f pod raw rest = .reading rest) ∨
      ∃ line, f.passing pod [raw] = [line] ∧
        LiveStream.readLine f pod raw rest = .offering line rest := by
  rw [LiveStream.readLine]
  cases hp : LogLine.parse? raw pod with
  | none => simp [passing, hp]
  | some line => by_cases ha : f.accepts line <;> simp [passing, hp, ha]

end LineFilter

namespace LiveStream

open PodProgress

variable {σ τ : Type}

/-! ### Offers -/

/-- A line that reaches the sink. -/
structure Offer where
  /-- The place of its pod. -/
  place : Nat
  /-- The line. -/
  line : LogLine
  /-- Whether the sink accepts it. -/
  taken : Bool

/-- What reaches the sink in an event. -/
def offer? (sink : LineSink σ) (s : LiveState σ) : LiveEvent → Option Offer
  | .advance i =>
    match s.pods[i]? with
    | some (_, .handing line _) => some ⟨i, line, (sink.offer s.sink line).1⟩
    | _ => none
  | .withdraw _ | .cancel => none

/-- What reaches the sink in a course of events, in its order. -/
def offers (f : LineFilter) (sink : LineSink σ) : LiveState σ → List LiveEvent → List Offer
  | _, [] => []
  | s, e :: es => (offer? sink s e).toList ++ offers f sink (step f sink s e) es

/-- What comes from the pod at a place. -/
def offersOf (i : Nat) (os : List Offer) : List Offer := os.filter fun o => o.place = i

/-- The lines that the sink accepts. -/
def takenLines (os : List Offer) : List LogLine := (os.filter Offer.taken).map Offer.line

@[simp] theorem offersOf_nil (i : Nat) : offersOf i [] = [] := rfl

@[simp] theorem offersOf_append (i : Nat) (os os' : List Offer) :
    offersOf i (os ++ os') = offersOf i os ++ offersOf i os' := List.filter_append ..

@[simp] theorem takenLines_append (os os' : List Offer) :
    takenLines (os ++ os') = takenLines os ++ takenLines os' := by
  simp [takenLines]

theorem takenLines_of_forall {os : List Offer} (h : ∀ o ∈ os, o.taken = true) :
    takenLines os = os.map Offer.line := by
  rw [takenLines, List.filter_eq_self.2 h]

variable {f : LineFilter} {sink : LineSink σ} {s : LiveState σ} {i : Nat} {pod : String}
variable {p p' : PodProgress} {events : List LiveEvent}

theorem run_cons (e : LiveEvent) : run f sink s (e :: events) =
    run f sink (step f sink s e) events := rfl

theorem offers_append (f : LineFilter) (sink : LineSink σ) (s : LiveState σ)
    (before after : List LiveEvent) :
    offers f sink s (before ++ after) =
      offers f sink s before ++ offers f sink (run f sink s before) after := by
  induction before generalizing s with
  | nil => rfl
  | cons e before ih => simp only [List.cons_append, offers, ih, run_cons, List.append_assoc]

theorem withdraw_cases (s : LiveState σ) (i : Nat) :
    withdraw s i = s ∨ ∃ pod, withdraw s i = putProgress s i pod .ended := by
  rw [withdraw]
  split
  · rename_i pod _ _ _
    split
    · exact .inr ⟨pod, rfl⟩
    · exact .inl rfl
  · exact .inl rfl

@[simp] theorem withdraw_accepted : (withdraw s i).accepted = s.accepted := by
  obtain h | ⟨pod, h⟩ := withdraw_cases s i <;> simp [h, putProgress]

@[simp] theorem withdraw_sink : (withdraw s i).sink = s.sink := by
  obtain h | ⟨pod, h⟩ := withdraw_cases s i <;> simp [h, putProgress]

@[simp] theorem withdraw_cancelled : (withdraw s i).cancelled = s.cancelled := by
  obtain h | ⟨pod, h⟩ := withdraw_cases s i <;> simp [h, putProgress]

@[simp] theorem length_pods_withdraw : (withdraw s i).pods.length = s.pods.length := by
  obtain h | ⟨pod, h⟩ := withdraw_cases s i <;> simp [h, putProgress]

theorem accepted_step (e : LiveEvent) : (step f sink s e).accepted =
    s.accepted ++ takenLines (offer? sink s e).toList := by
  cases e with
  | cancel => simp [step, offer?, takenLines]
  | withdraw i => simp [step, offer?, takenLines]
  | advance i =>
    rw [step, advance, offer?]
    split
    · rename_i h
      simp [h, takenLines]
    · rename_i h
      simp [h, takenLines]
    · rename_i h
      simp [h, takenLines]
    · rename_i h
      simp [h, takenLines, putProgress]
    · rename_i h
      simp [h, takenLines, putProgress]
    · -- only here does a line reach the sink
      rename_i pod line rest h
      rw [h, offerLine]
      cases hanswer : (sink.offer s.sink line).1 <;> simp [hanswer, takenLines]

theorem accepted_run : (run f sink s events).accepted =
    s.accepted ++ takenLines (offers f sink s events) := by
  induction events generalizing s with
  | nil => simp [run, offers, takenLines]
  | cons e events ih =>
    rw [run_cons, ih, accepted_step, offers, takenLines_append, List.append_assoc]

theorem cancelled_step (h : s.cancelled = true) (e : LiveEvent) :
    (step f sink s e).cancelled = true := by
  cases e with
  | cancel => rfl
  | withdraw i => rw [step, withdraw_cancelled, h]
  | advance i =>
    rw [step, advance]
    split <;> simp [putProgress, offerLine, h]

theorem cancelled_run (h : s.cancelled = true) : (run f sink s events).cancelled = true := by
  induction events generalizing s with
  | nil => exact h
  | cons e events ih => exact ih (cancelled_step h e)

/-! ### One step -/

/-- What an event can do to the log at a place: the progress before, what is offered, and the
progress afterwards. -/
inductive Moves (f : LineFilter) (pod : String) (cancelled : Bool) (i : Nat) :
    PodProgress → List Offer → PodProgress → Prop
  /-- The event does not concern the log, or nothing more happens to it. -/
  | stays (p : PodProgress) : Moves f pod cancelled i p [] p
  /-- A raw line is passed over. -/
  | skips {raw : String} {rest : List String} : cancelled = false → f.passing pod [raw] = [] →
    Moves f pod cancelled i (.reading (raw :: rest)) [] (.reading rest)
  /-- A line is found that passes. -/
  | finds {raw : String} {rest : List String} {line : LogLine} : cancelled = false →
    f.passing pod [raw] = [line] →
    Moves f pod cancelled i (.reading (raw :: rest)) [] (.offering line rest)
  /-- A line is sent on its way. -/
  | sends {line : LogLine} {rest : List String} : cancelled = false →
    Moves f pod cancelled i (.offering line rest) [] (.handing line rest)
  /-- The cancellation is noticed. -/
  | notices (p : PodProgress) : cancelled = true → Moves f pod cancelled i p [] .ended
  /-- The sink accepts a line. -/
  | gives (line : LogLine) (rest : List String) :
    Moves f pod cancelled i (.handing line rest) [⟨i, line, true⟩] (.reading rest)
  /-- The sink refuses a line. -/
  | fails (line : LogLine) (rest : List String) :
    Moves f pod cancelled i (.handing line rest) [⟨i, line, false⟩] .ended

theorem getElem?_set_self' (h : s.pods[i]? = some (pod, p)) :
    (s.pods.set i (pod, p'))[i]? = some (pod, p') :=
  List.getElem?_set_self (List.getElem?_eq_some_iff.1 h).1

/-- **One step of the log at a place.** -/
theorem advance_moves (h : s.pods[i]? = some (pod, p)) :
    ∃ p', (advance f sink s i).pods[i]? = some (pod, p') ∧ p'.stepsLeft ≤ p.stepsLeft - 1 ∧
      Moves f pod s.cancelled i p (offer? sink s (.advance i)).toList p' := by
  rw [advance, offer?, h]
  cases p with
  | ended => exact ⟨_, h, Nat.le_refl _, .stays _⟩
  | reading rest =>
    cases rest with
    | nil => exact ⟨_, h, Nat.le_refl _, .stays _⟩
    | cons raw rest =>
      refine ⟨_, getElem?_set_self' h, ?_⟩
      cases hc : s.cancelled with
      | true => exact ⟨by simp [stepsLeft], .notices _ rfl⟩
      | false =>
        -- three steps are counted for a raw line: reading it, sending it and the sink's answer
        obtain ⟨hp, hr⟩ | ⟨line, hp, hr⟩ := LineFilter.readLine_cases f pod raw rest
        · rw [if_neg Bool.false_ne_true, hr]
          refine ⟨?_, .skips rfl hp⟩
          simp only [stepsLeft, List.length_cons]
          omega
        · rw [if_neg Bool.false_ne_true, hr]
          refine ⟨?_, .finds rfl hp⟩
          simp only [stepsLeft, List.length_cons]
          omega
  | offering line rest =>
    refine ⟨_, getElem?_set_self' h, ?_⟩
    cases hc : s.cancelled with
    | true => exact ⟨by simp [stepsLeft], .notices _ rfl⟩
    | false => exact ⟨Nat.le_refl _, .sends rfl⟩
  | handing line rest =>
    refine ⟨_, getElem?_set_self' h, ?_⟩
    dsimp only
    cases (sink.offer s.sink line).1 with
    | true => exact ⟨Nat.le_refl _, .gives line rest⟩
    | false => exact ⟨Nat.zero_le _, .fails line rest⟩

theorem getElem?_advance_ne {k : Nat} (hk : k ≠ i) :
    (advance f sink s k).pods[i]? = s.pods[i]? := by
  rw [advance]
  split
  · rfl
  · rfl
  · rfl
  · exact List.getElem?_set_ne hk
  · exact List.getElem?_set_ne hk
  · exact List.getElem?_set_ne hk

theorem progress_of_offer? {e : LiveEvent} {o : Offer} (h : offer? sink s e = some o) :
    ∃ name rest, s.pods[o.place]? = some (name, .handing o.line rest) := by
  cases e with
  | cancel => cases h
  | withdraw => cases h
  | advance k =>
    rw [offer?] at h
    split at h
    · rename_i name line rest hk
      cases h
      exact ⟨name, rest, hk⟩
    · cases h

theorem getElem?_withdraw_ne {k : Nat} (hk : k ≠ i) : (withdraw s k).pods[i]? = s.pods[i]? := by
  obtain h | ⟨pod, h⟩ := withdraw_cases s k
  · rw [h]
  · rw [h]
    exact List.getElem?_set_ne hk

/-- **A withdrawal** ends a log whose line is on its way, if the stream is cancelled. -/
theorem getElem?_withdraw_self (h : s.pods[i]? = some (pod, p)) :
    (withdraw s i).pods[i]? = some (pod, if s.cancelled then p.withdrawn else p) := by
  rw [withdraw, h]
  cases p with
  | handing line rest =>
    cases s.cancelled with
    | true => exact getElem?_set_self' h
    | false => exact h
  | reading rest => simpa [withdrawn] using h
  | offering line rest => simpa [withdrawn] using h
  | ended => simpa [withdrawn] using h

theorem withdraw_moves (h : s.pods[i]? = some (pod, p)) (k : Nat) :
    ∃ p', (withdraw s k).pods[i]? = some (pod, p') ∧ p'.stepsLeft ≤ p.stepsLeft ∧
      Moves f pod s.cancelled i p [] p' := by
  by_cases hk : k = i
  · subst hk
    refine ⟨_, getElem?_withdraw_self h, ?_⟩
    cases hc : s.cancelled with
    | false => exact ⟨Nat.le_refl _, .stays p⟩
    | true =>
      cases p with
      | handing line rest => exact ⟨Nat.zero_le _, .notices _ rfl⟩
      | reading rest => exact ⟨Nat.le_refl _, .stays _⟩
      | offering line rest => exact ⟨Nat.le_refl _, .stays _⟩
      | ended => exact ⟨Nat.le_refl _, .stays _⟩
  · exact ⟨p, (getElem?_withdraw_ne hk).trans h, Nat.le_refl _, .stays p⟩

theorem offersOf_offer?_ne {k : Nat} (hk : k ≠ i) :
    offersOf i (offer? sink s (.advance k)).toList = [] := by
  rw [offer?]
  split <;> simp [offersOf, hk]

theorem offersOf_offer?_self :
    offersOf i (offer? sink s (.advance i)).toList = (offer? sink s (.advance i)).toList := by
  rw [offer?]
  split <;> simp [offersOf]

/-- **All that an event can do to the log at a place.** -/
theorem step_moves (f : LineFilter) (sink : LineSink σ) (h : s.pods[i]? = some (pod, p))
    (e : LiveEvent) :
    ∃ p', (step f sink s e).pods[i]? = some (pod, p') ∧
      p'.stepsLeft ≤ p.stepsLeft - [e].count (.advance i) ∧
      Moves f pod s.cancelled i p (offersOf i (offer? sink s e).toList) p' := by
  cases e with
  | cancel => exact ⟨p, h, by simp, .stays p⟩
  | withdraw k => simpa [offer?, step] using withdraw_moves h k
  | advance k =>
    by_cases hk : k = i
    · subst hk
      rw [offersOf_offer?_self]
      simpa [step] using advance_moves h
    · rw [offersOf_offer?_ne hk]
      refine ⟨p, (getElem?_advance_ne hk).trans h, ?_, .stays p⟩
      simp [hk]

/-! ### Courses of events -/

theorem stepsLeft_run (f : LineFilter) (sink : LineSink σ) (events : List LiveEvent)
    (h : s.pods[i]? = some (pod, p)) :
    ∃ p', (run f sink s events).pods[i]? = some (pod, p') ∧
      p'.stepsLeft ≤ p.stepsLeft - events.count (.advance i) := by
  induction events generalizing s p with
  | nil => exact ⟨p, h, by simp⟩
  | cons e events ih =>
    obtain ⟨p₁, h₁, hsteps, -⟩ := step_moves f sink h e
    obtain ⟨p₂, h₂, hrest⟩ := ih h₁
    refine ⟨p₂, h₂, ?_⟩
    have hcount : (e :: events).count (.advance i) =
        [e].count (.advance i) + events.count (.advance i) := by
      rw [← List.count_append, List.singleton_append]
    omega

/-- A log that goes on often enough comes to its end. -/
theorem exists_isOver (f : LineFilter) (sink : LineSink σ) (h : s.pods[i]? = some (pod, p))
    (hcount : p.stepsLeft ≤ events.count (.advance i)) :
    ∃ p', p'.IsOver ∧ (run f sink s events).pods[i]? = some (pod, p') := by
  obtain ⟨p', hp', hsteps⟩ := stepsLeft_run f sink events h
  refine ⟨p', ?_, hp'⟩
  rw [IsOver]
  omega

theorem run_ended (f : LineFilter) (sink : LineSink σ) (events : List LiveEvent)
    (h : s.pods[i]? = some (pod, .ended)) :
    (run f sink s events).pods[i]? = some (pod, .ended) ∧
      offersOf i (offers f sink s events) = [] := by
  induction events generalizing s with
  | nil => exact ⟨h, rfl⟩
  | cons e events ih =>
    obtain ⟨p', h', -, hmoves⟩ := step_moves f sink h e
    rw [run_cons, offers, offersOf_append]
    generalize offersOf i (offer? sink s e).toList = os at hmoves
    cases hmoves with
    | stays => exact ih h'
    | notices => exact ih h'

/-- How the log at a place gets from one progress to another, with what it offers in between. -/
inductive Reaches (f : LineFilter) (pod : String) (cancelled : Bool) :
    PodProgress → List Offer → PodProgress → Prop
  /-- All that was offered has been accepted, and the log may go on. -/
  | goesOn {p p' : PodProgress} {os : List Offer} : (∀ o ∈ os, o.taken = true) →
    p.left f pod = os.map Offer.line ++ p'.left f pod → Reaches f pod cancelled p os p'
  /-- The last line was refused. -/
  | refused {p : PodProgress} {os : List Offer} {o : Offer} : (∀ o ∈ os, o.taken = true) →
    o.taken = false → (os ++ [o]).map Offer.line <+: p.left f pod →
    Reaches f pod cancelled p (os ++ [o]) .ended
  /-- The cancellation has been noticed. -/
  | stopped {p : PodProgress} {os : List Offer} : cancelled = true → (∀ o ∈ os, o.taken = true) →
    os.map Offer.line <+: p.left f pod → Reaches f pod cancelled p os .ended

namespace Reaches

variable {cancelled : Bool} {os : List Offer}

theorem of_left_eq {q : PodProgress} (h : Reaches f pod cancelled q os p')
    (hleft : p.left f pod = q.left f pod) : Reaches f pod cancelled p os p' := by
  cases h with
  | goesOn htaken hq => exact .goesOn htaken (hleft.trans hq)
  | refused htaken ho hprefix => exact .refused htaken ho (hleft ▸ hprefix)
  | stopped hc htaken hprefix => exact .stopped hc htaken (hleft ▸ hprefix)

theorem cons {q : PodProgress} {o : Offer} (h : Reaches f pod cancelled q os p')
    (ho : o.taken = true) (hleft : p.left f pod = o.line :: q.left f pod) :
    Reaches f pod cancelled p (o :: os) p' := by
  have hall {os : List Offer} (h : ∀ o ∈ os, o.taken = true) : ∀ o' ∈ o :: os, o'.taken = true :=
    List.forall_mem_cons.2 ⟨ho, h⟩
  cases h with
  | goesOn htaken hq => exact .goesOn (hall htaken) (by rw [hleft, hq]; rfl)
  | @refused os o' htaken ho' hprefix =>
    rw [← List.cons_append]
    refine .refused (hall htaken) ho' ?_
    rw [hleft]
    exact List.cons_prefix_cons.2 ⟨rfl, hprefix⟩
  | stopped hc htaken hprefix =>
    refine .stopped hc (hall htaken) ?_
    rw [hleft]
    exact List.cons_prefix_cons.2 ⟨rfl, hprefix⟩

theorem takenLines_prefix (h : Reaches f pod cancelled p os p') :
    takenLines os <+: p.left f pod := by
  cases h with
  | goesOn htaken hleft =>
    rw [takenLines_of_forall htaken, hleft]
    exact List.prefix_append _ _
  | @refused os o htaken ho hprefix =>
    have hlast : takenLines [o] = [] := by simp [takenLines, ho]
    rw [takenLines_append, hlast, List.append_nil, takenLines_of_forall htaken]
    refine List.IsPrefix.trans ?_ hprefix
    rw [List.map_append]
    exact List.prefix_append _ _
  | stopped _ htaken hprefix => rwa [takenLines_of_forall htaken]

/-- A log that comes to its end has offered all that was left, unless a line was refused or the
stream is cancelled. -/
theorem map_line_of_isOver (h : Reaches f pod false p os p') (hover : p'.IsOver)
    (htaken : ∀ o ∈ os, o.taken = true) : os.map Offer.line = p.left f pod := by
  cases h with
  | goesOn _ hleft => rw [hleft, left_of_isOver hover, List.append_nil]
  | refused _ ho => simp [htaken _ (List.mem_append_right _ List.mem_cons_self)] at ho
  | stopped hc => cases hc

theorem eq_nil_of_refused (h : Reaches f pod cancelled p os p') {before after : List Offer}
    {o : Offer} (hos : os = before ++ o :: after) (ho : o.taken = false) : after = [] := by
  have hno {os : List Offer} (htaken : ∀ o ∈ os, o.taken = true) : o ∉ os := by
    intro hmem
    rw [htaken o hmem] at ho
    cases ho
  cases h with
  | goesOn htaken => exact absurd (by simp [hos]) (hno htaken)
  | stopped _ htaken => exact absurd (by simp [hos]) (hno htaken)
  | @refused os last htaken =>
    -- the refused offer is not among those before the last one
    obtain rfl | ⟨after', x, rfl⟩ := after.eq_nil_or_concat
    · rfl
    · have hinit : os ++ [last] = (before ++ o :: after') ++ [x] := by
        simpa using hos
      have hos' : os = before ++ o :: after' := (List.append_inj' hinit rfl).1
      exact absurd (by simp [hos']) (hno htaken)

end Reaches

/-- **All that a course of events can do to the log at a place.** -/
theorem run_reaches (f : LineFilter) (sink : LineSink σ) (events : List LiveEvent)
    (h : s.pods[i]? = some (pod, p)) :
    ∃ p', (run f sink s events).pods[i]? = some (pod, p') ∧
      Reaches f pod (run f sink s events).cancelled p (offersOf i (offers f sink s events)) p' := by
  induction events generalizing s p with
  | nil => exact ⟨p, h, .goesOn (by simp [offers]) (by simp [offers])⟩
  | cons e events ih =>
    obtain ⟨p₁, h₁, -, hmoves⟩ := step_moves f sink h e
    obtain ⟨p₂, h₂, hreaches⟩ := ih h₁
    rw [run_cons, offers, offersOf_append]
    generalize offersOf i (offer? sink s e).toList = os at hmoves
    -- a log that has been ended offers nothing more, and every other step leaves what it has left
    cases hmoves with
    | stays => exact ⟨p₂, h₂, hreaches⟩
    | skips _ hp =>
      refine ⟨p₂, h₂, hreaches.of_left_eq ?_⟩
      rw [left, left, LineFilter.passing_cons, hp, List.nil_append]
    | finds _ hp =>
      refine ⟨p₂, h₂, hreaches.of_left_eq ?_⟩
      rw [left, left, LineFilter.passing_cons, hp, List.singleton_append]
    | sends => exact ⟨p₂, h₂, hreaches.of_left_eq rfl⟩
    | notices _ hc =>
      obtain ⟨hended, hnone⟩ := run_ended f sink events h₁
      rw [hnone]
      exact ⟨_, hended, .stopped (cancelled_run (cancelled_step hc e)) (by simp) (by simp)⟩
    | gives line rest => exact ⟨p₂, h₂, hreaches.cons rfl rfl⟩
    | fails line rest =>
      obtain ⟨hended, hnone⟩ := run_ended f sink events h₁
      rw [hnone]
      refine ⟨_, hended, @Reaches.refused _ _ _ _ [] _ (by simp) rfl ?_⟩
      exact ⟨_, rfl⟩

/-- **After a cancellation** a pod hands over at most the line that is on its way. -/
theorem offers_of_cancelled (hc : s.cancelled = true) (h : s.pods[i]? = some (pod, p)) :
    (offersOf i (offers f sink s events)).map Offer.line <+: p.inHand := by
  induction events generalizing s p with
  | nil => simp [offers]
  | cons e events ih =>
    obtain ⟨p₁, h₁, -, hmoves⟩ := step_moves f sink h e
    have hrest := ih (cancelled_step hc e) h₁
    rw [offers, offersOf_append, List.map_append]
    generalize offersOf i (offer? sink s e).toList = os at hmoves
    -- no new line is looked for, but the one in hand may still be offered
    cases hmoves with
    | stays => exact hrest
    | skips hno => simp [hc] at hno
    | finds hno => simp [hc] at hno
    | sends hno => simp [hc] at hno
    | notices =>
      rw [(run_ended f sink events h₁).2]
      simp
    | gives line rest =>
      rw [List.prefix_nil.1 hrest]
      simp [inHand]
    | fails line rest =>
      rw [(run_ended f sink events h₁).2]
      simp [inHand]

end LiveStream

end ClusterGateway

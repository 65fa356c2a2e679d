import ClusterGateway.Proofs.Log.Offers

/-!
# Every pod of a live stream on its own

The lines of a pod in a live stream do not depend on what becomes of the other pods.

* `LiveStream.Twins.run` : two streams that agree on one pod go on agreeing on it, whatever happens
  to the others.
* `LiveStream.isOver_inTurn` : when the pods take turns, every log comes to its end.
* `LiveStream.follows_each_pod` : **under any interleaving the lines that the sink accepts of a pod
  are the first of its matching lines**, and all of them unless one is refused or the stream is
  cancelled.  A refusal ends the log of its own pod and of no other.
-/

namespace ClusterGateway

/-! ### Two streams that agree on a pod -/

/-- Two sinks treat the lines of a pod alike, whatever other lines they are offered, and do not
cancel the stream themselves. -/
structure LineSink.Alike {σ τ : Type} (pod : String) (sink : LineSink σ) (sink' : LineSink τ)
    (R : σ → τ → Prop) : Prop where
  /-- They give the same answer to a line of the pod. -/
  answer {a : σ} {b : τ} {line : LogLine} : R a b → line.pod = pod →
    (sink.offer a line).1 = (sink'.offer b line).1
  /-- They stay alike when both are offered a line of the pod. -/
  own {a : σ} {b : τ} {line : LogLine} : R a b → line.pod = pod →
    R (sink.offer a line).2 (sink'.offer b line).2
  /-- A line of another pod makes no difference to the first one. -/
  first {a : σ} {b : τ} {line : LogLine} : R a b → line.pod ≠ pod → R (sink.offer a line).2 b
  /-- A line of another pod makes no difference to the second one. -/
  second {a : σ} {b : τ} {line : LogLine} : R a b → line.pod ≠ pod → R a (sink'.offer b line).2
  /-- They do not cancel the stream. -/
  quiet {a : σ} {b : τ} : R a b → sink.cancels a = false ∧ sink'.cancels b = false

namespace LineSink

variable {σ τ : Type} {pod : String} {sink : LineSink σ} {sink' : LineSink τ} {R : σ → τ → Prop}

theorem Alike.symm (h : sink.Alike pod sink' R) : sink'.Alike pod sink fun b a => R a b where
  answer hr hl := (h.answer hr hl).symm
  own hr hl := h.own hr hl
  first hr hl := h.second hr hl
  second hr hl := h.first hr hl
  quiet hr := (h.quiet hr).symm

/-- A sink that decides about each line by the lines of the same pod that came before. -/
def deciding (decide : String → List LogLine → LogLine → Bool) : LineSink (List LogLine) where
  offer seen line := (decide line.pod (seen.filter fun l => l.pod = line.pod) line, seen ++ [line])
  cancels _ := false

/-- Sinks that decide alike about one pod treat its lines alike, whatever they decide about
others. -/
theorem alike_deciding {decide decide' : String → List LogLine → LogLine → Bool}
    (h : decide pod = decide' pod) :
    (deciding decide).Alike pod (deciding decide') fun seen seen' =>
      (seen.filter fun l => l.pod = pod) = seen'.filter fun l => l.pod = pod where
  answer hr hl := by
    subst hl
    simp only [deciding, hr, h]
  own hr _ := by simp [deciding, hr]
  first hr hl := by simp [deciding, hr, hl]
  second hr hl := by simp [deciding, hr, hl]
  quiet _ := ⟨rfl, rfl⟩

end LineSink

namespace LiveStream

open PodProgress

variable {σ τ : Type} {f : LineFilter} {i : Nat} {pod : String}

/-- The log at a place is the only one of its pod, and all logs hold lines of their own pods. -/
structure IsSole (f : LineFilter) (i : Nat) (pod : String) (s : LiveState σ) : Prop where
  /-- No other log is of the pod. -/
  place_eq {k : Nat} {p : PodProgress} : s.pods[k]? = some (pod, p) → k = i
  /-- Every log holds lines of its pod. -/
  pod_eq {k : Nat} {name : String} {p : PodProgress} : s.pods[k]? = some (name, p) →
    ∀ line ∈ p.left f name, line.pod = name

theorem Moves.left_subset {cancelled : Bool} {p p' : PodProgress} {os : List Offer}
    (h : Moves f pod cancelled i p os p') : p'.left f pod ⊆ p.left f pod := by
  cases h with
  | stays => exact List.Subset.refl _
  | skips _ hp =>
    rw [left, left, LineFilter.passing_cons]
    exact List.subset_append_right _ _
  | finds _ hp =>
    rw [left, left, LineFilter.passing_cons, hp]
    exact List.Subset.refl _
  | sends => exact List.Subset.refl _
  | notices => exact List.nil_subset _
  | gives => exact List.subset_cons_self _ _
  | fails => exact List.nil_subset _

theorem IsSole.step {s : LiveState σ} (h : IsSole f i pod s) (sink : LineSink σ)
    (e : LiveEvent) :
    IsSole f i pod (step f sink s e) := by
  -- a log after the step is one from before it
  have hback {k : Nat} {name : String} {p' : PodProgress}
      (hk : (LiveStream.step f sink s e).pods[k]? = some (name, p')) :
      ∃ p, s.pods[k]? = some (name, p) ∧ p'.left f name ⊆ p.left f name := by
    cases hs : s.pods[k]? with
    | none =>
      have hlength : (LiveStream.step f sink s e).pods.length = s.pods.length := by
        cases e with
        | cancel => rfl
        | withdraw j => exact length_pods_withdraw
        | advance j =>
          rw [LiveStream.step, advance]
          split <;> simp [putProgress, offerLine]
      rw [List.getElem?_eq_none_iff, ← hlength, ← List.getElem?_eq_none_iff, hk] at hs
      cases hs
    | some q =>
      obtain ⟨p'', h'', -, hmoves⟩ := step_moves f sink hs e
      rw [hk, Option.some.injEq, Prod.mk.injEq] at h''
      obtain ⟨rfl, rfl⟩ := h''
      exact ⟨q.2, rfl, hmoves.left_subset⟩
  constructor
  · intro k p hk
    obtain ⟨p₀, hp₀, -⟩ := hback hk
    exact h.place_eq hp₀
  · intro k name p hk line hline
    obtain ⟨p₀, hp₀, hsub⟩ := hback hk
    exact h.pod_eq hp₀ line (hsub hline)

/-- Two streams agree on the pod at a place. -/
structure Twins (f : LineFilter) (i : Nat) (pod : String) (R : σ → τ → Prop) (s : LiveState σ)
    (t : LiveState τ) : Prop where
  /-- The log of the pod is equally far. -/
  progress : ∃ p, s.pods[i]? = some (pod, p) ∧ t.pods[i]? = some (pod, p)
  /-- Both are cancelled or neither is. -/
  cancelled : s.cancelled = t.cancelled
  /-- The sinks are in states that are alike. -/
  sink : R s.sink t.sink
  /-- The pod has no other log in the first one. -/
  first : IsSole f i pod s
  /-- The pod has no other log in the second one. -/
  second : IsSole f i pod t

namespace Twins

variable {sink : LineSink σ} {sink' : LineSink τ} {R : σ → τ → Prop} {s : LiveState σ}
variable {t : LiveState τ}

theorem symm (h : Twins f i pod R s t) : Twins f i pod (fun b a => R a b) t s where
  progress := h.progress.imp fun _ hp => hp.symm
  cancelled := h.cancelled.symm
  sink := h.sink
  first := h.second
  second := h.first

/-- **A step of another pod** makes no difference. -/
theorem advance_ne (ha : sink.Alike pod sink' R) (h : Twins f i pod R s t) {k : Nat}
    (hk : k ≠ i) : Twins f i pod R (advance f sink s k) t := by
  have hsole : IsSole f i pod (advance f sink s k) := h.first.step sink (.advance k)
  obtain ⟨p, hs, ht⟩ := h.progress
  have hprogress : (advance f sink s k).pods[i]? = some (pod, p) :=
    (getElem?_advance_ne hk).trans hs
  have hrest : (advance f sink s k).cancelled = s.cancelled ∧
      R (advance f sink s k).sink t.sink := by
    rw [advance]
    split
    · exact ⟨rfl, h.sink⟩
    · exact ⟨rfl, h.sink⟩
    · exact ⟨rfl, h.sink⟩
    · exact ⟨rfl, h.sink⟩
    · exact ⟨rfl, h.sink⟩
    · -- the line that is offered is one of another pod
      rename_i name line rest hline
      have hname : line.pod = name := h.first.pod_eq hline line List.mem_cons_self
      have hother : line.pod ≠ pod := by
        rintro rfl
        exact hk (h.first.place_eq (hname ▸ hline))
      have hsink := ha.first h.sink hother
      refine ⟨?_, hsink⟩
      simp [offerLine, (ha.quiet hsink).1]
  exact ⟨⟨p, hprogress, ht⟩, hrest.1.trans h.cancelled, hrest.2, hsole, h.second⟩

/-- **A step of the pod itself** is the same in both. -/
theorem advance_self (ha : sink.Alike pod sink' R) (h : Twins f i pod R s t) :
    Twins f i pod R (advance f sink s i) (advance f sink' t i) ∧
      offer? sink s (.advance i) = offer? sink' t (.advance i) := by
  have hfirst : IsSole f i pod (advance f sink s i) := h.first.step sink (.advance i)
  have hsecond : IsSole f i pod (advance f sink' t i) := h.second.step sink' (.advance i)
  obtain ⟨p, hs, ht⟩ := h.progress
  have hset (p' : PodProgress) : ∃ q, (s.pods.set i (pod, p'))[i]? = some (pod, q) ∧
      (t.pods.set i (pod, p'))[i]? = some (pod, q) :=
    ⟨p', getElem?_set_self' hs, getElem?_set_self' ht⟩
  simp only [advance, hs, ht, offer?] at hfirst hsecond ⊢
  cases p with
  | ended => exact ⟨h, rfl⟩
  | reading rest =>
    cases rest with
    | nil => exact ⟨h, rfl⟩
    | cons raw rest =>
      rw [← h.cancelled] at hsecond ⊢
      exact ⟨⟨hset _, h.cancelled, h.sink, hfirst, hsecond⟩, rfl⟩
  | offering line rest =>
    rw [← h.cancelled] at hsecond ⊢
    exact ⟨⟨hset _, h.cancelled, h.sink, hfirst, hsecond⟩, rfl⟩
  | handing line rest =>
    -- the line is one of the pod, so that both sinks answer alike
    have hpod : line.pod = pod := h.first.pod_eq hs line List.mem_cons_self
    have hanswer := ha.answer h.sink hpod
    have hsink := ha.own h.sink hpod
    have hquiet := ha.quiet hsink
    refine ⟨⟨?_, ?_, hsink, hfirst, hsecond⟩, ?_⟩
    · simp only [offerLine, hanswer]
      exact hset _
    · simp only [offerLine, hquiet.1, hquiet.2, Bool.or_false, h.cancelled]
    · dsimp only
      rw [hanswer]

/-- **An event** leaves two streams in agreement, and the same reaches the sinks from the pod. -/
theorem step (ha : sink.Alike pod sink' R) (h : Twins f i pod R s t) (e : LiveEvent) :
    Twins f i pod R (step f sink s e) (LiveStream.step f sink' t e) ∧
      offersOf i (offer? sink s e).toList = offersOf i (offer? sink' t e).toList := by
  cases e with
  | cancel =>
    refine ⟨⟨h.progress, rfl, h.sink, ?_, ?_⟩, rfl⟩
    · exact h.first.step sink .cancel
    · exact h.second.step sink' .cancel
  | withdraw k =>
    refine ⟨⟨?_, ?_, ?_, h.first.step sink (.withdraw k), h.second.step sink' (.withdraw k)⟩, rfl⟩
    · obtain ⟨p, hs, ht⟩ := h.progress
      by_cases hk : k = i
      · subst hk
        refine ⟨_, getElem?_withdraw_self hs, ?_⟩
        rw [h.cancelled]
        exact getElem?_withdraw_self ht
      · exact ⟨p, (getElem?_withdraw_ne hk).trans hs, (getElem?_withdraw_ne hk).trans ht⟩
    · exact withdraw_cancelled.trans (h.cancelled.trans withdraw_cancelled.symm)
    · have hsink := h.sink
      rwa [← withdraw_sink (s := s) (i := k), ← withdraw_sink (s := t) (i := k)] at hsink
  | advance k =>
    by_cases hk : k = i
    · subst hk
      obtain ⟨hnext, hoffer⟩ := h.advance_self ha
      exact ⟨hnext, by rw [hoffer]⟩
    · rw [offersOf_offer?_ne hk, offersOf_offer?_ne hk]
      -- the other pod may go on in each of the two streams in a way of its own
      exact ⟨((h.advance_ne ha hk).symm.advance_ne ha.symm hk).symm, rfl⟩

/-- **Whatever happens to the other pods**, the same reaches the sinks from this one. -/
theorem run (ha : sink.Alike pod sink' R) (h : Twins f i pod R s t) (events : List LiveEvent) :
    offersOf i (offers f sink s events) = offersOf i (offers f sink' t events) := by
  induction events generalizing s t with
  | nil => rfl
  | cons e events ih =>
    obtain ⟨hnext, hoffer⟩ := h.step ha e
    rw [offers, offers, offersOf_append, offersOf_append, hoffer, ih hnext]

end Twins

/-! ### From the start -/

variable {logs : List PodLog} {l : PodLog}

theorem getElem?_start (hl : logs[i]? = some l) (s : σ) (cancelled : Bool) :
    (start logs s cancelled).pods[i]? = some (l.pod, .reading l.rawLines) := by
  simp [start, hl]

/-- No other place has a log of the pod. -/
def IsOnlyLog (logs : List PodLog) (i : Nat) (pod : String) : Prop :=
  ∀ k l, logs[k]? = some l → l.pod = pod → k = i

theorem isSole_start (h : IsOnlyLog logs i pod) (s : σ) (cancelled : Bool) :
    IsSole f i pod (start logs s cancelled) := by
  have hstart {k : Nat} {name : String} {p : PodProgress}
      (hk : (start logs s cancelled).pods[k]? = some (name, p)) :
      ∃ l, logs[k]? = some l ∧ l.pod = name ∧ p = .reading l.rawLines := by
    rw [start, List.getElem?_map] at hk
    obtain ⟨l, hl, heq⟩ := Option.map_eq_some_iff.1 hk
    rw [Prod.mk.injEq] at heq
    exact ⟨l, hl, heq.1, heq.2.symm⟩
  constructor
  · intro k p hk
    obtain ⟨l, hl, hpod, -⟩ := hstart hk
    exact h k l hl hpod
  · intro k name p hk line hline
    obtain ⟨l, -, -, rfl⟩ := hstart hk
    exact LineFilter.pod_eq_of_mem_passing hline

theorem place_of_mem_offers {sink : LineSink σ} {s : LiveState σ} {p : PodProgress}
    (hsole : IsSole f i pod s) (hp : s.pods[i]? = some (pod, p)) {events : List LiveEvent} :
    ∀ o ∈ offers f sink s events, (o.line.pod = pod ↔ o.place = i) := by
  induction events generalizing s p with
  | nil => simp [offers]
  | cons e events ih =>
    obtain ⟨p', hp', -, -⟩ := step_moves f sink hp e
    intro o ho
    rw [offers, List.mem_append] at ho
    obtain hnow | hlater := ho
    · rw [Option.mem_toList] at hnow
      obtain ⟨name, rest, hplace⟩ := progress_of_offer? hnow
      have hname : o.line.pod = name := hsole.pod_eq hplace o.line List.mem_cons_self
      constructor
      · intro hpod
        exact hsole.place_eq (hpod ▸ hname ▸ hplace)
      · intro hi
        rw [hi, hp] at hplace
        cases hplace
        exact hname
    · exact ih (hsole.step sink e) hp' o hlater

theorem filter_takenLines {os : List Offer} (h : ∀ o ∈ os, (o.line.pod = pod ↔ o.place = i)) :
    (takenLines os).filter (fun l => l.pod = pod) = takenLines (offersOf i os) := by
  rw [takenLines, takenLines, offersOf, List.filter_map, List.filter_filter, List.filter_filter]
  congr 1
  refine List.filter_congr fun o ho => ?_
  simp only [Function.comp_apply, h o ho, Bool.and_comm]

/-- A course of events in which the pods take turns brings every log to its end. -/
theorem isOver_inTurn (hl : logs[i]? = some l) (f : LineFilter) (sink : LineSink σ) (s : σ)
    (cancelled : Bool) : ∃ p, p.IsOver ∧
      (run f sink (start logs s cancelled) (inTurn logs)).pods[i]? = some (l.pod, p) := by
  have hblock : (List.replicate (3 * l.rawLines.length) (LiveEvent.advance i)).Sublist
      (inTurn logs) := by
    refine List.sublist_flatten_of_mem (List.mem_map.2 ⟨(l, i), ?_, rfl⟩)
    exact List.mk_mem_zipIdx_iff_getElem?.2 hl
  have hcount : 3 * l.rawLines.length ≤ (inTurn logs).count (.advance i) := by
    have hle := hblock.count_le (.advance i)
    rwa [List.count_replicate_self] at hle
  exact exists_isOver f sink (getElem?_start hl s cancelled) hcount

/-- A stream follows the log of the pod at a place as it should. -/
structure Follows (f : LineFilter) (logs : List PodLog) (sink : LineSink σ) (s : σ)
    (cancelled : Bool) (events : List LiveEvent) (i : Nat) (l : PodLog) : Prop where
  /-- The lines of the pod that the sink accepts are the first of its matching lines, in their
  order. -/
  inOrder : takenLines (offersOf i (offers f sink (start logs s cancelled) events)) <+:
    l.matching f
  /-- These are all the lines with its name that the stream has accepted. -/
  told : IsOnlyLog logs i l.pod →
    ((run f sink (start logs s cancelled) events).accepted.filter fun line => line.pod = l.pod) =
      takenLines (offersOf i (offers f sink (start logs s cancelled) events))
  /-- A log that goes on often enough comes to its end. -/
  comesToEnd : 3 * l.rawLines.length ≤ events.count (.advance i) → ∃ p, p.IsOver ∧
    (run f sink (start logs s cancelled) events).pods[i]? = some (l.pod, p)
  /-- At its end all matching lines are accepted, if none was refused and the stream has not been
  cancelled. -/
  complete {p : PodProgress} : p.IsOver →
    (run f sink (start logs s cancelled) events).pods[i]? = some (l.pod, p) →
    (∀ o ∈ offersOf i (offers f sink (start logs s cancelled) events), o.taken = true) →
    (run f sink (start logs s cancelled) events).cancelled = false →
    takenLines (offersOf i (offers f sink (start logs s cancelled) events)) = l.matching f
  /-- Nothing of the pod is offered after a refusal. -/
  afterRefusal {before after : List Offer} {o : Offer} :
    offersOf i (offers f sink (start logs s cancelled) events) = before ++ o :: after →
    o.taken = false → after = []
  /-- Once the stream is cancelled, nothing of the pod is offered but a line that is already on its
  way. -/
  afterCancel {before after : List LiveEvent} {p : PodProgress} : events = before ++ after →
    (run f sink (start logs s cancelled) before).cancelled = true →
    (run f sink (start logs s cancelled) before).pods[i]? = some (l.pod, p) →
    ∃ later, offersOf i (offers f sink (start logs s cancelled) events) =
        offersOf i (offers f sink (start logs s cancelled) before) ++ later ∧
      later.map Offer.line <+: p.inHand
  /-- What happens to other pods makes no difference: their logs may be others or may not be
  opened, and their lines may be refused. -/
  onItsOwn {τ : Type} {logs' : List PodLog} {sink' : LineSink τ} {t : τ} {R : σ → τ → Prop} :
    logs'[i]? = some l → IsOnlyLog logs i l.pod → IsOnlyLog logs' i l.pod →
    sink.Alike l.pod sink' R → R s t →
    offersOf i (offers f sink (start logs s cancelled) events) =
      offersOf i (offers f sink' (start logs' t cancelled) events)

/-- **Every pod of a live stream is followed on its own**, whatever the sink answers, whenever the
stream is cancelled and in whatever order the logs go on. -/
theorem follows_each_pod (hl : logs[i]? = some l) (f : LineFilter) (sink : LineSink σ) (s : σ)
    (cancelled : Bool) (events : List LiveEvent) :
    Follows f logs sink s cancelled events i l := by
  have hstart := getElem?_start hl s cancelled
  -- all that the run does to the log is one relation, from which the promises are read off
  obtain ⟨last, hlast, hreaches⟩ := run_reaches f sink events hstart
  constructor
  case inOrder => exact hreaches.takenLines_prefix
  case told =>
    intro honly
    rw [accepted_run]
    exact filter_takenLines (place_of_mem_offers (isSole_start honly s cancelled) hstart)
  case comesToEnd =>
    intro hcount
    exact exists_isOver f sink hstart hcount
  case complete =>
    intro p hover hp htaken hcancelled
    rw [hlast, Option.some.injEq, Prod.mk.injEq] at hp
    obtain rfl := hp.2
    rw [takenLines_of_forall htaken]
    rw [hcancelled] at hreaches
    exact hreaches.map_line_of_isOver hover htaken
  case afterRefusal =>
    intro before after o hoffers ho
    exact hreaches.eq_nil_of_refused hoffers ho
  case afterCancel =>
    intro before after p hevents hcancelled hp
    have hsplit := offers_append f sink (start logs s cancelled) before after
    rw [hevents, hsplit, offersOf_append]
    exact ⟨_, rfl, offers_of_cancelled hcancelled hp⟩
  case onItsOwn =>
    intro τ logs' sink' t R hl' honly honly' halike hR
    have htwins : Twins f i l.pod R (start logs s cancelled) (start logs' t cancelled) :=
      ⟨⟨_, hstart, getElem?_start hl' t cancelled⟩, rfl, hR, isSole_start honly s cancelled,
        isSole_start honly' t cancelled⟩
    exact htwins.run halike events

/-- The log of a pod that has written two lines. -/
def webLog (pod : String) : PodLog :=
  ⟨pod, some (.ofBytes (Utf8.encode "2024-01-01T00:00:01Z GET /a\n2024-01-01T00:00:02Z GET /b\n"))⟩

/-- The logs of two pods that go on in turn. -/
def alternately : List LiveEvent := (List.replicate 6 [.advance 0, .advance 1]).flatten

theorem isOnlyLog_web (l : PodLog) (hl : l.pod = "web-1") :
    IsOnlyLog [l, webLog "web-2"] 1 "web-2" := by
  intro k l' hl' hpod
  match k, hl' with
  | 0, hl' =>
    cases hl'
    rw [hl] at hpod
    exact absurd hpod (by decide)
  | 1, _ => rfl

/-- The second of two pods is followed to its end while every line of the first is refused, and it
fares as in a stream in which the log of the first is not opened. -/
theorem follows_each_pod_oneRefused :
    let logs := [webLog "web-1", webLog "web-2"]
    let sink := LineSink.deciding fun pod _ _ => pod ≠ "web-1"
    let os := offers ⟨none, none⟩ sink (start logs [] false) alternately
    logs[1]? = some (webLog "web-2") ∧
      Follows ⟨none, none⟩ logs sink [] false alternately 1 (webLog "web-2") ∧
      (offersOf 0 os).map Offer.taken = [false] ∧
      (takenLines (offersOf 1 os)).map LogLine.body = ["GET /a", "GET /b"] ∧
      offersOf 1 os = offersOf 1 (offers ⟨none, none⟩ (LineSink.deciding fun _ _ _ => true)
        (start [⟨"web-1", none⟩, webLog "web-2"] [] false) alternately) := by
  intro logs sink os
  have hfollows : Follows ⟨none, none⟩ logs sink [] false alternately 1 (webLog "web-2") :=
    follows_each_pod rfl ..
  refine ⟨rfl, hfollows, by decide +kernel, by decide +kernel, ?_⟩
  have halike : sink.Alike "web-2" (LineSink.deciding fun _ _ _ => true) fun seen seen' =>
      (seen.filter fun l => l.pod = "web-2") = seen'.filter fun l => l.pod = "web-2" :=
    LineSink.alike_deciding (by simp)
  exact hfollows.onItsOwn rfl (isOnlyLog_web _ rfl) (isOnlyLog_web _ rfl) halike rfl

end LiveStream

end ClusterGateway

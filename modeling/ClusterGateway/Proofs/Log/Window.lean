import ClusterGateway.Proofs.Dialogue.Twins
import ClusterGateway.Proofs.Log.Batch
import ClusterGateway.Proofs.Log.Framing

/-!
# How far back the logs are asked for

A batch is limited to a window of time.  The API server is asked to look back a number of seconds
only, counted from the time of the request, and the window is applied to what arrives.

* `LogOptions.looksBack_of_since?` : the API server looks back to an instant before the window, by a
  second at most.
* `PodLog.matching_since` : what lies before the window can be left out of a log.
* `LogBatch.nothing_is_hidden` : **a batch is the same from an API server that looks back no further
  than it is asked and from one that sends the whole logs**.
-/

namespace ClusterGateway

open Http

/-! ### Instants -/

namespace Instant

variable {s t u : Instant}

theorem nanosPerSecond_eq : nanosPerSecond = 1000000000 := by decide

theorem before_iff : s.before t = true ↔
    s.seconds < t.seconds ∨ s.seconds = t.seconds ∧ s.nanos < t.nanos := by
  simp [before]

theorem before_trans (hst : s.before t = true) (htu : t.before u = true) :
    s.before u = true := by
  rw [before_iff] at *
  omega

/-- The instant so many seconds earlier. -/
def secondsBefore (t : Instant) (n : Int) : Instant := t.addNanos (-(n * nanosPerSecond))

theorem secondsBefore_seconds (t : Instant) (n : Int) :
    (t.secondsBefore n).seconds = t.seconds - n + t.nanos / 1000000000 := by
  simp only [secondsBefore, addNanos, nanosPerSecond_eq]
  omega

theorem secondsBefore_nanos (t : Instant) (n : Int) :
    ((t.secondsBefore n).nanos : Int) = t.nanos % 1000000000 := by
  simp only [secondsBefore, addNanos, nanosPerSecond_eq]
  omega

theorem nanosSince_eq (hs : s.nanos < nanosPerSecond) (ht : t.nanos < nanosPerSecond) :
    t.nanosSince s = (t.seconds - s.seconds) * nanosPerSecond + (t.nanos - s.nanos) := by
  rw [nanosSince, if_neg fun h => Nat.not_le.2 hs h.2, if_neg fun h => Nat.not_le.2 ht h.2,
    Int.add_zero]

end Instant

/-! ### The number of seconds -/

namespace LogOptions

variable {start now : Instant} {n : Int}

/-- The number of seconds is one more than the whole seconds since the start of the window. -/
theorem since?_cases (start now : Instant) :
    now.nanosSince start < 1000000000 ∧ since? start now = none ∨
      1000000000 ≤ now.nanosSince start ∧
        since? start now = some (now.nanosSince start / 1000000000 + 1) := by
  have hsecond : ((1000000000 : Nat) : Int) = 1000000000 := rfl
  rw [since?, Instant.nanosPerSecond_eq, hsecond]
  generalize now.nanosSince start = nanos
  by_cases hfull : 1000000000 ≤ nanos
  · refine .inr ⟨hfull, ?_⟩
    rw [Int.tdiv_eq_ediv_of_nonneg (by omega)]
    exact if_pos (by omega)
  · refine .inl ⟨by omega, if_neg ?_⟩
    have hsign : Int.sign 1000000000 = 1 := rfl
    rw [Int.tdiv_eq_ediv, hsign]
    split <;> omega

theorem since?_eq_none_iff : since? start now = none ↔
    now.nanosSince start < Instant.nanosPerSecond := by
  rw [Instant.nanosPerSecond_eq]
  obtain ⟨hshort, hnone⟩ | ⟨hfull, hsome⟩ := since?_cases start now
  · simp [hshort, hnone]
  · simp [hsome, hfull]

theorem eq_of_since? (h : since? start now = some n) :
    1000000000 ≤ now.nanosSince start ∧ n = now.nanosSince start / 1000000000 + 1 := by
  obtain ⟨-, hnone⟩ | ⟨hfull, hsome⟩ := since?_cases start now
  · rw [hnone] at h
    cases h
  · rw [hsome] at h
    exact ⟨hfull, (Option.some.inj h).symm⟩

/-- **The API server looks back beyond the start**, and by a second at most.  In a leap second the
time of day stands still, so that neither instant may lie in one. -/
theorem looksBack_of_since? (hstart : start.nanos < Instant.nanosPerSecond)
    (hnow : now.nanos < Instant.nanosPerSecond) (h : since? start now = some n) :
    1 < n ∧ (now.secondsBefore n).before start = true ∧
      start.nanosSince (now.secondsBefore n) ≤ Instant.nanosPerSecond := by
  obtain ⟨hfull, hn⟩ := eq_of_since? h
  have hseconds := now.secondsBefore_seconds n
  have hnanos := now.secondsBefore_nanos n
  have hcut : (now.secondsBefore n).nanos < Instant.nanosPerSecond := by
    rw [Instant.nanosPerSecond_eq]
    omega
  rw [Instant.nanosSince_eq hstart hnow, Instant.nanosPerSecond_eq] at hfull hn
  rw [Instant.nanosSince_eq hcut hstart, Instant.before_iff]
  rw [Instant.nanosPerSecond_eq] at *
  generalize now.secondsBefore n = cut at *
  subst hn
  omega

end LogOptions

/-! ### Logs without older lines -/

/-- The time in front of a raw line, if there is one. -/
def LogLine.timeOf? (raw : String) : Option Instant :=
  (Text.cut? ' ' raw).bind fun cut => Time.Rfc3339.parse? cut.1

theorem LogLine.timeOf?_of_parse? {raw pod : String} {line : LogLine}
    (h : LogLine.parse? raw pod = some line) : timeOf? raw = some line.time := by
  obtain ⟨cut, hcut, h⟩ := Option.bind_eq_some_iff.1 h
  obtain ⟨time, htime, h⟩ := Option.bind_eq_some_iff.1 h
  rw [timeOf?, hcut, Option.bind_some, htime, ← Option.some.inj h]

namespace Framing

/-- Whether a frame is a line of an earlier time. -/
def isOlder (t : Instant) (frame : Bytes) : Bool :=
  (LogLine.timeOf? (textOf frame)).any (·.before t)

/-- What is left of octets without the lines of earlier times. -/
def since (t : Instant) (bs : Bytes) : Bytes :=
  ((split bs).1.filter (!isOlder t ·)).flatMap (· ++ [lineFeed]) ++
    if isOlder t (split bs).2 then [] else (split bs).2

variable {t : Instant}

theorem split_flatMap {lines : List Bytes} {rest : Bytes} (hlines : ∀ line ∈ lines, lineFeed ∉ line)
    (hrest : lineFeed ∉ rest) :
    split (lines.flatMap (· ++ [lineFeed]) ++ rest) = (lines, rest) := by
  induction lines with
  | nil => exact split_of_not_mem hrest
  | cons line lines ih =>
    obtain ⟨hline, hlines⟩ := List.forall_mem_cons.1 hlines
    have hfront : (line :: lines).flatMap (· ++ [lineFeed]) ++ rest =
        line ++ lineFeed :: (lines.flatMap (· ++ [lineFeed]) ++ rest) := by simp
    rw [hfront, split_append, split_of_not_mem hline, ih hlines]
    rfl

theorem split_since (t : Instant) (bs : Bytes) : split (since t bs) =
    ((split bs).1.filter (!isOlder t ·), if isOlder t (split bs).2 then [] else (split bs).2) := by
  have hparts := not_mem_split bs
  rw [List.forall_mem_append, List.forall_mem_singleton] at hparts
  refine split_flatMap (fun line hline => hparts.1 line (List.mem_of_mem_filter hline)) ?_
  split
  · exact List.not_mem_nil
  · exact hparts.2

/-- A stream without the lines of earlier times, cut into pieces in any way. -/
structure IsSince (t : Instant) (b b' : Body) : Prop where
  /-- The other lines are there. -/
  octets : b'.octets = since t b.octets
  /-- It ends in the same way. -/
  ending : b'.ending = b.ending

/-- A reader that makes nothing of older lines misses none. -/
theorem IsSince.filterMap_frames {α : Type} {b b' : Body} {f : Bytes → Option α}
    (h : IsSince t b b') (hempty : f [] = none)
    (holder : ∀ frame, isOlder t frame = true → f frame = none) :
    (frames b').filterMap f = (frames b).filterMap f := by
  have hkept (lines : List Bytes) :
      (lines.filter (!isOlder t ·)).filterMap f = lines.filterMap f := by
    induction lines with
    | nil => rfl
    | cons line lines ih =>
      by_cases hline : isOlder t line = true
      · simp [hline, holder line hline, ih]
      · simp [hline, List.filterMap_cons, ih]
  -- what stands behind the last line feed is left out by being emptied
  have hlast (rest : Bytes) :
      [if isOlder t rest then [] else rest].filterMap f = [rest].filterMap f := by
    split
    · rename_i hrest
      simp [hempty, holder rest hrest]
    · rfl
  simp only [frames, h.octets, h.ending, split_since]
  split
  · rw [List.filterMap_append, List.filterMap_append, hkept, hlast]
  · exact hkept _

end Framing

section Matching

variable {f : LineFilter} {range : TimeRange} {t : Instant}

theorem LineFilter.lineOf?_of_isOlder (hf : f.window = some range)
    (ht : t.before range.start = true) (pod : String) {frame : Bytes}
    (h : Framing.isOlder t frame = true) : f.lineOf? pod frame = none := by
  rw [LineFilter.lineOf?]
  cases hline : LogLine.parse? (Framing.textOf frame) pod with
  | none => rfl
  | some line =>
    rw [Framing.isOlder, LogLine.timeOf?_of_parse? hline] at h
    have hbefore : line.time.before range.start = true := Instant.before_trans h ht
    have hafter : range.start.before line.time = false := by
      rw [Instant.before_iff] at hbefore
      rw [← Bool.not_eq_true, Instant.before_iff]
      omega
    simp [Option.filter, LineFilter.accepts, hf, TimeRange.contains, hafter]

/-- **What lies before the window can be left out of a log.** -/
theorem PodLog.matching_since (hf : f.window = some range) (ht : t.before range.start = true)
    (pod : String) {b b' : Body} (h : Framing.IsSince t b b') :
    matching f ⟨pod, some b'⟩ = matching f ⟨pod, some b⟩ := by
  rw [matching_eq_filterMap, matching_eq_filterMap]
  exact h.filterMap_frames rfl fun frame => LineFilter.lineOf?_of_isOlder hf ht pod

theorem LineFilter.window_ofPattern {pattern : String} {window : Option TimeRange}
    (h : LineFilter.ofPattern pattern window = .ok f) : f.window = window := by
  rw [LineFilter.ofPattern] at h
  split at h
  · cases h
    rfl
  · split at h
    · cases h
      rfl
    · cases h

end Matching

/-! ### An API server that looks back -/

/-- What an API server answers that looks back to an instant, compared with what one answers that
always sends the whole log: nothing else than the lines of earlier times is missing. -/
inductive LooksBack : Option Instant → Option Response → Option Response → Prop
  /-- It is not asked to look back. -/
  | whole (answer : Option Response) : LooksBack none answer answer
  /-- There is no answer in either case. -/
  | lost (t : Instant) : LooksBack (some t) none none
  /-- The body is left out in part. -/
  | since {t : Instant} {r r' : Response} : r'.status = r.status →
    Framing.IsSince t r.body r'.body → LooksBack (some t) (some r) (some r')

theorem LooksBack.eq {answer answer' : Option Response} (h : LooksBack none answer answer') :
    answer = answer' := by
  cases h
  rfl

namespace LogBatch

variable {σ τ : Type} {w : World σ} {v : World τ} {S : σ → τ → Prop}
variable {cut : Request → Option Instant} {identity : Identity} {q : LogsQuery}

theorem matching_of_looksBack {f : LineFilter} {range : TimeRange} {bound : Option Instant}
    (hf : f.window = some range) (hbound : ∀ t ∈ bound, t.before range.start = true) (pod : String)
    {answer answer' : Option Response} (h : LooksBack bound answer answer') :
    PodLog.matching f ⟨pod, Exchange.bodyOf? answer'⟩ =
      PodLog.matching f ⟨pod, Exchange.bodyOf? answer⟩ := by
  cases h with
  | whole => rfl
  | lost t => rfl
  | @since t r r' hstatus hbody =>
    simp only [Exchange.bodyOf?, hstatus]
    split
    · rfl
    · exact PodLog.matching_since hf (hbound t rfl) pod hbody

theorem twins_fetch {f : LineFilter} {range : TimeRange} {o : LogOptions} {ns pod : String}
    (hf : f.window = some range)
    (hcut : ∀ r, PodLog.request? identity o ns pod = some r →
      ∀ t ∈ cut r, t.before range.start = true) :
    Dialogue.Twins (fun r => LooksBack (cut r)) (fun l l' => l'.matching f = l.matching f)
      (PodLog.fetch identity o ns pod) (PodLog.fetch identity o ns pod) := by
  rw [PodLog.fetch]
  cases hr : PodLog.request? identity o ns pod with
  | none => exact .done rfl
  | some r =>
    refine .send fun answer answer' h => .done ?_
    exact matching_of_looksBack hf (hcut r hr) pod h

/-- **The logs of all pods come to the same lines.** -/
theorem merge_collected (hwv : w.Alongside v S fun r => LooksBack (cut r)) {s : σ} {t : τ}
    (hst : S s t) (cache : CatalogCache) {f : LineFilter} {range : TimeRange} {o : LogOptions}
    {ns : String} {pods : List String} (hf : f.window = some range)
    (hcut : ∀ pod ∈ pods, ∀ r, PodLog.request? identity o ns pod = some r →
      ∀ t ∈ cut r, t.before range.start = true) :
    merge f ((collected identity o ns pods).run v cache t).result =
      merge f ((collected identity o ns pods).run w cache s).result := by
  have htwins : List.Forall₂ (Dialogue.Twins (fun r => LooksBack (cut r))
      (fun l l' => l'.matching f = l.matching f)) (pods.map (PodLog.fetch identity o ns))
      (pods.map (PodLog.fetch identity o ns)) := by
    rw [List.forall₂_map_left_iff, List.forall₂_map_right_iff, List.forall₂_same]
    exact fun pod hpod => twins_fetch hf (hcut pod hpod)
  obtain ⟨hlogs, -, -⟩ := (Dialogue.Twins.collect htwins).run hwv cache hst
  have hlines (logs logs' : List PodLog)
      (h : List.Forall₂ (fun l l' => PodLog.matching f l' = PodLog.matching f l) logs logs') :
      logs'.flatMap (·.matching f) = logs.flatMap (·.matching f) := by
    induction h with
    | nil => rfl
    | cons hl _ ih => rw [List.flatMap_cons, List.flatMap_cons, hl, ih]
  exact congrArg byTime (hlines _ _ hlogs)

theorem result_gather (w : World σ) (cache : CatalogCache) (s : σ) (range : TimeRange)
    (f : LineFilter) (group : PodGroup) :
    ((gather identity q range f group).attempt.run w cache s).result =
      .ok (merge f ((collected identity (.ofBatch q range.start (w.instant s)) q.ns
        group.pods).run w cache s).result) :=
  (Operation.run_ofDialogue_map w cache s _ (merge f)).1

theorem result_lines_of_error (w : World σ) (cache : CatalogCache) (s : σ) {e : GatewayError}
    (h : LineFilter.ofPattern q.filter (some (window q (w.instant s))) = .error e) :
    ((lines identity q).attempt.run w cache s).result = .error e := by
  let rest (found : Except GatewayError LineFilter) : Operation (List LogLine) :=
    Operation.ofExcept found >>= fun f => PodGroup.resolve identity q.resource q.ns q.name >>=
      gather identity q (window q (w.instant s)) f
  have hrun : (lines identity q).attempt.run w cache s =
      (rest (LineFilter.ofPattern q.filter (some (window q (w.instant s))))).attempt.run
        w cache s := rfl
  rw [hrun, h]
  rfl

theorem nanos_window (h : ∀ r ∈ q.timeRange, r.start.nanos < Instant.nanosPerSecond)
    (now : Instant) : (window q now).start.nanos < Instant.nanosPerSecond := by
  rw [window]
  cases hrange : q.timeRange with
  | none =>
    simp only [Option.getD_none, TimeRange.lastHour, Instant.addNanos, Instant.nanosPerSecond_eq]
    omega
  | some r => exact h r hrange

/-- When the logs are asked for: the clock is read once the pods are known. -/
def askedAt (w : World σ) (cache : CatalogCache) (s : σ) (identity : Identity) (q : LogsQuery) :
    Instant :=
  w.instant ((PodGroup.resolve identity q.resource q.ns q.name).attempt.run w cache s).state

/-- The requests for which an API server looks back to an instant only are those for the logs of the
batch, and the instant lies the number of seconds before that these ask for. -/
structure IsAsked (w : World σ) (cache : CatalogCache) (s : σ) (identity : Identity)
    (q : LogsQuery) (cut : Request → Option Instant) : Prop where
  /-- What is read to find the pods is no log. -/
  lookup : ∀ x ∈ (PodGroup.resolve identity q.resource q.ns q.name).attempt.exchanges w cache s,
    cut x.1 = none
  /-- The log of each pod is asked for from the same instant on. -/
  logs : ∀ group,
    ((PodGroup.resolve identity q.resource q.ns q.name).attempt.run w cache s).result = .ok group →
    ∀ start now, start = (window q (w.instant s)).start → now = askedAt w cache s identity q →
    ∀ pod ∈ group.pods, ∀ r,
      PodLog.request? identity (.ofBatch q start now) q.ns pod = some r →
        cut r = (LogOptions.since? start now).map now.secondsBefore

/-- **A batch is the same from an API server that looks back.** -/
theorem result_lines_eq (hwv : w.Alongside v S fun r => LooksBack (cut r)) {s : σ} {t : τ}
    (hst : S s t) {cache : CatalogCache} (hasked : IsAsked w cache s identity q cut)
    (hstart : ∀ r ∈ q.timeRange, r.start.nanos < Instant.nanosPerSecond)
    (hnow : (askedAt w cache s identity q).nanos < Instant.nanosPerSecond) :
    ((lines identity q).attempt.run v cache t).result =
      ((lines identity q).attempt.run w cache s).result := by
  have hclock : window q (v.instant t) = window q (w.instant s) := by rw [hwv.instant hst]
  cases hf : LineFilter.ofPattern q.filter (some (window q (w.instant s))) with
  | error e =>
    rw [result_lines_of_error v cache t (hclock ▸ hf), result_lines_of_error w cache s hf]
  | ok f =>
    -- the pods are found in the same way, and then the clocks show the same
    obtain ⟨hresult, hcache, hstates⟩ := Dialogue.run_eq_of_answers hwv
      (PodGroup.resolve identity q.resource q.ns q.name).attempt cache hst fun x hx answer h => by
        rw [hasked.lookup x hx] at h
        exact h.eq
    rw [(run_lines identity cache hclock hf).1, (run_lines identity cache rfl hf).1,
      Operation.attempt_bind, Dialogue.result_run_bind, Dialogue.result_run_bind, ← hresult,
      ← hcache]
    cases hgroup : ((PodGroup.resolve identity q.resource q.ns q.name).attempt.run
        w cache s).result with
    | error e => rfl
    | ok group =>
      rw [Operation.next, result_gather, result_gather, ← hwv.instant hstates]
      refine congrArg Except.ok (merge_collected hwv hstates _ (LineFilter.window_ofPattern hf) ?_)
      intro pod hpod r hr t ht
      rw [hasked.logs group hgroup _ _ rfl rfl pod hpod r hr] at ht
      obtain ⟨n, hn, rfl⟩ := Option.map_eq_some_iff.1 ht
      exact (LogOptions.looksBack_of_since? (nanos_window hstart _) hnow hn).2.1

/-- **Looking back hides nothing.**  The number of seconds that an API server is asked to look back
leads to an instant strictly before the window, and by a second at most; it is left out only if the
window starts less than a second ago.  A batch is the same from an API server that leaves out all
lines from before that instant as from one that sends the whole logs. -/
theorem nothing_is_hidden :
    (∀ start now : Instant, start.nanos < Instant.nanosPerSecond →
      now.nanos < Instant.nanosPerSecond →
      (∀ n, LogOptions.since? start now = some n → 1 < n ∧
        (now.secondsBefore n).before start = true ∧
        start.nanosSince (now.secondsBefore n) ≤ Instant.nanosPerSecond) ∧
      (LogOptions.since? start now = none ↔
        now.nanosSince start < Instant.nanosPerSecond)) ∧
    ∀ {σ τ : Type} (w : World σ) (v : World τ) (S : σ → τ → Prop) (cut : Request → Option Instant)
      (cache : CatalogCache) (s : σ) (t : τ) (identity : Identity) (q : LogsQuery),
      (w.Alongside v S fun r => LooksBack (cut r)) → S s t → IsAsked w cache s identity q cut →
      (∀ r ∈ q.timeRange, r.start.nanos < Instant.nanosPerSecond) →
      (askedAt w cache s identity q).nanos < Instant.nanosPerSecond →
      ((lines identity q).attempt.run v cache t).result =
        ((lines identity q).attempt.run w cache s).result := by
  constructor
  · intro start now hstart hnow
    exact ⟨fun n hn => LogOptions.looksBack_of_since? hstart hnow hn, LogOptions.since?_eq_none_iff⟩
  · intro σ τ w v S cut cache s t identity q hwv hst hasked hstart hnow
    exact result_lines_eq hwv hst hasked hstart hnow

/-- A request for the last thirty seconds of a log. -/
def asksHalfMinute (r : Request) : Bool :=
  r.uri.path = "/api/v1/namespaces/default/pods/web/log" &&
    r.uri.query = some "&sinceSeconds=30&timestamps=true"

/-- An API server with one pod, at one minute past twelve.  Lines may be missing from its log when
the last thirty seconds are asked for. -/
def atOneMinutePast (log : Bool → String) : World Unit :=
  { World.answering fun r =>
      if r.uri.path = "/api/v1/namespaces/default/pods/web" then
        some (.text 200 "\x7b\"metadata\":\x7b\"name\":\"web\"\x7d\x7d")
      else some (.text 200 (log (asksHalfMinute r)))
    with instant := fun _ => ⟨1704067260, 0⟩ }

/-- A query for what was logged after the middle of the thirtieth second. -/
def askForHalfMinute : LogsQuery :=
  ⟨"pod", "default", "web", "", "", 0, false,
    some ⟨⟨1704067230, 500000000⟩, ⟨1704067300, 0⟩⟩⟩

/-- The API server looks back 30 seconds.  Of three lines it leaves out the first; the second one is
still before the window, and the third is the batch in either case. -/
theorem nothing_is_hidden_halfMinute :
    let cache : CatalogCache := ⟨⟨[.ofEntry "v1" "Pod" "pods" true]⟩, 0, 1⟩
    let late := "2024-01-01T00:00:30.25Z b\n2024-01-01T00:00:31Z c\n"
    let w := atOneMinutePast fun _ => "2024-01-01T00:00:29Z a\n" ++ late
    let v := atOneMinutePast fun back =>
      if back then late else "2024-01-01T00:00:29Z a\n" ++ late
    let cut (r : Request) : Option Instant :=
      if asksHalfMinute r then some ⟨1704067230, 0⟩ else none
    (w.Alongside v (fun _ _ => True) fun r => LooksBack (cut r)) ∧
      IsAsked w cache () ⟨"alice", []⟩ askForHalfMinute cut ∧
      ((lines ⟨"alice", []⟩ askForHalfMinute).attempt.run v cache ()).result =
        ((lines ⟨"alice", []⟩ askForHalfMinute).attempt.run w cache ()).result ∧
      ((lines ⟨"alice", []⟩ askForHalfMinute).attempt.run w cache ()).result.toOption.map
        (List.map LogLine.body) = some ["c"] := by
  intro cache late w v cut
  have hstatus (log : String) : (Response.text 200 log).status = 200 := rfl
  have hending (log : String) : (Response.text 200 log).body.ending = .complete := rfl
  have hwv : w.Alongside v (fun _ _ => True) fun r => LooksBack (cut r) := by
    refine ⟨fun _ => rfl, fun _ => rfl, fun _ => ⟨rfl, trivial⟩, fun {s t} r _ => ⟨?_, trivial⟩⟩
    by_cases hback : asksHalfMinute r = true
    · have hpath : r.uri.path = "/api/v1/namespaces/default/pods/web/log" := by
        simp only [asksHalfMinute, Bool.and_eq_true, decide_eq_true_eq] at hback
        exact hback.1
      have hpod : r.uri.path ≠ "/api/v1/namespaces/default/pods/web" := by
        rw [hpath]
        decide
      simp only [w, v, cut, atOneMinutePast, World.answering, hback, if_neg hpod, if_true]
      refine .since ((hstatus _).trans (hstatus _).symm) ⟨by decide +kernel, ?_⟩
      exact (hending _).trans (hending _).symm
    · simp only [w, v, cut, atOneMinutePast, World.answering, hback]
      exact .whole _
  have hgroup : ((PodGroup.resolve ⟨"alice", []⟩ "pod" "default" "web").attempt.run
      w cache ()).result = .ok ⟨["web"], []⟩ := by decide +kernel
  have hasked : IsAsked w cache () ⟨"alice", []⟩ askForHalfMinute cut := by
    refine ⟨by decide +kernel, fun group h start now hstart hnow pod hpod r hr => ?_⟩
    obtain rfl : group = ⟨["web"], []⟩ := Except.ok.inj (h.symm.trans hgroup)
    obtain rfl := List.mem_singleton.1 hpod
    have hstart : start = ⟨1704067230, 500000000⟩ := hstart
    have hnow : now = ⟨1704067260, 0⟩ := hnow
    have hcut : (PodLog.request? ⟨"alice", []⟩ (.ofBatch askForHalfMinute
        ⟨1704067230, 500000000⟩ ⟨1704067260, 0⟩) "default" "web").map cut =
          some (some ⟨1704067230, 0⟩) := by decide +kernel
    have hback : (LogOptions.since? ⟨1704067230, 500000000⟩ ⟨1704067260, 0⟩).map
        (Instant.secondsBefore ⟨1704067260, 0⟩) = some ⟨1704067230, 0⟩ := by decide +kernel
    subst hstart hnow
    have hr : PodLog.request? ⟨"alice", []⟩ (.ofBatch askForHalfMinute
        ⟨1704067230, 500000000⟩ ⟨1704067260, 0⟩) "default" "web" = some r := hr
    rw [hr] at hcut
    rw [hback]
    exact Option.some.inj hcut
  refine ⟨hwv, hasked, ?_, by decide +kernel⟩
  exact nothing_is_hidden.2 w v _ cut cache () () ⟨"alice", []⟩ askForHalfMinute hwv trivial hasked
    (by decide) (by decide)

end LogBatch

end ClusterGateway

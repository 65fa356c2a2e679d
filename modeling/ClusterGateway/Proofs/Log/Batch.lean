import ClusterGateway.Log.Batch
import ClusterGateway.Proofs.Dialogue.Course
import ClusterGateway.Proofs.Order.StableSort

/-!
# What a batch of log lines holds

The logs of all pods are asked for at the same time, each by its own request
(`PodLog.ArrivedFor`).  `PodLog.wanted` are the lines of one pod that a query asks for, told without
the other pods.

* `Instant.isOrder_notAfter` : instants are ordered, and only an instant itself is not before and
  not after it.
* `LogBatch.arrived` : whoever goes on first, the logs are those of the pods in their order, each
  with what came back for its own request.
* `LogBatch.lines_are_sorted` : **a batch is the stable sort by time of the lines that each pod has
  on its own**.  When the API server answers by the request alone, no order of events changes it,
  and a pod whose log cannot be opened takes away only its own lines.
-/

namespace ClusterGateway

open Http

/-! ### Instants -/

namespace Instant

theorem notAfter_iff {s t : Instant} :
    s.notAfter t = true ↔ s.seconds < t.seconds ∨ s.seconds = t.seconds ∧ s.nanos ≤ t.nanos := by
  simp only [notAfter, before, Bool.not_eq_true', Bool.or_eq_false_iff, Bool.and_eq_false_iff,
    decide_eq_false_iff_not, beq_eq_false_iff_ne]
  omega

theorem isOrder_notAfter : IsOrder notAfter where
  total s t := by
    rw [Bool.or_eq_true, notAfter_iff, notAfter_iff]
    omega
  trans s t u hst htu := by
    rw [notAfter_iff] at hst htu ⊢
    omega
  antisymm s t hst hts := by
    rw [notAfter_iff] at hst hts
    obtain ⟨seconds, nanos⟩ := s
    obtain ⟨seconds', nanos'⟩ := t
    simp only [mk.injEq] at hst hts ⊢
    omega

end Instant

/-! ### The lines of one pod -/

theorem LineFilter.exists_ofPattern {pattern : String}
    (h : pattern = "" ∨ ∃ r, Regex.compile? pattern = some r) (window : Option TimeRange) :
    ∃ f, LineFilter.ofPattern pattern window = .ok f := by
  rw [LineFilter.ofPattern]
  rcases h with hempty | ⟨r, hr⟩
  · exact ⟨_, if_pos hempty⟩
  · split
    · exact ⟨_, rfl⟩
    · rw [hr]
      exact ⟨_, rfl⟩

/-- Whether a query asks for a line: its time lies strictly inside the window, and its body matches
the pattern if there is one. -/
def LogsQuery.wants (q : LogsQuery) (range : TimeRange) (line : LogLine) : Bool :=
  range.start.before line.time && line.time.before range.stop &&
    (q.filter = "" || (Regex.compile? q.filter).any fun r => r.isMatch line.body)

namespace PodLog

/-- The lines of a log that a query asks for, in the order in which they arrive. -/
def wanted (q : LogsQuery) (range : TimeRange) (l : PodLog) : List LogLine :=
  (l.rawLines.filterMap fun raw => LogLine.parse? raw l.pod).filter (q.wants range)

/-- How the log of a pod comes about: its own request is answered, or cannot be written. -/
inductive ArrivedFor (past : List Exchanged) (identity : Identity) (o : LogOptions)
    (ns pod : String) : PodLog → Prop
  /-- What comes back for the request; nothing for a failure. -/
  | answered {r : Request} {answer : Option Response} : request? identity o ns pod = some r →
    (r, answer) ∈ past → ArrivedFor past identity o ns pod ⟨pod, Exchange.bodyOf? answer⟩
  /-- There is no such request. -/
  | unwritable : request? identity o ns pod = none → ArrivedFor past identity o ns pod ⟨pod, none⟩

/-- The log of a pod when the API server answers by the request alone. -/
def answeredBy (f : Request → Option Response) (identity : Identity) (o : LogOptions)
    (ns pod : String) : PodLog :=
  ⟨pod, (request? identity o ns pod).bind fun r => Exchange.bodyOf? (f r)⟩

variable {identity : Identity} {o : LogOptions} {ns pod : String} {l : PodLog}
variable {past : List Exchanged} {q : LogsQuery} {range : TimeRange}

theorem ArrivedFor.pod_eq (h : ArrivedFor past identity o ns pod l) : l.pod = pod := by
  cases h <;> rfl

theorem lasting_arrivedFor : Lasting (ArrivedFor · identity o ns pod l) := by
  rintro past later hs h
  cases h with
  | answered hr hmem => exact .answered hr (hs hmem)
  | unwritable hr => exact .unwritable hr

theorem onlySends_fetch (identity : Identity) (o : LogOptions) (ns pod : String) :
    (fetch identity o ns pod).OnlySends := by
  rw [fetch]
  split
  · exact (Dialogue.onlySends_request _).bind fun answer => .done _
  · exact .done _

theorem alone_fetch (f : Request → Option Response) (identity : Identity) (o : LogOptions)
    (ns pod : String) :
    (fetch identity o ns pod).alone f = answeredBy f identity o ns pod := by
  rw [fetch, answeredBy]
  cases request? identity o ns pod <;> rfl

theorem meets_fetch_arrived :
    (fetch identity o ns pod).Meets .free
      (fun past l => ArrivedFor past identity o ns pod l) past := by
  rw [fetch]
  split
  · rename_i r hr
    refine ⟨trivial, fun answer _ => ?_⟩
    exact .answered hr (List.mem_append_right past (List.mem_singleton.2 rfl))
  · rename_i hr
    exact .unwritable hr

theorem wanted_pod {line : LogLine} (h : line ∈ l.wanted q range) : line.pod = l.pod := by
  obtain ⟨raw, -, hparse⟩ := List.mem_filterMap.1 (List.mem_of_mem_filter h)
  exact LogLine.pod_of_parse? hparse

theorem wanted_of_body_eq_none (h : l.body = none) : l.wanted q range = [] := by
  rw [wanted, rawLines, h]
  rfl

theorem matching_eq_wanted {f : LineFilter}
    (hf : LineFilter.ofPattern q.filter (some range) = .ok f) (l : PodLog) :
    l.matching f = l.wanted q range := by
  have haccepts : f.accepts = q.wants range := by
    funext line
    rw [LineFilter.ofPattern] at hf
    split at hf
    · rename_i hempty
      cases hf
      simp [LineFilter.accepts, LogsQuery.wants, TimeRange.contains, hempty]
    · rename_i hne
      split at hf
      · rename_i r hr
        cases hf
        simp [LineFilter.accepts, LogsQuery.wants, TimeRange.contains, hne, hr]
      · cases hf
  rw [matching, wanted, haccepts]

end PodLog

/-! ### The lines of all pods -/

namespace LogBatch

open PodLog

variable {identity : Identity} {o : LogOptions} {ns : String} {pods : List String}

theorem isStableSort_byTime (lines : List LogLine) :
    IsStableSort LogLine.time Instant.notAfter (byTime lines) lines :=
  isStableSort_mergeSort Instant.isOrder_notAfter lines

theorem merge_eq {q : LogsQuery} {range : TimeRange} {f : LineFilter}
    (hf : LineFilter.ofPattern q.filter (some range) = .ok f) (logs : List PodLog) :
    merge f logs = byTime (logs.flatMap (wanted q range)) := by
  rw [merge]
  exact congrArg byTime (List.flatMap_congr fun l _ => matching_eq_wanted hf l)

/-- **A log that cannot be opened** takes its own lines away, and the others stay as they are. -/
theorem byTime_without (q : LogsQuery) (range : TimeRange) (before after : List PodLog)
    (l : PodLog) :
    (byTime ((before ++ ⟨l.pod, none⟩ :: after).flatMap (wanted q range))).Sublist
        (byTime ((before ++ l :: after).flatMap (wanted q range))) ∧
      (byTime ((before ++ l :: after).flatMap (wanted q range))).Perm
        (byTime ((before ++ ⟨l.pod, none⟩ :: after).flatMap (wanted q range)) ++
          l.wanted q range) := by
  have hnone : wanted q range ⟨l.pod, none⟩ = [] := wanted_of_body_eq_none rfl
  simp only [List.flatMap_append, List.flatMap_cons, hnone, List.nil_append]
  constructor
  · refine (isStableSort_byTime _).sublist Instant.isOrder_notAfter (isStableSort_byTime _) ?_
    exact List.Sublist.append_left (List.sublist_append_right _ _) _
  · refine (isStableSort_byTime _).perm.trans ?_
    refine List.Perm.trans ?_ ((isStableSort_byTime _).perm.symm.append_right _)
    rw [List.append_assoc]
    exact List.Perm.append_left _ List.perm_append_comm

/-! ### Courses of a batch -/

/-- The logs of all pods at the same time. -/
def collected (identity : Identity) (o : LogOptions) (ns : String) (pods : List String) :
    Dialogue (List PodLog) := .collect (pods.map (fetch identity o ns))

/-- **The logs of the pods in their order**, each with what came back for its own request. -/
theorem arrived {σ : Type} (w : World σ) (cache : CatalogCache) (s : σ) (identity : Identity)
    (o : LogOptions) (ns : String) (pods : List String) :
    List.Forall₂ (ArrivedFor ((collected identity o ns pods).exchanges w cache s) identity o ns)
      pods ((collected identity o ns pods).run w cache s).result := by
  have hcollect : (collected identity o ns pods).Meets .free
      (fun past logs => List.Forall₂ (ArrivedFor past identity o ns) pods logs) [] := by
    refine Dialogue.meets_collect_map Terms.lasting_free (fun _ _ => lasting_arrivedFor) ?_
    exact fun pod _ => meets_fetch_arrived
  exact hcollect.result_run_free w cache s

/-- **Neither the order of the steps nor that of the ends matters** when the API server answers by
the request alone. -/
theorem result_collected {σ : Type} {w : World σ} {f : Request → Option Response}
    (hw : w.AnswersBy f) (cache : CatalogCache) (s : σ) (identity : Identity) (o : LogOptions)
    (ns : String) (pods : List String) :
    ((collected identity o ns pods).run w cache s).result =
      pods.map (answeredBy f identity o ns) := by
  rw [collected, Dialogue.result_collect hw]
  · rw [List.map_map]
    exact List.map_congr_left fun pod _ => alone_fetch f identity o ns pod
  · intro d hd
    obtain ⟨pod, -, rfl⟩ := List.mem_map.1 hd
    exact onlySends_fetch identity o ns pod

/-- The rest of a batch, once the pods are known: their logs are asked for and merged. -/
def gather (identity : Identity) (q : LogsQuery) (range : TimeRange) (f : LineFilter)
    (group : PodGroup) : Operation (List LogLine) := do
  let now ← Operation.ofDialogue .now
  let logs ← Operation.ofDialogue (collected identity (.ofBatch q range.start now) q.ns group.pods)
  return merge f logs

section Run

variable {σ : Type} {w : World σ} {cache : CatalogCache} {s : σ} {q : LogsQuery}
variable {range : TimeRange} {f : LineFilter} {group : PodGroup}

theorem run_lines (identity : Identity) (cache : CatalogCache)
    (hr : window q (w.instant s) = range)
    (hf : LineFilter.ofPattern q.filter (some range) = .ok f) :
    ((lines identity q).attempt.run w cache s).result =
        ((PodGroup.resolve identity q.resource q.ns q.name >>=
          gather identity q range f).attempt.run w cache s).result ∧
      (lines identity q).attempt.exchanges w cache s =
        (PodGroup.resolve identity q.resource q.ns q.name >>=
          gather identity q range f).attempt.exchanges w cache s := by
  subst hr
  let rest (found : Except GatewayError LineFilter) : Operation (List LogLine) :=
    Operation.ofExcept found >>= fun f => PodGroup.resolve identity q.resource q.ns q.name >>=
      gather identity q (window q (w.instant s)) f
  let filter := LineFilter.ofPattern q.filter (some (window q (w.instant s)))
  have hrun : (lines identity q).attempt.run w cache s = (rest filter).attempt.run w cache s := rfl
  have hexchanges : (lines identity q).attempt.exchanges w cache s =
      (rest filter).attempt.exchanges w cache s := rfl
  rw [hrun, hexchanges, show filter = .ok f from hf]
  exact ⟨rfl, rfl⟩

/-- **What a batch comes to**: from some state on the logs of the pods are collected, and what
arrives is merged. -/
theorem exists_collected (hr : window q (w.instant s) = range)
    (hf : LineFilter.ofPattern q.filter (some range) = .ok f)
    (hgroup : ((PodGroup.resolve identity q.resource q.ns q.name).attempt.run w cache s).result =
      .ok group) :
    ∃ now cache' s', ∀ d, d = collected identity (.ofBatch q range.start now) q.ns group.pods →
      ((lines identity q).attempt.run w cache s).result =
          .ok (merge f (d.run w cache' s').result) ∧
        d.exchanges w cache' s' ⊆ (lines identity q).attempt.exchanges w cache s := by
  obtain ⟨hresult, hexchanges⟩ := run_lines identity cache hr hf
  obtain ⟨cache', s', hgathered, hlater⟩ :=
    Operation.run_bind (g := gather identity q range f) hgroup
  refine ⟨w.instant s', cache', s', fun d hd => ?_⟩
  obtain ⟨hmerged, hasked⟩ := Operation.run_ofDialogue_map w cache' s' d (merge f)
  -- before the logs are collected the clock is read, which is no exchange
  have hgather : (gather identity q range f group).attempt.exchanges w cache' s' =
      d.exchanges w cache' s' := by
    rw [← hasked, hd]
    rfl
  have hlast : ((gather identity q range f group).attempt.run w cache' s').result =
      .ok (merge f (d.run w cache' s').result) := by
    rw [← hmerged, hd]
    rfl
  refine ⟨(hresult.trans hgathered).trans hlast, ?_⟩
  rw [hexchanges, hlater, hgather]
  exact List.subset_append_right _ _

end Run

/-- **A batch is the stable sort by time of the lines that each pod has on its own.**  The logs are
those of the pods in their order, whoever answers first, and if the API server answers by the
request alone they depend on nothing else.  Every line names its pod, and a log that cannot be
opened takes away its own lines and nothing more. -/
theorem lines_are_sorted {σ : Type} {w : World σ} {cache : CatalogCache} {s : σ} {q : LogsQuery}
    {group : PodGroup} (hpattern : q.filter = "" ∨ ∃ r, Regex.compile? q.filter = some r)
    (hgroup : ((PodGroup.resolve identity q.resource q.ns q.name).attempt.run w cache s).result =
      .ok group) :
    let range := window q (w.instant s)
    ∃ (now : Instant) (logs : List PodLog) (out : List LogLine),
      ((lines identity q).attempt.run w cache s).result = .ok out ∧
      List.Forall₂ (ArrivedFor ((lines identity q).attempt.exchanges w cache s) identity
        (.ofBatch q range.start now) q.ns) group.pods logs ∧
      (∀ f, w.AnswersBy f →
        logs = group.pods.map (answeredBy f identity (.ofBatch q range.start now) q.ns)) ∧
      IsStableSort LogLine.time Instant.notAfter out (logs.flatMap (wanted q range)) ∧
      (∀ l ∈ logs, ∀ line ∈ l.wanted q range, line.pod = l.pod) ∧
      ∀ before l after, logs = before ++ l :: after → ∃ rest,
        IsStableSort LogLine.time Instant.notAfter rest
          ((before ++ ⟨l.pod, none⟩ :: after).flatMap (wanted q range)) ∧
        rest.Sublist out ∧ out.Perm (rest ++ l.wanted q range) := by
  intro range
  obtain ⟨f, hf⟩ := LineFilter.exists_ofPattern hpattern (some range)
  obtain ⟨now, cache', s', hcollected⟩ := exists_collected rfl hf hgroup
  obtain ⟨hresult, hasked⟩ := hcollected _ rfl
  have harrived := arrived w cache' s' identity (.ofBatch q range.start now) q.ns group.pods
  have hanswered (f : Request → Option Response) (hw : w.AnswersBy f) :=
    result_collected hw cache' s' identity (.ofBatch q range.start now) q.ns group.pods
  -- merging comes to sorting the wanted lines of all logs by their times
  rw [merge_eq hf] at hresult
  refine ⟨now, _, _, hresult, ?_, hanswered, isStableSort_byTime _, ?_, ?_⟩
  · exact harrived.imp fun pod l h => lasting_arrivedFor hasked h
  · exact fun l _ line hline => wanted_pod hline
  · intro before l after hsplit
    rw [hsplit]
    exact ⟨_, isStableSort_byTime _, byTime_without q range before after l⟩

/-- A deployment with two pods; the log of the first cannot be opened, and the second has not
written its lines in the order of their times. -/
def answerTwoPods (r : Request) : Option Response :=
  if r.uri.path = "/apis/apps/v1/namespaces/default/deployments/web" then
    some (.text 200 ("\x7b\"spec\":\x7b\"selector\":" ++
      "\x7b\"matchLabels\":\x7b\"app\":\"web\"\x7d\x7d\x7d\x7d"))
  else if r.uri.path = "/api/v1/namespaces/default/pods" then
    some (.text 200 ("\x7b\"items\":[\x7b\"metadata\":\x7b\"name\":\"web-1\"\x7d\x7d," ++
      "\x7b\"metadata\":\x7b\"name\":\"web-2\"\x7d\x7d]\x7d"))
  else if r.uri.path = "/api/v1/namespaces/default/pods/web-2/log" then
    some (.text 200 ("2024-01-01T00:00:02Z GET /b\n2024-01-01T00:00:01Z GET /a\n" ++
      "2024-01-01T00:00:01Z PUT /a\n"))
  else none

/-- A query for the reading accesses within a minute. -/
def askForReads : LogsQuery :=
  ⟨"deployment.apps", "default", "web", "", "GET", 0, false,
    some ⟨⟨1704067200, 0⟩, ⟨1704067260, 0⟩⟩⟩

/-- There is a log for each of the two pods, and the batch is the sort of their lines. -/
theorem lines_are_sorted_twoPods :
    let cache : CatalogCache := ⟨⟨[.ofEntry "apps/v1" "Deployment" "deployments" true]⟩, 0, 1⟩
    ((PodGroup.resolve ⟨"alice", []⟩ "deployment.apps" "default" "web").attempt.run
      (.answering answerTwoPods) cache ()).result = .ok ⟨["web-1", "web-2"], []⟩ ∧
    (∃ r, Regex.compile? "GET" = some r) ∧
    ∃ (logs : List PodLog) (out : List LogLine),
      ((lines ⟨"alice", []⟩ askForReads).attempt.run (.answering answerTwoPods) cache ()).result =
        .ok out ∧
      logs.map PodLog.pod = ["web-1", "web-2"] ∧
      IsStableSort LogLine.time Instant.notAfter out (logs.flatMap
        (wanted askForReads ⟨⟨1704067200, 0⟩, ⟨1704067260, 0⟩⟩)) := by
  intro cache
  have hgroup : ((PodGroup.resolve ⟨"alice", []⟩ "deployment.apps" "default" "web").attempt.run
      (.answering answerTwoPods) cache ()).result = .ok ⟨["web-1", "web-2"], []⟩ := by
    decide +kernel
  have hpattern : ∃ r, Regex.compile? "GET" = some r :=
    Option.isSome_iff_exists.1 (by decide +kernel)
  obtain ⟨now, logs, out, hresult, harrived, -, hsorted, -, -⟩ :=
    lines_are_sorted (q := askForReads) (.inr hpattern) hgroup
  refine ⟨hgroup, hpattern, logs, out, hresult, ?_, hsorted⟩
  have hpods : List.Forall₂ (· = ·) ["web-1", "web-2"] (logs.map PodLog.pod) :=
    List.forall₂_map_right_iff.2 (harrived.imp fun pod l h => h.pod_eq.symm)
  rw [List.forall₂_eq_eq_eq] at hpods
  exact hpods.symm

end LogBatch

end ClusterGateway

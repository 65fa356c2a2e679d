import ClusterGateway.Proofs.Table.FanOut
import ClusterGateway.Proofs.Table.Kept
import ClusterGateway.Proofs.Text.Pieces

/-!
# Tables of several namespaces

A list of namespaces that is put together from two lists has the list requests of the first one and
then those of the second (`TableFetch.plan_append`).  What comes of the first of each object in both
(`TableMerge.firstOfEach_append`) is what comes of the first list, and then of the second what the
first one does not show.

* `TableMerge.mergeTables_append` : **tables that are merged together are merged one after the
  other**, where their columns are the same and the filter asks no second list.
* `TableFetch.survivors_append` : what the answers to some requests and then to others come to.
* `TableFetch.joined_lists` : **the table of several namespaces is the ordered union of the tables
  of its parts**; a part that does not answer at all makes no difference.
-/

namespace ClusterGateway

open Http Json

/-! ### The list requests -/

theorem Text.pieces_append (a b : String) :
    pieces ',' (a ++ "," ++ b) = pieces ',' a ++ pieces ',' b := by
  have hlist : (a ++ "," ++ b).toList = a.toList ++ ',' :: b.toList := by
    simp [String.toList_append]
  rw [pieces, hlist, piecesChars_append_cons, List.map_append]
  rfl

namespace TableFetch

variable {d : Descriptor} {a b : String} {filter : TableFilter}

/-- **The list requests of two lists of namespaces.** -/
theorem plan_append (hd : d.namespaced = true) (a b : String) (filter : TableFilter) :
    plan d (a ++ "," ++ b) filter = plan d a filter ++ plan d b filter := by
  have hnamespaces : namespaces d (a ++ "," ++ b) = namespaces d a ++ namespaces d b := by
    rw [namespaces, namespaces, namespaces, if_pos hd, if_pos hd, if_pos hd, Text.pieces_append,
      List.map_append]
  rw [plan, hnamespaces, List.flatMap_append]
  rfl

theorem namespaces_ne_nil (d : Descriptor) (list : String) : namespaces d list ≠ [] := by
  rw [namespaces]
  split
  · simp [Text.pieces, Text.piecesChars_ne_nil]
  · exact List.cons_ne_nil _ _

theorem plan_eq_nil_iff {list : String} : plan d list filter = [] ↔ parameters filter = [] := by
  obtain ⟨ns, nss, hns⟩ := List.exists_cons_of_ne_nil (namespaces_ne_nil d list)
  rw [plan, hns]
  constructor
  · intro h
    rw [List.flatMap_cons, List.append_eq_nil_iff, List.map_eq_nil_iff] at h
    exact h.1
  · intro h
    simp [h]

end TableFetch

/-! ### Tables that are merged -/

/-- A table is the ordered union of two others: it has the columns of both, and the rows of the
first one with those of the second one whose objects the first one does not show. -/
structure Table.IsUnion (t ta tb : Table) : Prop where
  /-- The name is that of both. -/
  name : t.name = ta.name ∧ t.name = tb.name
  /-- The columns are those of both. -/
  columns : t.columns = ta.columns ∧ t.columns = tb.columns
  /-- The rows of the first one, then what it does not show. -/
  rows : t.rows = ta.rows ++ tb.rows.filter fun row => !ta.shows row

namespace TableMerge

variable {d : Descriptor} {wide : Bool} {rf : RowFilter} {fs gs : List Fragment}

theorem definitions_eq {columns : List ColumnDefinition} (hne : columns ≠ []) (hfs : fs ≠ [])
    (h : ∀ f ∈ fs, f.table.columns = columns) : definitions fs = columns := by
  cases fs with
  | nil => exact absurd rfl hfs
  | cons f fs =>
    have hf : f.table.columns = columns := h f List.mem_cons_self
    simp [definitions, hf, hne]

/-- **Tables that are merged together** make the ordered union of the tables that they make apart,
where the columns are the same and no second list is asked. -/
theorem mergeTables_append (hrf : AsksOnce rf)
    (hfs : definitions (fs ++ gs) = definitions fs) (hgs : definitions (fs ++ gs) = definitions gs)
    {ta tb : Table} (ha : mergeTables d wide rf fs = .ok ta)
    (hb : mergeTables d wide rf gs = .ok tb) :
    ∃ t, mergeTables d wide rf (fs ++ gs) = .ok t ∧ t.IsUnion ta tb := by
  obtain ⟨rows, hrows, rfl⟩ := mergeTables_eq_ok_iff.1 ha
  obtain ⟨more, hmore, rfl⟩ := mergeTables_eq_ok_iff.1 hb
  have hall := keyedRows?_append_eq_some_iff.2 ⟨rows, more, hrows, hmore, rfl⟩
  refine ⟨_, mergeTables_eq_ok_iff.2 ⟨_, hall, rfl⟩, ⟨rfl, rfl⟩, ?_, ?_⟩
  · rw [← hfs, ← hgs]
    exact ⟨rfl, rfl⟩
  · dsimp only
    rw [← hfs, ← hgs, mergedRows_eq hrf (selectedKeys (fs ++ gs)) [],
      mergedRows_eq hrf (selectedKeys fs) [], mergedRows_eq hrf (selectedKeys gs) []]
    exact mergedRows_append (t := ⟨_, _, _⟩) rfl more

end TableMerge

/-! ### Answers -/

namespace TableFetch

section Survivors

variable {rs qs : List (Except GatewayError Fragment)}

theorem arrived_append : arrived (rs ++ qs) = arrived rs ++ arrived qs := by
  simp [arrived_eq]

theorem arrived_eq_nil_iff : arrived rs = [] ↔ ∀ r ∈ rs, ∃ e, r = .error e := by
  rw [arrived_eq, List.filterMap_eq_nil_iff]
  refine forall₂_congr fun r _ => ?_
  cases r <;> simp [Except.toOption]

theorem survivors_of_arrived (h : arrived rs ≠ []) : survivors rs = .ok (arrived rs) := by
  rw [survivors]
  cases hfs : arrived rs with
  | nil => exact absurd hfs h
  | cons f fs => rfl

theorem exists_error_of_arrived (h : arrived rs = []) (hne : rs ≠ []) :
    ∃ e qs, rs = .error e :: qs ∧ ∀ r ∈ qs, ∃ e, r = .error e := by
  obtain ⟨r, qs, rfl⟩ := List.exists_cons_of_ne_nil hne
  obtain ⟨⟨e, rfl⟩, hqs⟩ := List.forall_mem_cons.1 (arrived_eq_nil_iff.1 h)
  exact ⟨e, qs, rfl, hqs⟩

/-- **Answers that are left** are those that arrive, and some do if there was anything to ask. -/
theorem survivors_eq_ok_iff {fs : List Fragment} :
    survivors rs = .ok fs ↔ arrived rs = fs ∧ (arrived rs = [] → rs = []) := by
  by_cases harrived : arrived rs = []
  · by_cases hne : rs = []
    · subst hne
      exact ⟨fun h => ⟨Except.ok.inj h, fun _ => rfl⟩, fun h => congrArg Except.ok h.1⟩
    · obtain ⟨e, qs, rfl, hqs⟩ := exists_error_of_arrived harrived hne
      rw [survivors_of_errors hqs]
      refine ⟨fun h => ?_, fun h => absurd (h.2 harrived) hne⟩
      cases h
  · rw [survivors_of_arrived harrived, Except.ok.injEq]
    exact ⟨fun h => ⟨h, fun hnil => absurd hnil harrived⟩, fun h => h.1⟩

/-- **What is left of two groups of answers** is what arrives in both, unless one of them came to
nothing though something was asked. -/
theorem survivors_append (hr : arrived rs = [] → rs = []) (hq : arrived qs = [] → qs = []) :
    survivors (rs ++ qs) = .ok (arrived rs ++ arrived qs) := by
  refine survivors_eq_ok_iff.2 ⟨arrived_append, fun h => ?_⟩
  obtain ⟨hrs, hqs⟩ := List.append_eq_nil_iff.1 (arrived_append.symm.trans h)
  rw [hr hrs, hq hqs]
  rfl

/-- **Answers that are all failures make no difference** behind others. -/
theorem survivors_append_failures (hq : arrived qs = []) (hnil : rs = [] → qs = []) :
    survivors (rs ++ qs) = survivors rs := by
  have happend : arrived (rs ++ qs) = arrived rs := by rw [arrived_append, hq, List.append_nil]
  by_cases harrived : arrived rs = []
  · by_cases hne : rs = []
    · rw [hnil hne, List.append_nil]
    · obtain ⟨e, ps, rfl, hps⟩ := exists_error_of_arrived harrived hne
      rw [List.cons_append, survivors_of_errors hps, survivors_of_errors]
      exact List.forall_mem_append.2 ⟨hps, arrived_eq_nil_iff.1 hq⟩
  · rw [survivors_of_arrived harrived, survivors_of_arrived (happend ▸ harrived), happend]

theorem survivors_failures_append (hr : arrived rs = []) (hq : arrived qs ≠ []) :
    survivors (rs ++ qs) = survivors qs := by
  have happend : arrived (rs ++ qs) = arrived qs := by rw [arrived_append, hr, List.nil_append]
  rw [survivors_of_arrived hq, survivors_of_arrived (happend ▸ hq), happend]

/-- **A table is merged from what arrives**, and something does if there was anything to ask. -/
theorem bind_survivors_eq_ok {d : Descriptor} {wide : Bool} {rf : RowFilter} {t : Table}
    (h : (survivors rs).bind (mergeTables d wide rf) = .ok t) :
    mergeTables d wide rf (arrived rs) = .ok t ∧ (arrived rs = [] → rs = []) := by
  cases hfs : survivors rs with
  | error e =>
    rw [hfs] at h
    cases h
  | ok fs =>
    obtain ⟨rfl, hnil⟩ := survivors_eq_ok_iff.1 hfs
    rw [hfs] at h
    exact ⟨h, hnil⟩

end Survivors

/-! ### Three queries -/

/-- Somebody asks for a table of a kind that is known, in some world whose API server answers by a
function of the request, and gets a result. -/
def Asked (f : Request → Option Response) (identity : Identity) (resource : String)
    (d : Descriptor) (filter : TableFilter) (wide : Bool) (list : String)
    (result : Except GatewayError Table) : Prop :=
  ∃ (σ : Type) (w : World σ) (cache : CatalogCache) (s : σ), w.AnswersBy f ∧
    ((Lookup.find resource).attempt.run w cache s).result = .ok d ∧
    ((table identity resource list filter wide).attempt.run w cache s).result = result

/-- All list requests for a list of namespaces fail. -/
def AllFail (f : Request → Option Response) (identity : Identity) (d : Descriptor)
    (filter : TableFilter) (list : String) : Prop :=
  ∀ c ∈ plan d list filter, Fails f identity d none c

/-- The outcomes of the list requests for a list of namespaces. -/
def outcomes (f : Request → Option Response) (identity : Identity) (d : Descriptor)
    (filter : TableFilter) (list : String) : List (Except GatewayError Fragment) :=
  (plan d list filter).map fun c => (fragment identity d none c).outcome f

/-- What the queries for two lists of namespaces and the query for both of them come to. -/
structure Joins (f : Request → Option Response) (identity : Identity) (d : Descriptor)
    (filter : TableFilter) (a b : String) (ra rb rab : Except GatewayError Table) : Prop where
  /-- Tables for both lists make a table for both together, their ordered union. -/
  union : ∀ ta tb, ra = .ok ta → rb = .ok tb → ∃ t, rab = .ok t ∧ t.IsUnion ta tb
  /-- When all requests for the first list fail, but not all for the second one, the result is that
  of the second list. -/
  second : AllFail f identity d filter a → ¬AllFail f identity d filter b → rab = rb
  /-- When all requests for the second list fail, but not all for the first one, the result is that
  of the first list. -/
  first : ¬AllFail f identity d filter a → AllFail f identity d filter b → rab = ra
  /-- When all requests fail, the result is that of the first list, an error if anything was
  asked. -/
  neither : AllFail f identity d filter a → AllFail f identity d filter b →
    rab = ra ∧ (plan d a filter ≠ [] → ∃ e, ra = .error e)

section Joined

variable {f : Request → Option Response} {identity : Identity} {resource : String}
variable {d : Descriptor} {filter : TableFilter} {selection : Selection} {wide : Bool}
variable {list a b : String} {result : Except GatewayError Table}

theorem asksOnce_of_prepare (hf : ∀ path, filter ≠ .jsonPath path)
    (hs : filter.prepare = .ok selection) :
    selection.path = none ∧ TableMerge.AsksOnce selection.rows := by
  cases filter with
  | jsonPath path => exact absurd rfl (hf path)
  | regex pattern =>
    rw [TableFilter.prepare] at hs
    split at hs
    · cases hs
      exact ⟨rfl, trivial⟩
    · cases hs
  | none | parameter =>
    cases hs
    exact ⟨rfl, trivial⟩

theorem Asked.result_eq (h : Asked f identity resource d filter wide list result)
    (hs : filter.prepare = .ok selection) (hpath : selection.path = none) :
    result = (survivors (outcomes f identity d filter list)).bind
      (mergeTables d wide selection.rows) := by
  obtain ⟨σ, w, cache, s, hw, hd, rfl⟩ := h
  rw [result_table hw hd hs, hpath]
  rfl

theorem outcomes_append (hd : d.namespaced = true) (a b : String) :
    outcomes f identity d filter (a ++ "," ++ b) =
      outcomes f identity d filter a ++ outcomes f identity d filter b := by
  rw [outcomes, plan_append hd, List.map_append]
  rfl

theorem outcomes_eq_nil_iff : outcomes f identity d filter list = [] ↔ parameters filter = [] := by
  rw [outcomes, List.map_eq_nil_iff, plan_eq_nil_iff]

theorem allFail_iff :
    AllFail f identity d filter list ↔ arrived (outcomes f identity d filter list) = [] := by
  rw [arrived_eq_nil_iff, outcomes, List.forall_mem_map]
  exact forall₂_congr fun c _ => fails_iff.symm

theorem exists_yields_of_mem_arrived {fr : Fragment}
    (h : fr ∈ arrived (outcomes f identity d filter list)) :
    ∃ c ∈ plan d list filter, Yields f identity d none c fr := by
  rw [arrived_eq, List.mem_filterMap] at h
  obtain ⟨r, hr, hfr⟩ := h
  obtain ⟨c, hc, rfl⟩ := List.mem_map.1 hr
  refine ⟨c, hc, outcome_fragment.1 ?_⟩
  cases ho : (fragment identity d none c).outcome f with
  | error e =>
    rw [ho] at hfr
    cases hfr
  | ok fr' =>
    rw [ho] at hfr
    rw [Option.some.inj hfr]

theorem definitions_arrived {rs qs : List (Except GatewayError Fragment)}
    {columns : List ColumnDefinition} (hne : columns ≠ [])
    (hrs : ∀ fr ∈ arrived rs, fr.table.columns = columns)
    (hqs : ∀ fr ∈ arrived qs, fr.table.columns = columns)
    (hnil : arrived rs = [] ↔ arrived qs = []) :
    TableMerge.definitions (arrived rs ++ arrived qs) = TableMerge.definitions (arrived rs) ∧
      TableMerge.definitions (arrived rs ++ arrived qs) = TableMerge.definitions (arrived qs) := by
  by_cases hr : arrived rs = []
  · rw [hr, hnil.1 hr]
    exact ⟨rfl, rfl⟩
  · have hq : arrived qs ≠ [] := mt hnil.2 hr
    rw [TableMerge.definitions_eq hne hr hrs, TableMerge.definitions_eq hne hq hqs]
    have hboth : TableMerge.definitions (arrived rs ++ arrived qs) = columns :=
      TableMerge.definitions_eq hne (List.append_ne_nil_of_left_ne_nil hr _)
        (List.forall_mem_append.2 ⟨hrs, hqs⟩)
    exact ⟨hboth, hboth⟩

/-- **The table of several namespaces is the ordered union of the tables of its parts.**  The kind
has namespaces, the filter is no JSONPath and can be prepared, and all tables that answer the list
requests have the same columns, of which there are some.  The three queries may be asked in any
order and at any time, of an API server that answers by a function of the request. -/
theorem joined_lists (hd : d.namespaced = true) (hf : ∀ path, filter ≠ .jsonPath path)
    (hs : filter.prepare = .ok selection) {columns : List ColumnDefinition} (hne : columns ≠ [])
    (hcolumns : ∀ c ∈ plan d (a ++ "," ++ b) filter, ∀ fr, Yields f identity d none c fr →
      fr.table.columns = columns) {ra rb rab : Except GatewayError Table}
    (ha : Asked f identity resource d filter wide a ra)
    (hb : Asked f identity resource d filter wide b rb)
    (hab : Asked f identity resource d filter wide (a ++ "," ++ b) rab) :
    Joins f identity d filter a b ra rb rab := by
  obtain ⟨hpath, honce⟩ := asksOnce_of_prepare hf hs
  replace ha := ha.result_eq hs hpath
  replace hb := hb.result_eq hs hpath
  replace hab := hab.result_eq hs hpath
  have hyields : ∀ fr ∈ arrived (outcomes f identity d filter a) ++
      arrived (outcomes f identity d filter b), fr.table.columns = columns := fun fr hfr => by
    rw [← arrived_append, ← outcomes_append hd] at hfr
    obtain ⟨c, hc, hyields⟩ := exists_yields_of_mem_arrived hfr
    exact hcolumns c hc fr hyields
  rw [outcomes_append hd] at hab
  -- there is nothing to ask only if there are no values, for the one list as for the other
  have hnil : outcomes f identity d filter a = [] ↔ outcomes f identity d filter b = [] :=
    outcomes_eq_nil_iff.trans outcomes_eq_nil_iff.symm
  refine ⟨fun ta tb hta htb => ?_, fun hfa hfb => ?_, fun hfa hfb => ?_, fun hfa hfb => ⟨?_, ?_⟩⟩
  · obtain ⟨hta, hasked⟩ := bind_survivors_eq_ok (ha.symm.trans hta)
    obtain ⟨htb, hasked'⟩ := bind_survivors_eq_ok (hb.symm.trans htb)
    obtain ⟨hfs, hgs⟩ := definitions_arrived hne
      (fun fr hfr => hyields fr (List.mem_append_left _ hfr))
      (fun fr hfr => hyields fr (List.mem_append_right _ hfr))
      ⟨fun h => by rw [hnil.1 (hasked h)]; rfl, fun h => by rw [hnil.2 (hasked' h)]; rfl⟩
    obtain ⟨t, ht, hunion⟩ := TableMerge.mergeTables_append honce hfs hgs hta htb
    rw [hab, survivors_append hasked hasked']
    exact ⟨t, ht, hunion⟩
  · rw [allFail_iff] at hfa hfb
    rw [hab, hb, survivors_failures_append hfa hfb]
  · rw [allFail_iff] at hfa hfb
    rw [hab, ha, survivors_append_failures hfb hnil.1]
  · rw [allFail_iff] at hfa hfb
    rw [hab, ha, survivors_append_failures hfb hnil.1]
  · intro hplan
    rw [allFail_iff] at hfa
    have hasked : outcomes f identity d filter a ≠ [] := mt List.map_eq_nil_iff.1 hplan
    obtain ⟨e, qs, hrs, hqs⟩ := exists_error_of_arrived hfa hasked
    rw [ha, hrs, survivors_of_errors hqs]
    exact ⟨e, rfl⟩

end Joined

/-- A table of pods with one column, for their namespaces and names. -/
def podsText (pods : List (String × String)) : String :=
  let row (pod : String × String) : String :=
    "\x7b\"object\":\x7b\"metadata\":\x7b\"namespace\":\"" ++ pod.1 ++ "\",\"name\":\"" ++ pod.2 ++
      "\"\x7d\x7d\x7d"
  "\x7b\"columnDefinitions\":[\x7b\"name\":\"Up\"\x7d],\"rows\":[" ++
    ",".intercalate (pods.map row) ++ "]\x7d"

/-- One namespace is answered with its pod, all namespaces with this pod and another one. -/
def answerOverlap (r : Request) : Option Response :=
  if r.uri.path = "/api/v1/namespaces/one/pods" then
    some (.text 200 (podsText [("one", "web")]))
  else if r.uri.path = "/api/v1/pods" then
    some (.text 200 (podsText [("two", "db"), ("one", "web")]))
  else none

/-- The pods of one namespace and then those of all: the pod that both have is shown once, in the
place of the first. -/
theorem joined_lists_overlap :
    let pods : Descriptor := .ofEntry "v1" "Pod" "pods" true
    let asked := Asked answerOverlap ⟨"alice", []⟩ "pod" pods .none false
    let ta : Table := ⟨"Pod", ["Namespace", "Up"], [⟨some "one", "web", ["one", ""]⟩]⟩
    let tb : Table := ⟨"Pod", ["Namespace", "Up"],
      [⟨some "two", "db", ["two", ""]⟩, ⟨some "one", "web", ["one", ""]⟩]⟩
    asked "one" (.ok ta) ∧ asked "*" (.ok tb) ∧ ∀ r, asked "one,*" r →
      ∃ t, r = .ok t ∧ t.rows.map (·.name) = ["web", "db"] := by
  intro pods asked ta tb
  let cache : CatalogCache := ⟨⟨[pods]⟩, 0, 1⟩
  let run (list : String) := ((table ⟨"alice", []⟩ "pod" list .none false).attempt.run
    (.answering answerOverlap) cache ()).result
  have hknown : ((Lookup.find "pod").attempt.run (.answering answerOverlap) cache ()).result =
      .ok pods := by decide +kernel
  have hasked {list : String} {r : Except GatewayError Table} (h : run list = r) : asked list r :=
    ⟨Unit, _, cache, (), World.answersBy_answering answerOverlap, hknown, h⟩
  -- evaluated together, since they read the same answers
  have hall : (run "one" = .ok ta ∧ run "*" = .ok tb) ∧ ∀ c ∈ plan pods ("one" ++ "," ++ "*") .none,
      ((fragment ⟨"alice", []⟩ pods none c).outcome answerOverlap).toOption.map
        (·.table.columns) = some [⟨"Up", "", "", "", 0⟩] := by decide +kernel
  obtain ⟨⟨hone, hevery⟩, hcolumns⟩ := hall
  have ha : asked "one" (.ok ta) := hasked hone
  have hb : asked "*" (.ok tb) := hasked hevery
  refine ⟨ha, hb, fun r hr => ?_⟩
  have htext : "one" ++ "," ++ "*" = "one,*" := by decide
  have hfilter : ∀ path, TableFilter.none ≠ .jsonPath path := fun _ => nofun
  have hjoins := joined_lists rfl hfilter rfl (List.cons_ne_nil _ _)
    (fun c hc fr hfr => by
      have hout := hcolumns c hc
      rw [outcome_fragment.2 hfr] at hout
      exact Option.some.inj hout) ha hb (htext ▸ hr)
  obtain ⟨t, ht, hunion⟩ := hjoins.union ta tb rfl rfl
  refine ⟨t, ht, ?_⟩
  rw [hunion.rows]
  decide +kernel

end TableFetch

end ClusterGateway

import ClusterGateway.Proofs.Dialogue.Course
import ClusterGateway.Proofs.Table.Selection
import ClusterGateway.Table.Fetch

/-!
# What comes of the list requests of a table

The list requests of a table go out at the same time, and their answers arrive in any order.  Where
the API server answers by a function of the request, each list request has one outcome, and the
table depends on these outcomes in the order of the plan alone.

* `TableFetch.outcome_fragment` : what a list request yields, and `TableFetch.fails_iff` : **it
  fails just if one of its stages does** (`TableFetch.Fails`).
* `TableFetch.result_table` : the table comes of the outcomes of the requests alone, in the order of
  the plan, in whatever order they arrive (`Dialogue.result_collect`).
* `TableFetch.table_outcome` : **the table is merged from the fragments that arrive**; only when
  there are list requests and all fail is it the error of the first of them in the plan.
-/

namespace ClusterGateway

open Http Json

variable {f : Request → Option Response} {identity : Identity} {d : Descriptor}

namespace Exchange

/-- Somebody obtains a text from an address: the request can be written, and its answer is a
text. -/
def Obtains (f : Request → Option Response) (identity : Identity) (address : String)
    (form : Option String) (text : String) : Prop :=
  ∃ uri headers r, Uri.parse? address = some uri ∧ acceptHeaders? form = some headers ∧
    inNameOf? identity (get uri headers) = some r ∧ textOf (f r) = .ok text

theorem onlySends_fetchAs (uri : Uri) (headers : Headers) :
    (fetchAs identity uri headers).OnlySends := by
  refine (Operation.onlySends_ofExcept _).bind fun r => ?_
  exact (Operation.onlySends_request r).bind fun answer => Operation.onlySends_ofExcept _

theorem onlySends_getText (address : String) (form : Option String) :
    (getText identity address form).OnlySends := by
  refine (Operation.onlySends_ofExcept _).bind fun uri => ?_
  exact (Operation.onlySends_ofExcept _).bind fun headers => onlySends_fetchAs uri headers

theorem outcome_fetchAs {uri : Uri} {headers : Headers} {text : String} :
    (fetchAs identity uri headers).outcome f = .ok text ↔
      ∃ r, inNameOf? identity (get uri headers) = some r ∧ textOf (f r) = .ok text := by
  rw [fetchAs, Operation.outcome_orElse_bind_eq_ok]
  exact exists_congr fun r => and_congr_right fun _ => by rw [Operation.outcome_request_bind]; rfl

theorem outcome_getText {address : String} {form : Option String} {text : String} :
    (getText identity address form).outcome f = .ok text ↔
      Obtains f identity address form text := by
  rw [getText, Operation.outcome_orElse_bind_eq_ok, Obtains]
  refine exists_congr fun uri => ?_
  rw [Operation.outcome_orElse_bind_eq_ok]
  simp only [outcome_fetchAs, exists_and_left]

theorem Obtains.unique {address : String} {form : Option String} {text other : String}
    (h : Obtains f identity address form text) (ho : Obtains f identity address form other) :
    text = other := by
  rw [← outcome_getText] at h ho
  exact Except.ok.inj (h.symm.trans ho)

end Exchange

open Exchange

namespace TableFetch

variable {path : Option ObjectFilter} {c : ListCall}

/-! ### One list request -/

/-- The objects that a JSONPath selects in a second list, if there is a JSONPath. -/
def Selects (f : Request → Option Response) (identity : Identity) (d : Descriptor) (c : ListCall) :
    Option ObjectFilter → Option (List ObjectKey) → Prop
  | none, keys => keys = none
  | some filter, keys => ∃ text list, Obtains f identity (d.collectionPath c.ns) none text ∧
    Value.parse? text = some list ∧ keys = some (filter.keys list)

/-- A list request yields a fragment. -/
def Yields (f : Request → Option Response) (identity : Identity) (d : Descriptor)
    (path : Option ObjectFilter) (c : ListCall) (fragment : Fragment) : Prop :=
  ∃ text, Obtains f identity (c.address d) (some acceptedForms) text ∧
    ServerTable.decode.parse? text = some fragment.table ∧
    Selects f identity d c path fragment.selected

/-- A stage of a list request fails. -/
inductive Fails (f : Request → Option Response) (identity : Identity) (d : Descriptor)
    (path : Option ObjectFilter) (c : ListCall) : Prop
  /-- The request for the table cannot be written, or its answer is no text. -/
  | table : (∀ text, ¬Obtains f identity (c.address d) (some acceptedForms) text) →
    Fails f identity d path c
  /-- The text is no table. -/
  | decodeTable {text : String} : Obtains f identity (c.address d) (some acceptedForms) text →
    ServerTable.decode.parse? text = none → Fails f identity d path c
  /-- The second request cannot be written, or its answer is no text. -/
  | list {filter : ObjectFilter} : path = some filter →
    (∀ text, ¬Obtains f identity (d.collectionPath c.ns) none text) → Fails f identity d path c
  /-- The text is no JSON. -/
  | decodeList {filter : ObjectFilter} {text : String} : path = some filter →
    Obtains f identity (d.collectionPath c.ns) none text → Value.parse? text = none →
    Fails f identity d path c

theorem onlySends_selected : (selected identity d c path).OnlySends := by
  cases path with
  | none => exact Operation.onlySends_ofExcept (.ok none)
  | some filter =>
    refine (onlySends_getText _ _).bind fun text => ?_
    exact (Operation.onlySends_ofExcept _).bind fun list => Operation.onlySends_ofExcept (.ok _)

theorem onlySends_fragment : (fragment identity d path c).OnlySends := by
  refine (onlySends_getText _ _).bind fun text => ?_
  refine (Operation.onlySends_ofExcept _).bind fun table => ?_
  exact onlySends_selected.bind fun keys => Operation.onlySends_ofExcept (.ok _)

theorem outcome_selected {keys : Option (List ObjectKey)} :
    (selected identity d c path).outcome f = .ok keys ↔ Selects f identity d c path keys := by
  cases path with
  | none => simp [selected, Selects, eq_comm]
  | some filter =>
    rw [selected, (onlySends_getText _ _).outcome_bind_eq_ok, Selects]
    refine exists_congr fun text => ?_
    rw [outcome_getText, Operation.outcome_orElse_bind_eq_ok]
    simp [eq_comm]

/-- What a list request yields. -/
theorem outcome_fragment {fr : Fragment} :
    (fragment identity d path c).outcome f = .ok fr ↔ Yields f identity d path c fr := by
  rw [fragment, (onlySends_getText _ _).outcome_bind_eq_ok, Yields]
  refine exists_congr fun text => ?_
  rw [outcome_getText, Operation.outcome_orElse_bind_eq_ok]
  refine and_congr_right fun _ => ?_
  constructor
  · rintro ⟨table, htable, h⟩
    obtain ⟨keys, hkeys, h⟩ := onlySends_selected.outcome_bind_eq_ok.1 h
    cases h
    exact ⟨htable, outcome_selected.1 hkeys⟩
  · rintro ⟨htable, hkeys⟩
    refine ⟨fr.table, htable, onlySends_selected.outcome_bind_eq_ok.2 ?_⟩
    exact ⟨fr.selected, outcome_selected.2 hkeys, rfl⟩

/-- **A list request fails just if one of its stages does.** -/
theorem fails_iff :
    (∃ e, (fragment identity d path c).outcome f = .error e) ↔ Fails f identity d path c := by
  have herror : (∃ e, (fragment identity d path c).outcome f = .error e) ↔
      ¬∃ fr, Yields f identity d path c fr := by
    simp only [← outcome_fragment]
    cases (fragment identity d path c).outcome f <;> simp
  rw [herror]
  constructor
  · intro h
    -- the stages in their order: the first that does not succeed is the one that fails
    by_cases htext : ∃ text, Obtains f identity (c.address d) (some acceptedForms) text
    · obtain ⟨text, htext⟩ := htext
      cases htable : ServerTable.decode.parse? text with
      | none => exact .decodeTable htext htable
      | some table =>
        cases path with
        | none => exact absurd ⟨⟨table, none⟩, text, htext, htable, rfl⟩ h
        | some filter =>
          by_cases hlist : ∃ text, Obtains f identity (d.collectionPath c.ns) none text
          · obtain ⟨text', htext'⟩ := hlist
            cases hvalue : Value.parse? text' with
            | none => exact .decodeList rfl htext' hvalue
            | some list =>
              refine absurd ⟨⟨table, some (filter.keys list)⟩, text, htext, htable, ?_⟩ h
              exact ⟨text', list, htext', hvalue, rfl⟩
          · exact .list rfl (not_exists.1 hlist)
    · exact .table (not_exists.1 htext)
  · rintro h ⟨fr, text, htext, htable, hselects⟩
    cases h with
    | table hnone => exact hnone text htext
    | decodeTable htext' hnone =>
      rw [htext.unique htext', hnone] at htable
      cases htable
    | list hpath hnone =>
      subst hpath
      obtain ⟨text', list, htext', -⟩ := hselects
      exact hnone text' htext'
    | decodeList hpath htext' hnone =>
      subst hpath
      obtain ⟨text'', list, htext'', hlist, -⟩ := hselects
      rw [htext''.unique htext', hnone] at hlist
      cases hlist

/-! ### All list requests -/

section Survivors

variable {results : List (Except GatewayError Fragment)}

theorem arrived_eq : arrived results = results.filterMap Except.toOption := by
  induction results with
  | nil => rfl
  | cons r results ih =>
    cases r with
    | ok fr => exact congrArg (fr :: ·) ih
    | error e => exact ih

theorem survivors_of_mem {fr : Fragment} (h : .ok fr ∈ results) :
    survivors results = .ok (results.filterMap Except.toOption) := by
  have hmem : fr ∈ arrived results := by
    rw [arrived_eq]
    exact List.mem_filterMap.2 ⟨_, h, rfl⟩
  rw [survivors, ← arrived_eq]
  cases hfragments : arrived results with
  | nil => rw [hfragments] at hmem; cases hmem
  | cons first rest => rfl

/-- When all requests fail, the first error is left. -/
theorem survivors_of_errors {e : GatewayError}
    (h : ∀ r ∈ results, ∃ e, r = .error e) : survivors (.error e :: results) = .error e := by
  have harrived : arrived results = [] := by
    rw [arrived_eq, List.filterMap_eq_nil_iff]
    intro r hr
    obtain ⟨e, rfl⟩ := h r hr
    rfl
  rw [survivors, arrived, harrived]
  rfl

end Survivors

/-- The table, once the kind is known and the filter is ready. -/
theorem result_table {σ : Type} {w : World σ} (hw : w.AnswersBy f) {cache : CatalogCache} {s : σ}
    {resource : String} (hd : ((Lookup.find resource).attempt.run w cache s).result = .ok d)
    {filter : TableFilter} {selection : Selection} (hs : filter.prepare = .ok selection)
    (identity : Identity) (list : String) (wide : Bool) :
    ((table identity resource list filter wide).attempt.run w cache s).result =
      (survivors ((plan d list filter).map
        fun c => (fragment identity d selection.path c).outcome f)).bind
        (mergeTables d wide selection.rows) := by
  rw [table]
  -- looking up the kind leaves some cache and some state, from which the list requests start
  obtain ⟨cache', s', h⟩ := Operation.result_run_bind hd
  have hcalls : ∀ dialogue ∈ (plan d list filter).map
      (fun c => (fragment identity d selection.path c).attempt), dialogue.OnlySends := by
    intro dialogue hd
    obtain ⟨c, -, rfl⟩ := List.mem_map.1 hd
    exact onlySends_fragment
  have hcollect := Dialogue.result_collect hw cache' s' hcalls
  rw [List.map_map] at hcollect
  rw [h, hs]
  obtain ⟨cache'', s'', h⟩ := Operation.result_run_ofDialogue_bind (g := fun results => do
    let fragments ← Operation.ofExcept (survivors results)
    Operation.ofExcept (mergeTables d wide selection.rows fragments)) hcollect
  refine h.trans ?_
  change (Dialogue.run w _ cache'' s'').result = (survivors ((plan d list filter).map
    (Dialogue.alone f ∘ fun c => (fragment identity d selection.path c).attempt))).bind _
  cases survivors ((plan d list filter).map
    (Dialogue.alone f ∘ fun c => (fragment identity d selection.path c).attempt)) <;> rfl

/-- **What comes of the list requests of a table.**  In a world whose API server answers by a
function of the request, in whatever order the answers arrive: when there are list requests and
all of them fail, the table is the error of the first in the plan; otherwise the fragments that
arrive are merged in the order of the plan, and that fails just if a row of one of them has no
metadata.  What a list request yields and when it fails is said of each by its stages. -/
theorem table_outcome {σ : Type} {w : World σ} (hw : w.AnswersBy f) {cache : CatalogCache} {s : σ}
    {resource : String} (hd : ((Lookup.find resource).attempt.run w cache s).result = .ok d)
    {filter : TableFilter} {selection : Selection} (hs : filter.prepare = .ok selection)
    (identity : Identity) (list : String) (wide : Bool) :
    let outcome c := (fragment identity d selection.path c).outcome f
    let fragments := (plan d list filter).filterMap fun c => (outcome c).toOption
    let result := ((table identity resource list filter wide).attempt.run w cache s).result
    (∀ first rest e, plan d list filter = first :: rest → outcome first = .error e →
      (∀ c ∈ rest, ∃ e, outcome c = .error e) → result = .error e) ∧
    ((plan d list filter = [] ∨ ∃ c ∈ plan d list filter, ∃ fr, outcome c = .ok fr) →
      result = mergeTables d wide selection.rows fragments) ∧
    ((∃ e, mergeTables d wide selection.rows fragments = .error e) ↔
      ∃ row ∈ TableMerge.listed fragments, ¬row.HasMetadata) ∧
    ∀ c, (∀ fr, outcome c = .ok fr ↔ Yields f identity d selection.path c fr) ∧
      ((∃ e, outcome c = .error e) ↔ Fails f identity d selection.path c) := by
  intro outcome fragments result
  have hresult : result = (survivors ((plan d list filter).map outcome)).bind
      (mergeTables d wide selection.rows) := result_table hw hd hs identity list wide
  have hfragments : ((plan d list filter).map outcome).filterMap Except.toOption = fragments := by
    rw [List.filterMap_map]
    rfl
  refine ⟨?_, ?_, ?_, fun c => ⟨fun fr => outcome_fragment, fails_iff⟩⟩
  · -- nothing arrives
    intro first rest e hplan hfirst hrest
    rw [hresult, hplan, List.map_cons, hfirst, survivors_of_errors]
    · rfl
    · intro r hr
      obtain ⟨c, hc, rfl⟩ := List.mem_map.1 hr
      exact hrest c hc
  · -- something arrives, or there was nothing to ask for
    rintro (hnil | ⟨c, hc, fr, hfr⟩)
    · rw [hresult, ← hfragments, hnil]
      rfl
    · have hmem : .ok fr ∈ (plan d list filter).map outcome := List.mem_map.2 ⟨c, hc, hfr⟩
      rw [hresult, survivors_of_mem hmem, hfragments]
      rfl
  · simp [TableMerge.error_iff]

/-- Nothing is answered but the list of the pods of one namespace. -/
def answerOne (r : Request) : Option Response :=
  if r.uri.path = "/api/v1/namespaces/two/pods" then
    some (.text 200 "\x7b\"rows\":[]\x7d")
  else none

/-- The pods of two namespaces, the first of which does not answer: the table is that of the
second. -/
theorem table_outcome_answerOne :
    let pods : Descriptor := .ofEntry "v1" "Pod" "pods" true
    let cache : CatalogCache := ⟨⟨[pods]⟩, 0, 1⟩
    let result := ((table ⟨"alice", []⟩ "pod" "one,two" .none false).attempt.run
      (.answering answerOne) cache ()).result
    result = .ok ⟨"Pod", ["Namespace"], []⟩ := by
  intro pods cache result
  have hd : ((Lookup.find "pod").attempt.run (.answering answerOne) cache ()).result =
      .ok pods := by decide +kernel
  have hs : TableFilter.none.prepare = .ok ⟨.all, none⟩ := rfl
  have h := table_outcome (World.answersBy_answering answerOne) hd hs ⟨"alice", []⟩ "one,two" false
  have hplan : (⟨some "two", none⟩ : ListCall) ∈ plan pods "one,two" .none := by decide +kernel
  have hok : ((fragment ⟨"alice", []⟩ pods none ⟨some "two", none⟩).outcome answerOne).isOk := by
    decide +kernel
  have harrives : ∃ fr, (fragment ⟨"alice", []⟩ pods none ⟨some "two", none⟩).outcome answerOne =
      .ok fr := by
    revert hok
    cases (fragment ⟨"alice", []⟩ pods none ⟨some "two", none⟩).outcome answerOne with
    | ok fr => exact fun _ => ⟨fr, rfl⟩
    | error e => exact fun h => nomatch h
  exact (h.2.1 (.inr ⟨_, hplan, harrives⟩)).trans (by decide +kernel)

end TableFetch

end ClusterGateway

import ClusterGateway.Gateway.Basic
import ClusterGateway.Proofs.Gateway.Answers
import ClusterGateway.Proofs.Table.FanOut
import ClusterGateway.Proofs.Table.Plan

/-!
# Lists from servers without tables

A list request offers plain JSON to servers without tables.  Such a server answers with a list
object, whose items are not those of a table.

A table is read leniently, with fields that are absent taken for empty and all others skipped, so
that a list object is a table too: one without columns and without rows.

* `ServerTable.decode_of_isPlainList` : a plain list is read as the empty table.
* `TableFetch.meets_fragment_plain` : a list request that is answered by a plain list yields a
  fragment without columns and rows, and none of its objects is an error.
* `Gateway.plain_lists_are_lost` : **where all list requests are answered by plain lists, the table
  is empty**, however many objects are listed.
* `Gateway.plain_lists_are_lost_pods` : two pods that are listed and not shown.
-/

namespace ClusterGateway

open Http Json

/-! ### Plain lists -/

/-- The fields of an object. -/
def Json.Document.fields? : Document → Option (List (String × Document))
  | .object members => Members.ofObject? members
  | _ => none

/-- A document is an array that is not empty. -/
def Json.Document.ListsSome : Document → Prop
  | .array items => items ≠ []
  | _ => False

instance : DecidablePred Document.ListsSome
  | .array [] => isFalse fun h => h rfl
  | .array (_ :: _) => isTrue (List.cons_ne_nil _ _)
  | .null | .bool _ | .number _ | .string _ | .object _ => isFalse id

/-- These are the fields of a list object that has nothing of a table. -/
structure IsPlainList (fields : List (String × Document)) : Prop where
  /-- It lists some objects. -/
  items : ∃ field ∈ fields, field.1 = "items" ∧ field.2.ListsSome
  /-- It has neither the columns nor the rows of a table. -/
  keys : ∀ field ∈ fields, field.1 ∉ ["columnDefinitions", "rows"]

theorem Json.Members.read?_of_not_mem {names : List String} {d : Document}
    {fields : List (String × Document)} (hfields : d.fields? = some fields)
    (h : ∀ field ∈ fields, field.1 ∉ names) (room : Nat) :
    read? names (room + 1) d = some ⟨false, [], room⟩ := by
  have hnone : fields.filter (fun field => names.contains field.1) = [] := by
    refine List.filter_eq_nil_iff.2 fun field hfield => ?_
    rw [List.contains_iff_mem]
    exact h field hfield
  cases d with
  | object members =>
    rw [Document.fields?] at hfields
    rw [read?, hfields]
    change (if ((fields.filter fun field => names.contains field.1).map Prod.fst).Nodup then
      some (Members.mk false (fields.filter fun field => names.contains field.1) room)
        else none) = _
    rw [hnone]
    exact if_pos List.nodup_nil
  | _ => cases hfields

/-- **A plain list is read as the empty table.** -/
theorem ServerTable.decode_of_isPlainList {text : String} {fields : List (String × Document)}
    (hfields : (Document.parse? text).bind Document.fields? = some fields)
    (h : IsPlainList fields) : ServerTable.decode.parse? text = some ⟨[], []⟩ := by
  obtain ⟨d, hd, hfields⟩ := Option.bind_eq_some_iff.1 hfields
  have hread := Members.read?_of_not_mem hfields h.keys (Document.maxDepth - 1)
  rw [Decoder.parse?, hd, Option.bind_some, ServerTable.decode]
  exact congrArg (Option.bind · _) hread

/-! ### List requests -/

/-- A request asks for a table. -/
def AsksForTable (r : Request) : Prop :=
  r.headers.values "accept" = [Utf8.encode TableFetch.acceptedForms]

/-- An answer succeeds with a plain list. -/
def IsPlainAnswer (answer : Option Response) : Prop :=
  ∃ text fields, Exchange.textOf answer = .ok text ∧
    (Document.parse? text).bind Document.fields? = some fields ∧ IsPlainList fields

namespace Lookup

theorem headers_of_mem_exchanges {σ : Type} {w : World σ} {cache : CatalogCache} {s : σ}
    {id : String} {x : Exchanged} (hx : x ∈ (find id).attempt.exchanges w cache s) :
    x.1.headers = .empty := by
  let bare : Terms := ⟨fun _ _ => True, fun _ r => r.headers = .empty⟩
  have hbare : bare.Discovers := ⟨fun _ _ _ _ h => h, fun _ _ h => h.headers_eq⟩
  obtain ⟨before, after, hsplit⟩ := List.append_of_mem hx
  have hfind : (find id).Meets bare (fun _ _ => True) [] := meets_find hbare id
  exact hfind.attempt.allowed (Dialogue.admits_exchanges w cache s) (fun _ _ => trivial) hsplit

end Lookup

namespace TableFetch

/-- The request of a list call, if it can be written. -/
def request? (identity : Identity) (d : Descriptor) (c : ListCall) : Option Request := do
  let uri ← Uri.parse? (c.address d)
  let headers ← Exchange.acceptHeaders? (some acceptedForms)
  Exchange.inNameOf? identity (Exchange.get uri headers)

variable {identity : Identity} {d : Descriptor} {c : ListCall}

theorem asksForTable_of_request? {r : Request} (h : request? identity d c = some r) :
    AsksForTable r := by
  obtain ⟨uri, -, h⟩ := Option.bind_eq_some_iff.1 h
  obtain ⟨headers, hheaders, h⟩ := Option.bind_eq_some_iff.1 h
  obtain ⟨named, hnamed, rfl⟩ := Option.map_eq_some_iff.1 h
  rw [Exchange.acceptHeaders?] at hheaders
  obtain ⟨value, hvalue, rfl⟩ := Option.map_eq_some_iff.1 hheaders
  have hwritten : valueOfText? acceptedForms = some (Utf8.encode acceptedForms) := by
    decide +kernel
  rw [AsksForTable, Impersonation.values_of_headersFor? hnamed, if_neg (by decide), Exchange.get,
    Headers.values_append, Option.some.inj (hvalue.symm.trans hwritten)]
  rfl

/-- What comes of a list call where lists are plain: nothing that it lists. -/
inductive YieldsNothing (identity : Identity) (d : Descriptor) (c : ListCall) :
    Except GatewayError Fragment → Prop
  /-- The request cannot be written. -/
  | unasked {e : GatewayError} : request? identity d c = none → YieldsNothing identity d c (.error e)
  /-- The fragment is that of an empty table. -/
  | asked {r : Request} : request? identity d c = some r →
      YieldsNothing identity d c (.ok ⟨⟨[], []⟩, none⟩)

/-- All requests for tables have been answered by plain lists. -/
def ArePlain (past : List Exchanged) : Prop :=
  ∀ x ∈ past, AsksForTable x.1 → IsPlainAnswer x.2

/-- **A list call that is answered by a plain list yields nothing of it**, and it does not fail. -/
theorem meets_fragment_plain {past : List Exchanged} :
    (fragment identity d none c).attempt.Meets .free
      (fun past r => ArePlain past → YieldsNothing identity d c r) past := by
  rw [fragment, Exchange.getText]
  cases huri : Uri.parse? (c.address d) with
  | none => exact fun _ => .unasked (by rw [request?, huri]; rfl)
  | some uri =>
    cases hheaders : Exchange.acceptHeaders? (some acceptedForms) with
    | none => exact fun _ => .unasked (by rw [request?, huri, hheaders]; rfl)
    | some headers =>
      cases hr : Exchange.inNameOf? identity (Exchange.get uri headers) with
      | none =>
        have hrequest : request? identity d c = none := by
          rw [request?, huri, hheaders]
          exact hr
        change Dialogue.Meets _ _ (Exchange.fetchAs identity uri headers >>= _).attempt past
        rw [Exchange.fetchAs, hr]
        exact fun _ => .unasked hrequest
      | some r =>
        have hrequest : request? identity d c = some r := by
          rw [request?, huri, hheaders]
          exact hr
        refine Exchange.meets_fetchAs_bind hr fun answer => ?_
        obtain ⟨read, hread, hnext⟩ := Exchange.exists_readAs ServerTable.decode answer
        rw [Exchange.next_readAs _ hnext]
        -- a plain list is read as the table without columns and rows
        have hyields (hplain : ArePlain (past ++ [(r, answer)])) : read = .ok ⟨[], []⟩ := by
          obtain ⟨text, fields, htext, hfields, hlist⟩ := hplain (r, answer)
            (List.mem_append_right past (List.mem_singleton.2 rfl))
            (asksForTable_of_request? hrequest)
          exact hread.eq_ok htext (ServerTable.decode_of_isPlainList hfields hlist)
        cases read with
        | error e =>
          intro hplain
          cases hyields hplain
        | ok table =>
          refine fun hplain => ?_
          cases hyields hplain
          exact .asked hrequest

/-! ### The table -/

theorem mergeTables_of_empty {wide : Bool} {filter : RowFilter} {fragments : List Fragment}
    (h : ∀ fr ∈ fragments, fr.table = ⟨[], []⟩) :
    mergeTables d wide filter fragments =
      .ok ⟨d.kind, if d.namespaced then ["Namespace"] else [], []⟩ := by
  have hcolumns : TableMerge.definitions fragments = [] := by
    have hnone : (fragments.map fun fr => fr.table.columns).find?
        (fun columns => !columns.isEmpty) = none := by
      refine List.find?_eq_none.2 fun columns hmem => ?_
      obtain ⟨fr, hfr, rfl⟩ := List.mem_map.1 hmem
      simp [h fr hfr]
    rw [TableMerge.definitions, hnone, Option.getD_none]
  have hrows : TableMerge.keyedRows? fragments = some [] := by
    have hnil : fragments.flatMap (fun fr => fr.table.rows) = [] :=
      List.flatMap_eq_nil_iff.2 fun fr hfr => by rw [h fr hfr]
    rw [TableMerge.keyedRows?, hnil]
    rfl
  rw [mergeTables, hcolumns, hrows]
  simp [TableMerge.visible, TableMerge.columnNames, TableMerge.firstOfEach]

theorem YieldsNothing.table_eq {fr : Fragment} (h : YieldsNothing identity d c (.ok fr)) :
    fr.table = ⟨[], []⟩ := by
  cases h
  rfl

theorem YieldsNothing.eq_ok {result : Except GatewayError Fragment}
    (h : YieldsNothing identity d c result) (hsent : request? identity d c ≠ none) :
    result = .ok ⟨⟨[], []⟩, none⟩ := by
  cases h with
  | unasked hnone => exact absurd hnone hsent
  | asked => rfl

/-- **A table whose list calls are answered by plain lists is empty**, on every course. -/
theorem meets_ofKind_plain {list : String} {wide : Bool}
    (hcalls : ∃ c ∈ plan d list .none, request? identity d c ≠ none) :
    (ofKind identity list .none wide d).attempt.Meets .free (fun past r => ArePlain past →
      r = .ok ⟨d.kind, if d.namespaced then ["Namespace"] else [], []⟩) [] := by
  have hlasting (c : ListCall) (r : Except GatewayError Fragment) :
      Lasting fun past => ArePlain past → YieldsNothing identity d c r :=
    fun _ _ hs h hplain => h fun x hx => hplain x (hs hx)
  have hfragment (c : ListCall) (_ : c ∈ plan d list .none) :
      (fragment identity d none c).attempt.Meets .free
        (fun past r => ArePlain past → YieldsNothing identity d c r) [] := meets_fragment_plain
  have hcollect := Dialogue.meets_collect_map Terms.lasting_free hlasting hfragment
  change (Operation.ofDialogue _ >>= _).attempt.Meets _ _ _
  rw [Operation.attempt_bind, Operation.attempt_ofDialogue, Dialogue.meets_bind,
    Dialogue.meets_bind]
  refine hcollect.imp fun past results _ hresults => ?_
  have hend : (Operation.ofExcept (survivors results) >>= fun fragments =>
      Operation.ofExcept (mergeTables d wide .all fragments)).attempt =
        .done ((survivors results).bind (mergeTables d wide .all)) := by
    rw [Operation.attempt_bind]
    cases survivors results <;> rfl
  change Dialogue.Meets _ _ (Operation.ofExcept (survivors results) >>= _).attempt past
  rw [hend]
  intro hplain
  -- one call that is sent is enough for an answer, and no fragment has anything in it
  have hyields := hresults.imp fun _ _ h => h hplain
  obtain ⟨c, hc, hsent⟩ := hcalls
  obtain ⟨result, hresult, hnothing⟩ := exists_of_mem_left hyields hc
  rw [survivors_of_mem (hnothing.eq_ok hsent ▸ hresult)]
  refine mergeTables_of_empty fun fr hfr => ?_
  obtain ⟨r, hr, hok⟩ := List.mem_filterMap.1 hfr
  cases r with
  | error e => cases hok
  | ok fr' =>
    cases hok
    obtain ⟨c, -, hnothing⟩ := exists_of_mem_right hyields hr
    exact hnothing.table_eq

/-! ### Which requests are sent -/

theorem confined_fragment_request? {P : Request → Prop}
    (h : ∀ r, request? identity d c = some r → P r) : (fragment identity d none c).Confined P := by
  refine confined_fragment_none fun uri headers r huri hheaders hr => h r ?_
  rw [request?, huri, hheaders]
  exact hr

theorem exists_call_of_mem {σ : Type} {w : World σ} {cache : CatalogCache} {s : σ} {list : String}
    {wide : Bool} {x : Exchanged}
    (hx : x ∈ (ofKind identity list .none wide d).attempt.exchanges w cache s) :
    ∃ c ∈ plan d list .none, request? identity d c ≠ none := by
  have hconfined : (ofKind identity list .none wide d).Confined fun _ =>
      ∃ c ∈ plan d list .none, request? identity d c ≠ none := by
    change (Operation.ofDialogue _ >>= _).Confined _
    refine (Operation.confined_ofDialogue (.collect fun dialogue hd => ?_)).bind fun results => ?_
    · obtain ⟨c, hc, rfl⟩ := List.mem_map.1 hd
      exact confined_fragment_request? fun r hr => ⟨c, hc, by simp [hr]⟩
    · exact (Operation.confined_ofExcept _).bind fun fragments => Operation.confined_ofExcept _
  exact Dialogue.Confined.exchanges w cache s hconfined x hx

end TableFetch

namespace Gateway

variable {σ : Type} {w : World σ} {cache : CatalogCache} {s : σ} {identity : Identity}
variable {d : Descriptor}

theorem table_eq (q : TableQuery) (hq : q.parameterName = "") :
    table identity q =
      Lookup.find q.resource >>= TableFetch.ofKind identity q.ns .none q.wide := by
  rw [table, hq, TableFetch.table_eq]
  rfl

/-- **Objects in plain lists are lost.**  When a kind is known, a query without a filter is asked,
and every request for a table has been answered by a plain list, each with at least one object,
then the query succeeds with the empty table. -/
theorem plain_lists_are_lost {q : TableQuery} (hq : q.parameterName = "")
    (hd : ((Lookup.find q.resource).attempt.run w cache s).result = .ok d)
    (hasked : ∃ x ∈ (table identity q).attempt.exchanges w cache s, AsksForTable x.1)
    (hplain : ∀ x ∈ (table identity q).attempt.exchanges w cache s,
      AsksForTable x.1 → IsPlainAnswer x.2) :
    ((table identity q).attempt.run w cache s).result =
      .ok ⟨d.kind, if d.namespaced then ["Namespace"] else [], []⟩ := by
  obtain ⟨cache', s', hresult, hexchanges⟩ :=
    Operation.run_bind (g := TableFetch.ofKind identity q.ns .none q.wide) hd
  rw [← table_eq q hq] at hresult hexchanges
  rw [hexchanges] at hasked hplain
  have hcalls : ∃ c ∈ TableFetch.plan d q.ns .none, TableFetch.request? identity d c ≠ none := by
    obtain ⟨x, hx, hasks⟩ := hasked
    obtain hx | hx := List.mem_append.1 hx
    · -- the requests of a look-up ask for no table
      rw [AsksForTable, Lookup.headers_of_mem_exchanges hx] at hasks
      cases hasks
    · exact TableFetch.exists_call_of_mem hx
  rw [hresult]
  refine (TableFetch.meets_ofKind_plain hcalls).result_run_free w cache' s' fun x hx => ?_
  exact hplain x (List.mem_append_right _ hx)

/-! ### A server without tables -/

/-- A list of two pods, as servers without tables write it. -/
def podList : String :=
  "\x7b\"kind\":\"PodList\",\"items\":[\x7b\"metadata\":\x7b\"name\":\"a\"\x7d\x7d," ++
    "\x7b\"metadata\":\x7b\"name\":\"b\"\x7d\x7d]\x7d"

/-- An API server without tables, with two pods. -/
def answerPlainly (r : Request) : Option Response :=
  if r.uri.path = "/api/v1/pods" then some (.text 200 podList) else none

/-- A cache in which pods are known. -/
def knowsPods : CatalogCache := ⟨⟨[.ofEntry "v1" "Pod" "pods" true]⟩, 0, 1⟩

/-- All pods, asked for by Alice. -/
def allPods : Operation Table := table ⟨"alice", []⟩ ⟨"pod", "*", "", "", false⟩

theorem isSome_fields_podList :
    ((Document.parse? podList).bind Document.fields?).isSome = true := by decide +kernel

theorem isPlainAnswer_podList : IsPlainAnswer (some (.text 200 podList)) := by
  refine ⟨podList, _, by decide +kernel, (Option.some_get isSome_fields_podList).symm, ?_, ?_⟩
  · decide +kernel
  · decide +kernel

theorem answers_podList : ∀ x ∈ allPods.attempt.exchanges (.answering answerPlainly) knowsPods (),
    x.1.headers.values "accept" = [Utf8.encode TableFetch.acceptedForms] ∧
      x.2 = some (.text 200 podList) := by decide +kernel

theorem isEmpty_allPods : (allPods.attempt.run (.answering answerPlainly) knowsPods ()).result =
    .ok ⟨"Pod", ["Namespace"], []⟩ := by decide +kernel

/-- The only request is answered by a plain list, and so the table is empty. -/
theorem plain_lists_are_lost_pods :
    IsPlainAnswer (some (.text 200 podList)) ∧
    (allPods.attempt.run (.answering answerPlainly) knowsPods ()).result =
      .ok ⟨"Pod", ["Namespace"], []⟩ := by
  have hsent : allPods.attempt.exchanges (.answering answerPlainly) knowsPods () ≠ [] := by
    decide +kernel
  obtain ⟨x, hx⟩ := List.exists_mem_of_ne_nil _ hsent
  refine ⟨isPlainAnswer_podList, plain_lists_are_lost rfl (d := .ofEntry "v1" "Pod" "pods" true)
    (by decide +kernel) ⟨x, hx, (answers_podList x hx).1⟩ fun y hy _ => ?_⟩
  rw [(answers_podList y hy).2]
  exact isPlainAnswer_podList

/-- **Two pods are listed, and the query neither fails nor shows them.** -/
theorem loses_podList :
    (decodePodList.parse? podList).map (·.map Pod.name) = some [some "a", some "b"] ∧
    IsPlainAnswer (some (.text 200 podList)) ∧
    (allPods.attempt.run (.answering answerPlainly) knowsPods ()).sent.length = 1 ∧
    ¬((∃ e, (allPods.attempt.run (.answering answerPlainly) knowsPods ()).result = .error e) ∨
      ∃ t, (allPods.attempt.run (.answering answerPlainly) knowsPods ()).result = .ok t ∧
        ∀ name ∈ ["a", "b"], ∃ row ∈ t.rows, row.name = name) := by
  refine ⟨by decide +kernel, isPlainAnswer_podList, by decide +kernel, ?_⟩
  rw [isEmpty_allPods]
  simp

end Gateway

end ClusterGateway

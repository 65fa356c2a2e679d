import ClusterGateway.Gateway.Basic
import ClusterGateway.Proofs.Dialogue.Confined
import ClusterGateway.Proofs.Proxy.Headers

/-!
# In whose name requests are made

What a gateway does for a caller is a `Gateway.Call`.  The requests that it sends for one fall into
three classes: discovery of the kinds (`Lookup.IsDiscovery`), the list of the namespaces, and
requests that carry the identity of the caller (`Exchange.InNameOf`).

Discovery is told narrowly, so that no other request passes for it: a request for the kinds in a
version is one only if the API server has named this version before, in its answer to the request
for the versions.  Whatever is asked in the name of the caller is asked away from the cache
(`TableFetch.confined_ofKind`, `PodGroup.confined_ofKind`, `PodLog.confined_fetch`,
`Proxy.confined_forward`).

* `Gateway.Call.sent_in_name` : **on every course of every call, every request is one of discovery,
  the list of the namespaces if the call asks for it, or made in the name of the caller**.  The
  last kind needs an identity that can be written.
-/

namespace ClusterGateway

open Http

namespace Exchange

/-- A request reads an address: it has neither headers nor a body. -/
def Reads (address : String) (r : Request) : Prop :=
  ∃ uri, Uri.parse? address = some uri ∧ r = get uri .empty

/-- The API server has answered a request for an address with a document. -/
def Told {α : Type} (past : List Exchanged) (address : String) (decode : Json.Decoder α)
    (a : α) : Prop :=
  ∃ r answer text, (r, answer) ∈ past ∧ Reads address r ∧ textOf answer = .ok text ∧
    decode.parse? text = some a

/-- A request is made in somebody's name: the identity can be written, and the impersonation
headers are those of the identity. -/
def InNameOf (identity : Identity) (r : Request) : Prop :=
  identity.IsWritable ∧ Impersonation.Carries r.headers identity

theorem Reads.headers_eq {address : String} {r : Request} (h : Reads address r) :
    r.headers = .empty := by
  obtain ⟨uri, -, rfl⟩ := h
  rfl

theorem lasting_told {α : Type} {address : String} {decode : Json.Decoder α} {a : α} :
    Lasting (Told · address decode a) := by
  rintro past later hs ⟨r, answer, text, hm, h⟩
  exact ⟨r, answer, text, hs hm, h⟩

theorem inNameOf_of_eq_some {identity : Identity} {r q : Request}
    (h : inNameOf? identity r = some q) : InNameOf identity q := by
  obtain ⟨headers, hh, rfl⟩ := Option.map_eq_some_iff.1 h
  exact ⟨(Impersonation.headersFor?_eq_some hh).1, Impersonation.carries_of_headersFor? hh⟩

end Exchange

open Exchange

/-- A request belongs to discovery: it reads the versions of the core API, the kinds in the first
version that has been named, the groups, or the kinds in the version of a group that has been
named. -/
inductive Lookup.IsDiscovery (past : List Exchanged) (r : Request) : Prop
  /-- The versions of the core API. -/
  | coreVersions : Reads coreAddress r → IsDiscovery past r
  /-- The kinds of the core API. -/
  | coreKinds {version : String} {versions : List String} :
      Told past coreAddress Discovery.decodeCoreVersions (version :: versions) →
      Reads (coreAddress ++ "/" ++ version) r → IsDiscovery past r
  /-- The groups. -/
  | groups : Reads groupsAddress r → IsDiscovery past r
  /-- The kinds of a group. -/
  | groupKinds {groups : List Discovery.Group} {group : Discovery.Group} {version : String} :
      Told past groupsAddress Discovery.decodeGroups groups → group ∈ groups →
      group.version? = some version → Reads (groupsAddress ++ "/" ++ version) r →
      IsDiscovery past r

theorem Lookup.lasting_isDiscovery (r : Request) : Lasting (IsDiscovery · r) := by
  rintro past later hs h
  cases h with
  | coreVersions h => exact .coreVersions h
  | coreKinds ht h => exact .coreKinds (lasting_told hs ht) h
  | groups h => exact .groups h
  | groupKinds ht hm hv h => exact .groupKinds (lasting_told hs ht) hm hv h

theorem Lookup.IsDiscovery.headers_eq {past : List Exchanged} {r : Request}
    (h : IsDiscovery past r) : r.headers = .empty := by
  cases h with
  | coreVersions h => exact h.headers_eq
  | coreKinds _ h => exact h.headers_eq
  | groups h => exact h.headers_eq
  | groupKinds _ _ _ h => exact h.headers_eq

/-! ### Discovery -/

/-- Terms that last and allow discovery. -/
structure Terms.Discovers (t : Terms) : Prop where
  /-- What has been allowed stays allowed. -/
  lasting : t.Lasting
  /-- Discovery is allowed. -/
  discovery : ∀ past r, Lookup.IsDiscovery past r → t.allows past r

variable {t : Terms} {past : List Exchanged}

theorem Exchange.meets_read {α : Type} (decode : Json.Decoder α) {address : String}
    (h : ∀ r, Reads address r → t.allows past r) :
    (read decode address).Meets t (fun past a => Told past address decode a) past := by
  refine Operation.meets_orElse_bind fun uri hu => ?_
  have hreads : Reads address (get uri .empty) := ⟨uri, hu, rfl⟩
  refine Operation.meets_ofDialogue_bind.2 ⟨h _ hreads, fun answer _ => ?_⟩
  refine Operation.meets_ofExcept_bind fun text htext => Operation.meets_orElse fun a ha => ?_
  exact ⟨_, answer, text, List.mem_append_right past (List.mem_singleton.2 rfl), hreads, htext, ha⟩

namespace Lookup

theorem meets_groupLists {version : String}
    (hv : ∀ r, Reads (groupsAddress ++ "/" ++ version) r → t.allows past r) :
    (groupLists version).Meets t (fun _ _ => True) past := by
  rw [groupLists, Dialogue.meets_bind]
  exact (meets_read _ hv).attempt

variable (ht : t.Discovers)
include ht

theorem meets_coreLists {versions : List String}
    (hv : Told past coreAddress Discovery.decodeCoreVersions versions) :
    (coreLists versions).Meets t (fun _ _ => True) past := by
  cases versions with
  | nil => exact Operation.meets_ofExcept fun _ _ => trivial
  | cons version versions =>
    refine (meets_read _ fun r hr => ?_).bind fun _ _ _ _ => Operation.meets_pure trivial
    exact ht.discovery past r (.coreKinds hv hr)

theorem meets_gather : gather.Meets t (fun _ _ => True) past := by
  refine (meets_read _ fun r hr => ht.discovery past r (.coreVersions hr)).bind
    fun past versions _ hversions => ?_
  refine (meets_coreLists ht hversions).bind fun past core _ _ => ?_
  refine (meets_read _ fun r hr => ht.discovery past r (.groups hr)).bind
    fun past groups _ hgroups => ?_
  have hlists (d : Dialogue (List Discovery.KindList))
      (hd : d ∈ (groups.filterMap Discovery.Group.version?).map groupLists) :
      d.Meets t (fun _ _ => True) past := by
    obtain ⟨version, hversion, rfl⟩ := List.mem_map.1 hd
    obtain ⟨group, hgroup, hg⟩ := List.mem_filterMap.1 hversion
    exact meets_groupLists fun r hr => ht.discovery past r (.groupKinds hgroups hgroup hg hr)
  have hall := Dialogue.meets_all_trivial ht.lasting hlists
  exact Operation.meets_ofDialogue_bind.2 (hall.imp fun _ _ _ _ => Operation.meets_pure trivial)

theorem meets_discover : discover.Meets t (fun _ _ => True) past := by
  rw [discover, Dialogue.meets_bind]
  exact (meets_gather ht).attempt

theorem meets_refresh : refresh.Meets t (fun _ _ => True) past := by
  refine Operation.meets_ofDialogue_bind.2 fun moment cache => ?_
  -- the pair has been matched already, which `split` does not see through
  change Operation.Meets t _ (if cache.isValidAt moment then pure () else _) past
  split
  · exact Operation.meets_pure trivial
  · refine Operation.meets_ofDialogue_bind.2 ((meets_discover ht).imp fun past catalog _ _ => ?_)
    split
    · exact Operation.meets_ofExcept fun _ _ => trivial
    · exact Operation.meets_ofDialogue.2 trivial

theorem meets_all : Lookup.all.Meets t (fun _ _ => True) past := by
  rw [Lookup.all, Dialogue.meets_bind]
  refine (meets_refresh ht).attempt.imp fun past _ _ _ => ?_
  rw [Dialogue.meets_bind]
  exact fun _ _ => trivial

theorem meets_find (id : String) : (find id).Meets t (fun _ _ => True) past := by
  rw [Operation.Meets, find, Operation.attempt_mk, Dialogue.meets_bind]
  refine (meets_refresh ht).attempt.imp fun past _ _ _ => ?_
  rw [Dialogue.meets_bind]
  exact fun _ _ _ _ => trivial

end Lookup

/-! ### In the name of the caller -/

section Own

variable {identity : Identity}

namespace Exchange

theorem confined_read {α : Type} (decode : Json.Decoder α) (address : String) :
    (read decode address).Confined (Reads address) := by
  refine Operation.confined_orElse_bind fun uri hu => ?_
  refine Operation.confined_request_bind ⟨uri, hu, rfl⟩ fun answer => ?_
  exact (Operation.confined_ofExcept _).bind fun text => Operation.confined_ofExcept _

theorem confined_fetchAs (uri : Uri) (headers : Headers) :
    (fetchAs identity uri headers).Confined (InNameOf identity) := by
  refine Operation.confined_orElse_bind fun r hr => ?_
  refine Operation.confined_request_bind (inNameOf_of_eq_some hr) fun answer => ?_
  exact Operation.confined_ofExcept _

theorem confined_getText (address : String) (form : Option String) :
    (getText identity address form).Confined (InNameOf identity) := by
  refine Operation.confined_orElse_bind fun uri _ => ?_
  exact Operation.confined_orElse_bind fun headers _ => confined_fetchAs uri headers

end Exchange

namespace TableFetch

variable (d : Descriptor)

theorem confined_selected (path : Option ObjectFilter) (c : ListCall) :
    (selected identity d c path).Confined (InNameOf identity) := by
  cases path with
  | none => exact Operation.confined_pure none
  | some filter =>
    refine (confined_getText _ _).bind fun text => ?_
    exact Operation.confined_orElse_bind fun list _ => Operation.confined_pure _

theorem confined_fragment (path : Option ObjectFilter) (c : ListCall) :
    (fragment identity d path c).Confined (InNameOf identity) := by
  refine (confined_getText _ _).bind fun text => ?_
  refine Operation.confined_orElse_bind fun table _ => ?_
  exact (confined_selected d path c).bind fun keys => Operation.confined_pure _

/-- The table of a kind that is known. -/
def ofKind (identity : Identity) (list : String) (filter : TableFilter) (wide : Bool)
    (d : Descriptor) : Operation Table := do
  let selection ← Operation.ofExcept filter.prepare
  let calls := (plan d list filter).map fun c => (fragment identity d selection.path c).attempt
  let results ← Operation.ofDialogue (.collect calls)
  let fragments ← Operation.ofExcept (survivors results)
  Operation.ofExcept (mergeTables d wide selection.rows fragments)

theorem table_eq (identity : Identity) (resource list : String) (filter : TableFilter)
    (wide : Bool) :
    table identity resource list filter wide =
      Lookup.find resource >>= ofKind identity list filter wide := rfl

/-- All list requests of a table are made in the name of the caller. -/
theorem confined_ofKind (list : String) (filter : TableFilter) (wide : Bool) :
    (ofKind identity list filter wide d).Confined (InNameOf identity) := by
  refine (Operation.confined_ofExcept _).bind fun selection => ?_
  refine (Operation.confined_ofDialogue (.collect fun dialogue hd => ?_)).bind fun results => ?_
  · obtain ⟨c, _, rfl⟩ := List.mem_map.1 hd
    exact confined_fragment d selection.path c
  · exact (Operation.confined_ofExcept _).bind fun fragments => Operation.confined_ofExcept _

end TableFetch

namespace PodGroup

variable (d : Descriptor) (ns name : String)

theorem confined_object : (object identity d ns name).Confined (InNameOf identity) :=
  Operation.confined_orElse_bind fun uri _ => confined_fetchAs uri .empty

theorem confined_selectedPods (selector : String) :
    (selectedPods identity ns selector).Confined (InNameOf identity) := by
  refine Operation.confined_orElse_bind fun uri _ => ?_
  refine (confined_fetchAs uri .empty).bind fun text => ?_
  exact Operation.confined_ofExcept _

theorem confined_ofWorkload (document : String) :
    (ofWorkload identity d ns name document).Confined (InNameOf identity) := by
  refine Operation.confined_orElse_bind fun selector _ => ?_
  refine Operation.confined_orElse_bind fun selector _ => ?_
  refine (Operation.confined_ofExcept _).bind fun text => ?_
  exact (confined_selectedPods ns text).bind fun pods => Operation.confined_pure _

/-- The pods behind an object of a kind that is known. -/
def ofKind (identity : Identity) (ns name : String) (d : Descriptor) : Operation PodGroup := do
  let document ← object identity d ns name
  if d.id = podKind then ofPod name document else ofWorkload identity d ns name document

theorem resolve_eq (identity : Identity) (resource ns name : String) :
    resolve identity resource ns name = Lookup.find resource >>= ofKind identity ns name := rfl

/-- The object and the pods that it chooses are asked for in the name of the caller. -/
theorem confined_ofKind : (ofKind identity ns name d).Confined (InNameOf identity) := by
  refine (confined_object d ns name).bind fun document => ?_
  split
  · exact Operation.confined_orElse_bind fun pod _ => Operation.confined_pure _
  · exact confined_ofWorkload d ns name document

end PodGroup

/-- A log is asked for in the name of the caller. -/
theorem PodLog.confined_fetch (o : LogOptions) (ns pod : String) :
    (fetch identity o ns pod).Confined (InNameOf identity) := by
  rw [fetch]
  split
  · rename_i r hr
    rw [request?] at hr
    split at hr
    · cases hr
    · obtain ⟨uri, _, hr⟩ := Option.bind_eq_some_iff.1 hr
      exact ⟨inNameOf_of_eq_some hr, fun _ => trivial⟩
  · exact trivial

theorem PodLog.confined_fetch_mem {o : LogOptions} {ns : String} {pods : List String}
    {d : Dialogue PodLog} (hd : d ∈ pods.map fun pod => PodLog.fetch identity o ns pod) :
    d.Confined (InNameOf identity) := by
  obtain ⟨pod, _, rfl⟩ := List.mem_map.1 hd
  exact confined_fetch o ns pod

/-- The lines of the pods of a group that is known. -/
def LogBatch.ofGroup (identity : Identity) (q : LogsQuery) (filter : LineFilter)
    (range : TimeRange) (group : PodGroup) : Operation (List LogLine) := do
  let now ← Operation.ofDialogue .now
  let options := LogOptions.ofBatch q range.start now
  let logs ← Operation.ofDialogue
    (.collect (group.pods.map fun pod => PodLog.fetch identity options q.ns pod))
  return merge filter logs

theorem LogBatch.lines_eq (identity : Identity) (q : LogsQuery) :
    lines identity q = (do
      let asked ← Operation.ofDialogue .now
      let filter ← Operation.ofExcept (LineFilter.ofPattern q.filter (some (window q asked)))
      let group ← PodGroup.resolve identity q.resource q.ns q.name
      ofGroup identity q filter (window q asked) group) := rfl

theorem LogBatch.confined_ofGroup (q : LogsQuery) (filter : LineFilter) (range : TimeRange)
    (group : PodGroup) : (ofGroup identity q filter range group).Confined (InNameOf identity) := by
  have hnow : Dialogue.now.Confined (InNameOf identity) := fun _ => trivial
  refine (Operation.confined_ofDialogue hnow).bind fun now => ?_
  refine (Operation.confined_ofDialogue (.collect fun d hd => ?_)).bind fun logs => ?_
  · exact PodLog.confined_fetch_mem hd
  · exact Operation.confined_pure _

/-- The logs of the pods of a group that is known, to be followed. -/
def LiveStream.ofGroup (identity : Identity) (q : LogsQuery) (filter : LineFilter)
    (group : PodGroup) : Operation (LineFilter × List PodLog) := do
  let logs ← Operation.ofDialogue
    (.all (group.pods.map fun pod => PodLog.fetch identity (.ofLive q) q.ns pod))
  return (filter, logs)

theorem LiveStream.connect_eq (identity : Identity) (q : LogsQuery) :
    connect identity q = (do
      let filter ← Operation.ofExcept (LineFilter.ofPattern q.filter none)
      let group ← PodGroup.resolve identity q.resource q.ns q.name
      ofGroup identity q filter group) := rfl

theorem LiveStream.confined_ofGroup (q : LogsQuery) (filter : LineFilter) (group : PodGroup) :
    (ofGroup identity q filter group).Confined (InNameOf identity) := by
  refine (Operation.confined_ofDialogue (.all fun d hd => ?_)).bind fun logs => ?_
  · exact PodLog.confined_fetch_mem hd
  · exact Operation.confined_pure _

/-- A request that is passed on is passed on in the name of the caller. -/
theorem Proxy.confined_forward (p : Proxy) (target : String) (r : InboundRequest) :
    (p.forward identity target r).Confined (InNameOf identity) := by
  rw [forward]
  split
  · exact trivial
  · rename_i q hq
    refine ⟨?_, fun _ => trivial⟩
    obtain ⟨uri, headers, body, -, hh, -, rfl⟩ := outbound_eq_ok hq
    refine ⟨(Impersonation.headersFor?_eq_some hh).1, fun name hn => ?_⟩
    rw [values_traced (not_mem_traceHeaders hn p.trace)]
    exact Impersonation.carries_of_headersFor? hh name hn

end Own

/-! ### Calls -/

/-- Terms that last and allow discovery and whatever is asked in somebody's name. -/
structure Terms.Serve (t : Terms) (identity : Identity) : Prop where
  /-- What has been allowed stays allowed. -/
  lasting : t.Lasting
  /-- Discovery is allowed. -/
  discovery : ∀ past r, Lookup.IsDiscovery past r → t.allows past r
  /-- Requests in the name are allowed. -/
  inName : ∀ past r, InNameOf identity r → t.allows past r

theorem Terms.Serve.discovers {identity : Identity} (ht : t.Serve identity) : t.Discovers :=
  ⟨ht.lasting, ht.discovery⟩

namespace Gateway

/-- What a gateway is asked to do for a caller. -/
inductive Call : Type 1 where
  /-- To answer a query. -/
  | query (q : Query)
  /-- To check whether the caller may follow logs. -/
  | mayFollow (q : LogsQuery)
  /-- To follow logs. -/
  | follow {σ : Type} (q : LogsQuery) (sink : LineSink σ) (s : σ) (cancelled : Bool)
  /-- To pass a request on. -/
  | forward (target : String) (r : InboundRequest)

namespace Call

/-- What the gateway does for a call, whatever comes of it. -/
def dialogue (g : Gateway) (identity : Identity) : Call → Dialogue Unit
  | query q => (Gateway.query identity q).attempt.bind fun _ => .done ()
  | mayFollow q => (Gateway.mayFollow identity q).bind fun _ => .done ()
  | follow q sink s cancelled =>
    (Gateway.follow identity q sink s cancelled).attempt.bind fun _ => .done ()
  | forward target r => (g.proxy.forward identity target r).bind fun _ => .done ()

/-- A call asks for the names of the namespaces. -/
def AsksForNamespaces : Call → Prop
  | query .namespaces => True
  | _ => False

/-- The requests that a call may lead to, after the exchanges so far. -/
def Allows (identity : Identity) (call : Call) (past : List Exchanged) (r : Request) : Prop :=
  Lookup.IsDiscovery past r ∨ call.AsksForNamespaces ∧ Reads namespacesAddress r ∨
    InNameOf identity r

/-- Anything may come back, and the requests are those that a call may lead to. -/
def terms (identity : Identity) (call : Call) : Terms where
  answers _ _ := True
  allows := call.Allows identity

theorem serve_terms (identity : Identity) (call : Call) : (terms identity call).Serve identity where
  lasting r _ _ hs h := h.imp_left (Lookup.lasting_isDiscovery r hs)
  discovery _ _ h := .inl h
  inName _ _ h := .inr (.inr h)

end Call

variable {identity : Identity} (ht : t.Serve identity)
include ht

theorem meets_table (resource list : String) (filter : TableFilter) (wide : Bool) :
    (TableFetch.table identity resource list filter wide).Meets t (fun _ _ => True) past := by
  rw [TableFetch.table_eq]
  refine (Lookup.meets_find ht.discovers resource).bind fun past d _ _ => ?_
  exact (TableFetch.confined_ofKind d list filter wide).meets ht.inName

theorem meets_resolve (resource ns name : String) :
    (PodGroup.resolve identity resource ns name).Meets t (fun _ _ => True) past := by
  rw [PodGroup.resolve_eq]
  refine (Lookup.meets_find ht.discovers resource).bind fun past d _ _ => ?_
  exact (PodGroup.confined_ofKind d ns name).meets ht.inName

theorem meets_lines (q : LogsQuery) :
    (LogBatch.lines identity q).Meets t (fun _ _ => True) past := by
  rw [LogBatch.lines_eq]
  refine Operation.meets_ofDialogue_bind.2 fun asked => ?_
  refine Operation.meets_ofExcept_bind fun filter _ => ?_
  refine (meets_resolve ht _ _ _).bind fun past group _ _ => ?_
  exact (LogBatch.confined_ofGroup q filter _ group).meets ht.inName

theorem meets_connect (q : LogsQuery) :
    (LiveStream.connect identity q).Meets t (fun _ _ => True) past := by
  rw [LiveStream.connect_eq]
  refine Operation.meets_ofExcept_bind fun filter _ => ?_
  refine (meets_resolve ht _ _ _).bind fun past group _ _ => ?_
  exact (LiveStream.confined_ofGroup q filter group).meets ht.inName

theorem meets_containers (q : ContainersQuery) :
    (containers identity q).Meets t (fun _ _ => True) past :=
  (meets_resolve ht _ _ _).bind fun _ _ _ _ => Operation.meets_pure trivial

namespace Call

omit ht in
theorem meets_dialogue (g : Gateway) (identity : Identity) (call : Call) :
    (call.dialogue g identity).Meets (terms identity call) (fun _ _ => True) [] := by
  have ht := serve_terms identity call
  cases call with
  | query q =>
    rw [dialogue, Dialogue.meets_bind]
    -- the terms are about the requests only, so that every end will do
    refine Operation.Meets.attempt (Q := fun _ _ => True) ?_
    cases q with
    | resourceIds =>
      refine Operation.meets_ofDialogue_bind.2 ?_
      refine (Lookup.meets_all ht.discovers).imp fun _ _ _ _ => ?_
      exact Operation.meets_pure trivial
    | namespaces =>
      refine (meets_read _ fun r hr => Or.inr (Or.inl ⟨trivial, hr⟩)).bind ?_
      exact fun _ _ _ _ => Operation.meets_pure trivial
    | table q => exact (meets_table ht _ _ _ _).bind fun _ _ _ _ => Operation.meets_pure trivial
    | containers q => exact (meets_containers ht q).bind fun _ _ _ _ => Operation.meets_pure trivial
    | logs q => exact (meets_lines ht q).bind fun _ _ _ _ => Operation.meets_pure trivial
  | mayFollow q =>
    rw [dialogue, Dialogue.meets_bind, Gateway.mayFollow, Dialogue.meets_bind]
    exact (meets_containers ht _).attempt
  | follow q sink s cancelled =>
    rw [dialogue, Dialogue.meets_bind]
    refine Operation.Meets.attempt (Q := fun _ _ => True) ?_
    exact (meets_connect ht q).bind fun _ _ _ _ => Operation.meets_pure trivial
  | forward target r =>
    rw [dialogue, Dialogue.meets_bind]
    exact (Proxy.confined_forward g.proxy target r).meets ht.inName

omit ht in
/-- **In whose name requests are made.**  On every course of every call, a request is one of
discovery, the list of the namespaces that the call asks for, or carries the identity of the caller
and nothing else under the names of impersonation headers.  With an identity that cannot be written
no request is of the last kind. -/
theorem sent_in_name (g : Gateway) (identity : Identity) (call : Call)
    {xs before after : List Exchanged} {r : Request} {answer : Option Response}
    (hx : (call.dialogue g identity).Admits xs) (h : xs = before ++ (r, answer) :: after) :
    (Lookup.IsDiscovery before r ∨ call.AsksForNamespaces ∧ Reads namespacesAddress r ∨
      Impersonation.Carries r.headers identity) ∧
    (¬identity.IsWritable →
      Lookup.IsDiscovery before r ∨ call.AsksForNamespaces ∧ Reads namespacesAddress r) := by
  have hallowed : call.Allows identity ([] ++ before) r :=
    (meets_dialogue g identity call).allowed hx (fun _ _ => trivial) h
  rw [List.nil_append] at hallowed
  -- of the three classes only the last needs an identity that can be written
  rcases hallowed with hd | hl | hn
  · exact ⟨.inl hd, fun _ => .inl hd⟩
  · exact ⟨.inr (.inl hl), fun _ => .inr hl⟩
  · exact ⟨.inr (.inr hn.2), fun hi => absurd hn.1 hi⟩

omit ht in
/-- The table of the pods, with a cache that knows them: one request is sent, in the name of the
caller. -/
theorem sent_in_name_podTable :
    let g : Gateway := ⟨fun _ => .ok .none, ⟨16, none⟩⟩
    let cache : CatalogCache := ⟨⟨[.ofEntry "v1" "Pod" "pods" true]⟩, 0, 1⟩
    let d := (Call.query (.table ⟨"pod", "", "", "", false⟩)).dialogue g ⟨"alice", ["dev"]⟩
    ∃ r, (d.run (.answering fun _ => none) cache ()).sent = [r] ∧
      Impersonation.Carries r.headers ⟨"alice", ["dev"]⟩ := by
  intro g cache d
  let xs := d.exchanges (.answering fun _ => none) cache ()
  obtain ⟨x, hx⟩ : ∃ x, xs = [x] := List.length_eq_one_iff.1 (by decide +kernel)
  have hheaders : ∀ x ∈ xs, x.1.headers ≠ .empty := by decide +kernel
  have hsent := sent_in_name g ⟨"alice", ["dev"]⟩ _
    (Dialogue.admits_exchanges (.answering fun _ => none) cache ())
    (show xs = [] ++ (x.1, x.2) :: [] from hx)
  refine ⟨x.1, ?_, ?_⟩
  · rw [Dialogue.sent_run]
    exact congrArg (List.map Prod.fst) hx
  · -- a request with headers is not one of discovery
    rcases hsent.1 with hd | ⟨hn, -⟩ | hc
    · exact absurd hd.headers_eq (hheaders x (hx ▸ List.mem_singleton_self x))
    · cases hn
    · exact hc

end Call

end Gateway

end ClusterGateway

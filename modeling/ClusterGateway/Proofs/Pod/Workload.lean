import ClusterGateway.Pod.Group
import ClusterGateway.Proofs.Dialogue.Course
import ClusterGateway.Proofs.Selector.Rendering

/-!
# What a workload chooses

`PodGroup.ListedWith` says how the pods behind a workload are found: the selector is read from its
document, and the pods are listed with the text of this selector.

A selector is read leniently, so that a document that says it in another form is not refused.  A
plain map from keys to texts, as services and replication controllers have it, is read as the
selector without requirements, and this one selects everything.

* `PodGroup.meets_resolve_listed` : what resolving an object takes, on every course.
* `Workload.decode_of_plain` : a plain map is read as the selector without requirements.
* `PodGroup.listed_of_resolve` : **the pods of a workload are those listed with the text of its
  selector; this text is empty where the selector is a plain map**, whatever the map asks.
* `PodGroup.widens_webService` : a service whose pods are all pods of its namespace.
-/

namespace ClusterGateway

open Http Json

/-! ### Plain maps -/

namespace Json

/-- The document under a name that stands just once in an object. -/
def Document.member? (name : String) : Document → Option Document
  | .object members =>
    match (Members.ofObject? members).map (·.filter (·.1 = name)) with
    | some [(_, d)] => some d
    | _ => none
  | _ => none

/-- An object is a record with the fields that are known; a single one is found under its name. -/
theorem Members.read?_of_member? {name : String} {room : Nat} {d field : Document}
    (h : d.member? name = some field) :
    Members.read? [name] (room + 1) d = some ⟨false, [(name, field)], room⟩ := by
  cases d with
  | object members =>
    rw [Document.member?] at h
    split at h
    · rename_i key d hnamed
      obtain ⟨named, hof, hfilter⟩ := Option.map_eq_some_iff.1 hnamed
      have hkey : key = name := by
        have hmem : (key, d) ∈ named.filter (·.1 = name) := hfilter ▸ List.mem_cons_self
        exact of_decide_eq_true (List.mem_filter.1 hmem).2
      rw [hkey, Option.some.inj h] at hfilter
      rw [Members.read?]
      simp [hof, hfilter]
    · cases h
  | _ => cases h

theorem Members.withDefault_single {α : Type} {name : String} {field : Document} {room : Nat}
    {default : α} {decode : Decoder α} :
    Members.withDefault ⟨false, [(name, field)], room⟩ name default decode = decode room field := by
  rw [withDefault, find]
  cases h : decode room field <;> simp [h]

theorem Members.orDefault_of_not_mem {α : Type} {m : Members} {name : String} {default : α}
    {decode : Decoder α} (h : ∀ f ∈ m.fields, f.1 ≠ name) :
    m.orDefault name default decode = some default := by
  have hnone : m.fields.filter (·.1 = name) = [] :=
    List.filter_eq_nil_iff.2 fun f hf hname => h f hf (of_decide_eq_true hname)
  simp [orDefault, withDefault, find, hnone]

namespace Decoder

variable {α : Type} {decode : Decoder α}

theorem mem_put {key k : String} {v : α} {ms : List (String × α)}
    (h : k = key ∨ k ∈ ms.map Prod.fst) : k ∈ (map.put key v ms).map Prod.fst := by
  induction ms with
  | nil => simpa [map.put] using h
  | cons m ms ih =>
    rw [map.put]
    split
    · rename_i hkey
      simpa [hkey] using h
    split
    · simpa using h
    · simp only [List.map_cons, List.mem_cons] at h ⊢
      rcases h with h | h | h
      · exact .inr (ih (.inl h))
      · exact .inl h
      · exact .inr (ih (.inr h))

theorem mem_foldl_put {entries ms : List (String × α)} {k : String}
    (h : k ∈ entries.map Prod.fst ∨ k ∈ ms.map Prod.fst) :
    k ∈ (entries.foldl (fun ms m => map.put m.1 m.2 ms) ms).map Prod.fst := by
  induction entries generalizing ms with
  | nil => simpa using h
  | cons e entries ih =>
    refine ih ?_
    rcases h with h | h
    · rcases List.mem_cons.1 h with h | h
      · exact .inr (mem_put (.inl h))
      · exact .inl h
    · exact .inr (mem_put (.inr h))

theorem names_of_mapM {room : Nat} {members : List (List Nat × Document)}
    {entries : List (String × α)}
    (h : (members.mapM fun (codes, d) => do
      let key ← text? codes
      let v ← decode room d
      return (key, v)) = some entries) :
    ∃ named, Members.ofObject? members = some named ∧
      named.map Prod.fst = entries.map Prod.fst := by
  induction members generalizing entries with
  | nil =>
    cases h
    exact ⟨[], rfl, rfl⟩
  | cons m members ih =>
    obtain ⟨codes, d⟩ := m
    rw [List.mapM_cons] at h
    obtain ⟨entry, hentry, h⟩ := Option.bind_eq_some_iff.1 h
    obtain ⟨rest, hrest, h⟩ := Option.bind_eq_some_iff.1 h
    obtain ⟨key, hkey, hentry⟩ := Option.bind_eq_some_iff.1 hentry
    obtain ⟨v, -, hentry⟩ := Option.bind_eq_some_iff.1 hentry
    obtain ⟨named, hnamed, hnames⟩ := ih hrest
    cases h
    cases hentry
    rw [Members.ofObject?] at hnamed
    refine ⟨(key, d) :: named, ?_, ?_⟩
    · rw [Members.ofObject?, List.mapM_cons, hnamed]
      simp [hkey]
    · rw [List.map_cons, List.map_cons, hnames]

theorem exists_of_map_eq_some {room : Nat} {d : Document} {pairs : List (String × α)}
    (h : map decode room d = some pairs) :
    ∃ members named, d = .object members ∧ Members.ofObject? members = some named ∧
      ∀ f ∈ named, f.1 ∈ pairs.map Prod.fst := by
  cases room with
  | zero => cases d <;> cases h
  | succ room =>
    cases d with
    | object members =>
      obtain ⟨entries, hentries, h⟩ := Option.bind_eq_some_iff.1 h
      obtain ⟨named, hnamed, hnames⟩ := names_of_mapM hentries
      refine ⟨members, named, rfl, hnamed, fun f hf => ?_⟩
      have hmem : f.1 ∈ entries.map Prod.fst := hnames ▸ List.mem_map_of_mem hf
      rw [← Option.some.inj h]
      exact mem_foldl_put (.inl hmem)
    | _ => cases h

end Decoder

end Json

/-! ### Reading a workload -/

/-- What stands under `spec.selector` in a document, read as a plain map from keys to texts. -/
def Workload.plainSelector? (document : String) : Option (List (String × String)) := do
  let d ← Document.parse? document
  let spec ← d.member? "spec"
  let selector ← spec.member? "selector"
  Decoder.map .string Document.maxDepth selector

/-- The document of an object whose `spec.selector` is a plain map that asks something, by keys that
mean nothing in a label selector. -/
structure Workload.IsPlain (document : String) (pairs : List (String × String)) : Prop where
  /-- These are the pairs of the map. -/
  reads : plainSelector? document = some pairs
  /-- It is not empty. -/
  ne_nil : pairs ≠ []
  /-- It is not a label selector. -/
  keys : ∀ pair ∈ pairs, pair.1 ≠ "matchLabels" ∧ pair.1 ≠ "matchExpressions"

/-- **A plain map is read as the selector without requirements.** -/
theorem Workload.decode_of_plain {document : String} {pairs : List (String × String)}
    (h : Workload.IsPlain document pairs) :
    Workload.decode.parse? document = some (some ⟨[], []⟩) := by
  obtain ⟨hpairs, -, hkeys⟩ := h
  obtain ⟨d, hd, hpairs⟩ := Option.bind_eq_some_iff.1 hpairs
  obtain ⟨spec, hspec, hpairs⟩ := Option.bind_eq_some_iff.1 hpairs
  obtain ⟨selector, hselector, hmap⟩ := Option.bind_eq_some_iff.1 hpairs
  obtain ⟨members, named, rfl, hnamed, hnames⟩ := Decoder.exists_of_map_eq_some hmap
  -- neither part of a selector is a key of the map, so that both have their defaults
  have habsent (name : String) (hname : name = "matchLabels" ∨ name = "matchExpressions")
      (f : String × Document) (hf : f ∈ named) : f.1 ≠ name := by
    intro heq
    obtain ⟨pair, hpair, hkey⟩ := List.mem_map.1 (hnames f hf)
    have hne := hkeys pair hpair
    rw [hkey, heq] at hne
    rcases hname with rfl | rfl
    · exact hne.1 rfl
    · exact hne.2 rfl
  have hread (room : Nat) : LabelSelector.decode (room + 1) (.object members) =
      some ⟨[], []⟩ := by
    have hlabels : Members.orDefault ⟨false, named, room⟩ "matchLabels" []
        (.map .string) = some [] :=
      Members.orDefault_of_not_mem (habsent _ (.inl rfl))
    have hexpressions : Members.orDefault ⟨false, named, room⟩ "matchExpressions" []
        (.list LabelExpression.decode) = some [] :=
      Members.orDefault_of_not_mem (habsent _ (.inr rfl))
    simp [LabelSelector.decode, Members.readObject?, hnamed, hlabels, hexpressions]
  have hdecode : Workload.decode Document.maxDepth d = some (some ⟨[], []⟩) := by
    rw [Workload.decode, Document.maxDepth, Members.read?_of_member? hspec]
    change Members.withDefault _ "spec" none Workload.decodeSpec = _
    rw [Members.withDefault_single, Workload.decodeSpec, Members.read?_of_member? hselector]
    change Members.withDefault _ "selector" none _ = _
    rw [Members.withDefault_single]
    exact congrArg (Option.map some) (hread _)
  rw [Decoder.parse?, hd]
  exact hdecode

/-! ### Resolving -/

namespace Exchange

/-- The text at an address has been asked for in somebody's name, and has come back. -/
def Answered (past : List Exchanged) (identity : Identity) (address text : String) : Prop :=
  ∃ uri r answer, Uri.parse? address = some uri ∧ inNameOf? identity (get uri .empty) = some r ∧
    (r, answer) ∈ past ∧ textOf answer = .ok text

variable {identity : Identity} {address text : String} {past : List Exchanged}

theorem lasting_answered : Lasting (Answered · identity address text) := by
  rintro past later hs ⟨uri, r, answer, hu, hr, hmem, ht⟩
  exact ⟨uri, r, answer, hu, hr, hs hmem, ht⟩

theorem meets_fetchAs_answered {uri : Uri} (hu : Uri.parse? address = some uri) :
    (fetchAs identity uri .empty).Meets .free (fun past text => Answered past identity address text)
      past := by
  refine Operation.meets_orElse_bind fun r hr => ?_
  refine Operation.meets_ofDialogue_bind.2 ⟨trivial, fun answer _ => ?_⟩
  refine Operation.meets_ofExcept fun text ht => ?_
  exact ⟨uri, r, answer, hu, hr, List.mem_append_right past (List.mem_singleton.2 rfl), ht⟩

end Exchange

open Exchange

theorem Lookup.meets_find_id (id : String) {past : List Exchanged} :
    (Lookup.find id).Meets .free (fun _ d => d.id = id) past := by
  rw [Operation.Meets, find, Operation.attempt_mk, Dialogue.meets_bind]
  refine (Dialogue.meets_free _ past).imp fun past refreshed _ _ => ?_
  rw [Dialogue.meets_bind]
  intro moment cache d hd
  cases hget : cache.get? id with
  | none =>
    rw [hget] at hd
    cases refreshed <;> cases hd
  | some found =>
    rw [hget] at hd
    have hid := List.find?_some hget
    rw [← Except.ok.inj hd]
    exact of_decide_eq_true hid

namespace PodGroup

/-- The pods that a workload has chosen, told by its document: the selector that is read from it
has a text, and the pods of the namespace have been listed with this text. -/
structure ListedWith (past : List Exchanged) (identity : Identity) (ns document text : String)
    (group : PodGroup) : Prop where
  /-- The text is that of the selector. -/
  selector : ∃ selector, Workload.decode.parse? document = some (some selector) ∧
    selector.render = .ok text
  /-- The pods are those in the list. -/
  pods : ∃ list pods, Answered past identity (selectedAddress ns text) list ∧
    decodePodList.parse? list = some pods ∧ group = ofPods pods

variable {identity : Identity} {ns name resource document : String} {group : PodGroup}
variable {past : List Exchanged}

theorem meets_object_answered (d : Descriptor) :
    (object identity d ns name).Meets .free
      (fun past document => Answered past identity (d.objectPath (some ns) name) document)
      past := by
  refine Operation.meets_orElse_bind fun uri hu => ?_
  split at hu
  · cases hu
  · exact meets_fetchAs_answered hu

theorem meets_ofWorkload_listed (d : Descriptor) :
    (ofWorkload identity d ns name document).Meets .free
      (fun past group => ∃ text, ListedWith past identity ns document text group) past := by
  refine Operation.meets_orElse_bind fun found hfound => ?_
  refine Operation.meets_orElse_bind fun selector hselector => ?_
  refine Operation.meets_ofExcept_bind fun text ht => ?_
  have hlist : (selectedPods identity ns text).Meets .free (fun past pods => ∃ list,
      Answered past identity (selectedAddress ns text) list ∧
      decodePodList.parse? list = some pods) past := by
    refine Operation.meets_orElse_bind fun uri hu => ?_
    refine (meets_fetchAs_answered hu).bind fun later list _ hl => ?_
    exact Operation.meets_orElse fun pods hp => ⟨list, hl, hp⟩
  refine hlist.bind fun later pods _ ⟨list, hl, hp⟩ => Operation.meets_pure ?_
  exact ⟨text, ⟨selector, hselector ▸ hfound, ht⟩, list, pods, hl, hp, rfl⟩

/-- **What resolving an object takes**: its kind is known, its document comes back, and unless it
is a pod it has chosen the group. -/
theorem meets_resolve_listed :
    (resolve identity resource ns name).Meets .free (fun past group =>
      ∃ (d : Descriptor) (document : String),
      d.id = resource ∧ Answered past identity (d.objectPath (some ns) name) document ∧
      (resource ≠ podKind → ∃ text, ListedWith past identity ns document text group)) past := by
  refine (Lookup.meets_find_id resource).bind fun past d _ hd => ?_
  refine (meets_object_answered d).bind fun past document _ hdoc => ?_
  split
  · rename_i hpod
    refine Operation.meets_orElse_bind fun pod _ => Operation.meets_pure ?_
    exact ⟨d, document, hd, hdoc, fun hne => absurd (hd.symm.trans hpod) hne⟩
  · -- listing the pods comes later, and the document has come back by then
    have hlast : Lasting (Answered · identity (d.objectPath (some ns) name) document) :=
      lasting_answered
    refine Operation.meets_iff.2 ((Operation.meets_iff.1 (meets_ofWorkload_listed d)).imp ?_)
    intro later r hs hr group hgroup
    exact ⟨d, document, hd, hlast hs hdoc, fun _ => hr group hgroup⟩

/-- **The pods of a workload are those listed with the text of its selector.**  The text chooses what
the selector that was read matches.  But a plain map is read as the selector without requirements,
whose text is empty: then all pods of the namespace are listed, whatever the map asks. -/
theorem listed_of_resolve {σ : Type} {w : World σ} {cache : CatalogCache} {s : σ}
    (hr : resource ≠ podKind)
    (h : ((resolve identity resource ns name).attempt.run w cache s).result = .ok group) :
    ∃ (d : Descriptor) (document text : String), d.id = resource ∧
      Answered ((resolve identity resource ns name).attempt.exchanges w cache s) identity
        (d.objectPath (some ns) name) document ∧
      ListedWith ((resolve identity resource ns name).attempt.exchanges w cache s) identity ns
        document text group ∧
      (∀ selector, Workload.decode.parse? document = some (some selector) →
        selector.IsAdmissible → ∀ labels,
          LabelSelector.Chooses text labels ↔ selector.Matches labels) ∧
      ∀ pairs, Workload.IsPlain document pairs → text = "" := by
  obtain ⟨d, document, hd, hdoc, hlisted⟩ := meets_resolve_listed.result_run h
  obtain ⟨text, hl⟩ := hlisted hr
  obtain ⟨selector, hselector, ht⟩ := hl.selector
  refine ⟨d, document, text, hd, hdoc, hl, fun other hother hadmissible labels => ?_,
    fun pairs hplain => ?_⟩
  · cases hselector.symm.trans hother
    exact LabelSelector.chooses_iff_matches hadmissible ht
  · have hempty : LabelSelector.render ⟨[], []⟩ = .ok "" := by
      simp [LabelSelector.render, LabelSelector.labelClauses, LabelSelector.sortClauses, pure,
        Except.pure, Except.map]
    cases hselector.symm.trans (Workload.decode_of_plain hplain)
    exact Except.ok.inj (ht.symm.trans hempty)

/-! ### A service -/

/-- The document of a service for the pods of an application. -/
def webService : String :=
  "\x7b\"spec\":\x7b\"selector\":\x7b\"app\":\"web\"\x7d\x7d\x7d"

/-- A list of pods with names. -/
def podsNamed (names : List String) : String :=
  "\x7b\"items\":[" ++ ",".intercalate (names.map fun name =>
    "\x7b\"metadata\":\x7b\"name\":\"" ++ name ++ "\"\x7d\x7d") ++ "]\x7d"

/-- A namespace with a service and two pods, one of which is of the application. -/
def answerWeb (r : Request) : Option Response :=
  if r.uri.path = "/api/v1/namespaces/default/services/web" then some (.text 200 webService)
  else if r.uri.path = "/api/v1/namespaces/default/pods" then
    if r.uri.query = some "&labelSelector=app%3Dweb" then some (.text 200 (podsNamed ["web-1"]))
    else some (.text 200 (podsNamed ["db-1", "web-1"]))
  else none

theorem isPlain_webService : Workload.IsPlain webService [("app", "web")] where
  reads := by decide +kernel
  ne_nil := by decide
  keys := by decide

/-- The pods behind the service, asked for by Alice. -/
def resolveWeb : Operation PodGroup := resolve ⟨"alice", []⟩ "service" "default" "web"

/-- A cache in which services are known. -/
def knowsServices : CatalogCache := ⟨⟨[.ofEntry "v1" "Service" "services" true]⟩, 0, 1⟩

theorem result_webService :
    (resolveWeb.attempt.run (.answering answerWeb) knowsServices ()).result =
      .ok ⟨["db-1", "web-1"], []⟩ := by decide +kernel

/-- The service is resolved, and so its pods are those listed with the text of its selector. -/
theorem listed_of_resolve_webService :
    (resolveWeb.attempt.run (.answering answerWeb) knowsServices ()).result =
      .ok ⟨["db-1", "web-1"], []⟩ ∧
    ∃ (d : Descriptor) (document text : String), d.id = "service" ∧
      Answered (resolveWeb.attempt.exchanges (.answering answerWeb) knowsServices ()) ⟨"alice", []⟩
        (d.objectPath (some "default") "web") document ∧
      ListedWith (resolveWeb.attempt.exchanges (.answering answerWeb) knowsServices ())
        ⟨"alice", []⟩ "default" document text ⟨["db-1", "web-1"], []⟩ ∧
      (∀ selector, Workload.decode.parse? document = some (some selector) →
        selector.IsAdmissible → ∀ labels,
          LabelSelector.Chooses text labels ↔ selector.Matches labels) ∧
      ∀ pairs, Workload.IsPlain document pairs → text = "" :=
  ⟨result_webService, listed_of_resolve (by decide) result_webService⟩

/-- **A service may widen to its namespace.**  It asks for the pods of one application; the pods
are listed without any requirement, and the group has a pod of another application. -/
theorem widens_webService :
    Workload.IsPlain webService [("app", "web")] ∧
    (resolveWeb.attempt.run (.answering answerWeb) knowsServices ()).result =
      .ok ⟨["db-1", "web-1"], []⟩ ∧
    (resolveWeb.attempt.run (.answering answerWeb) knowsServices ()).sent.map
      (fun r => (r.uri.path, r.uri.query)) =
        [("/api/v1/namespaces/default/services/web", none),
          ("/api/v1/namespaces/default/pods", some "&labelSelector=")] :=
  ⟨isPlain_webService, result_webService, by decide +kernel⟩

end PodGroup

end ClusterGateway

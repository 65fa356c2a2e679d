import ClusterGateway.Proofs.Gateway.Answers
import ClusterGateway.Proofs.Http.Form
import ClusterGateway.Proofs.Pod.Workload
import ClusterGateway.Proofs.Table.Plan

/-!
# Finding the pods behind an object

What is asked, and what comes of the answers: `PodGroup.Resolution` has one case for each way in
which the search can end, with all exchanges up to the end.

* `isFirsts_eraseDups` : a list without its later repetitions has each item once, where it stands
  first.
* `items_of_decodePodList` : the pods of a list are its items, one by one.
* `PodGroup.meets_ofKind` : what is asked for an object of a known kind, on every course.
* `PodGroup.resolution_of_resolve` : **the pods behind an object**: a pod is asked for once and is
  the group; any other object is asked for once, and then its pods are, if its selector has a text;
  whatever fails is the end.
-/

namespace ClusterGateway

open Http Json

/-! ### First occurrences -/

/-- A list has the items of another one where they stand first there. -/
structure IsFirsts {α : Type} [BEq α] (all firsts : List α) : Prop where
  /-- No item comes twice. -/
  nodup : firsts.Nodup
  /-- None is missing, and there are no others. -/
  mem : ∀ a, a ∈ firsts ↔ a ∈ all
  /-- They are in the order of their first places. -/
  order : firsts.Pairwise fun a b => all.idxOf a < all.idxOf b

/-- **Each item is kept where it stands first.** -/
theorem isFirsts_eraseDups {α : Type} [BEq α] [LawfulBEq α] (all : List α) :
    IsFirsts all all.eraseDups := by
  have horder : all.eraseDups.Pairwise fun a b => all.idxOf a < all.idxOf b := by
    -- from the right, so that places do not move
    induction all using List.reverseRecOn with
    | nil => simp
    | append_singleton all a ih =>
      have hold : all.eraseDups.Pairwise fun b c =>
          (all ++ [a]).idxOf b < (all ++ [a]).idxOf c := by
        refine ih.imp_of_mem fun hb hc h => ?_
        rw [List.mem_eraseDups] at hb hc
        rwa [List.idxOf_append_of_mem hb, List.idxOf_append_of_mem hc]
      rw [List.eraseDups_append]
      by_cases ha : a ∈ all
      · simpa [List.removeAll, ha] using hold
      · have hnew : [a].removeAll all = [a] := by simp [List.removeAll, ha]
        rw [hnew, List.eraseDups_cons, List.filter_nil, List.eraseDups_nil]
        refine List.pairwise_append.2 ⟨hold, List.pairwise_singleton _ _, fun b hb c hc => ?_⟩
        rw [List.mem_eraseDups] at hb
        rw [List.mem_singleton.1 hc, List.idxOf_append_of_mem hb,
          List.idxOf_append_of_notMem ha, List.idxOf_cons_self]
        exact List.idxOf_lt_length_iff.2 hb
  exact ⟨horder.imp fun h heq => by simp [heq] at h, fun a => List.mem_eraseDups, horder⟩

/-- The items of a list of pods in a document are read one by one. -/
theorem items_of_decodePodList {text : String} {pods : List Pod} {d : Document}
    {items : List Document} (hpods : decodePodList.parse? text = some pods)
    (hd : Document.parse? text = some d) (hitems : d.member? "items" = some (.array items)) :
    ∃ room, List.Forall₂ (fun item pod => Pod.decode room item = some pod) items pods := by
  rw [Decoder.parse?, hd] at hpods
  have hread : decodePodList Document.maxDepth d =
      Decoder.list Pod.decode (Document.maxDepth - 1) (.array items) := by
    rw [decodePodList, Document.maxDepth, Members.read?_of_member? hitems]
    exact Members.withDefault_single
  refine ⟨Document.maxDepth - 2, ?_⟩
  have hmap : items.mapM (Pod.decode (Document.maxDepth - 2)) = some pods :=
    hread.symm.trans hpods
  clear hpods hread hitems
  induction items generalizing pods with
  | nil =>
    cases hmap
    exact .nil
  | cons item items ih =>
    rw [List.mapM_cons] at hmap
    obtain ⟨pod, hpod, hmap⟩ := Option.bind_eq_some_iff.1 hmap
    obtain ⟨rest, hrest, hmap⟩ := Option.bind_eq_some_iff.1 hmap
    cases hmap
    exact .cons hpod (ih hrest)

open Exchange

/-! ### The course of a search -/

namespace PodGroup

/-- The text that chooses pods, from the answer to the request for a workload, or what fails
first. -/
inductive Chooses (d : Descriptor) (name : String) (answer : Option Response) :
    Except GatewayError String → Prop
  /-- The object is not read. -/
  | unread {e : GatewayError} : ReadAs Workload.decode answer (.error e) →
      Chooses d name answer (.error e)
  /-- It has no selector. -/
  | unselective : ReadAs Workload.decode answer (.ok none) →
      Chooses d name answer (.error (withoutSelector d name))
  /-- The selector has a text, or it cannot be written. -/
  | written {selector : LabelSelector} : ReadAs Workload.decode answer (.ok (some selector)) →
      Chooses d name answer selector.render

/-- How the search for the pods behind an object of a kind can end: all exchanges, and what comes of
them. -/
inductive Resolution (identity : Identity) (d : Descriptor) (ns name : String) :
    List Exchanged → Except GatewayError PodGroup → Prop
  /-- What is written for the object is no address. -/
  | unaddressed : Uri.parse? (d.objectPath (some ns) name) = none →
      Resolution identity d ns name [] (.error .badObjectRequest)
  /-- The object is a pod: nothing else is asked for.  The group is this pod. -/
  | pod {uri : Uri} {r : Request} {answer : Option Response} {read : Except GatewayError Pod} :
      d.id = podKind → Uri.parse? (d.objectPath (some ns) name) = some uri →
      AsksFor identity uri r → ReadAs Pod.decode answer read →
      Resolution identity d ns name [(r, answer)]
        (read.map fun pod => ⟨[name], pod.containerNames⟩)
  /-- The object does not choose pods: nothing else is asked for. -/
  | unchosen {uri : Uri} {r : Request} {answer : Option Response} {e : GatewayError} :
      d.id ≠ podKind → Uri.parse? (d.objectPath (some ns) name) = some uri →
      AsksFor identity uri r → Chooses d name answer (.error e) →
      Resolution identity d ns name [(r, answer)] (.error e)
  /-- The address of the pods would be too long: nothing else is asked for. -/
  | unlisted {uri : Uri} {r : Request} {answer : Option Response} {text : String} :
      d.id ≠ podKind → Uri.parse? (d.objectPath (some ns) name) = some uri →
      AsksFor identity uri r → Chooses d name answer (.ok text) →
      Uri.maxLength < (Utf8.encode (selectedAddress ns text)).length →
      Resolution identity d ns name [(r, answer)] (.error .badObjectRequest)
  /-- The pods of the namespace are listed, and the parameter of this request is the text.  The group
  is that of the pods with names, in the order of the list, and of the containers of the first pod
  in it. -/
  | listed {uri : Uri} {r s : Request} {answer list : Option Response} {text query : String}
      {read : Except GatewayError (List Pod)} :
      d.id ≠ podKind → Uri.parse? (d.objectPath (some ns) name) = some uri →
      AsksFor identity uri r → Chooses d name answer (.ok text) →
      AsksFor identity ⟨none, none, podsPath ns, some query⟩ s →
      Percent.IsParameter query "labelSelector" text → ReadAs decodePodList list read →
      Resolution identity d ns name [(r, answer), (s, list)]
        (read.map fun pods =>
          ⟨pods.filterMap Pod.name, (pods.head?.map Pod.containerNames).getD []⟩)

variable {identity : Identity} {d : Descriptor} {ns name text : String} {past : List Exchanged}

/-! ### Addresses -/

theorem selectedAddress_eq (ns text : String) : selectedAddress ns text = podsPath ns ++
    Uri.written (some ("&" ++ "labelSelector" ++ "=" ++ Percent.encodeForm text)) := by
  have hmarks : "?&labelSelector=" = "?" ++ ("&" ++ "labelSelector" ++ "=") := rfl
  rw [selectedAddress, hmarks, Uri.written]
  simp only [String.append_assoc]

/-- **The address of the pods that a text chooses** has this text as its only parameter, unless it
is too long. -/
theorem parse?_selectedAddress (hns : Uri.IsPath ns) (text : String) :
    Uri.maxLength < (Utf8.encode (selectedAddress ns text)).length ∧
        Uri.parse? (selectedAddress ns text) = none ∨
      ∃ query, Uri.parse? (selectedAddress ns text) =
        some ⟨none, none, podsPath ns, some query⟩ ∧
        Percent.IsParameter query "labelSelector" text := by
  have hpath : Uri.IsPath (podsPath ns) := by
    have hfront : Uri.IsPath "/api/v1/namespaces/" := by decide
    exact (hfront.append hns).append (by decide : Uri.IsPath "/pods")
  have hquery : Uri.IsQuery ("&" ++ "labelSelector" ++ "=" ++ Percent.encodeForm text) := by
    intro b hb
    rw [Utf8.encode_append, List.mem_append] at hb
    have hname : Uri.IsQuery ("&" ++ "labelSelector" ++ "=") := by decide
    exact hb.elim (hname b) (Percent.isQuery_encodeForm text b)
  by_cases hlength : (Utf8.encode (selectedAddress ns text)).length ≤ Uri.maxLength
  · refine .inr ⟨_, ?_, Percent.isParameter_encodeForm (by decide) (by decide +kernel) text⟩
    rw [selectedAddress_eq] at hlength ⊢
    have hroot : Uri.IsRooted "/api/v1/namespaces/" := ⟨"api/v1/namespaces/", by decide⟩
    exact Uri.parse?_written ((hroot.append ns).append "/pods") hpath
      (by rintro _ ⟨⟩; exact hquery) hlength
  · refine .inl ⟨Nat.not_le.1 hlength, ?_⟩
    rw [Uri.parse?, Uri.ofBytes?, if_pos (.inr (Nat.not_le.1 hlength))]

/-- **The address of an object** is its path, where all parts of it can stand in a path. -/
theorem parse?_objectPath (hroot : Uri.IsRooted d.path) (hpath : Uri.IsPath d.path)
    (hplural : Uri.IsPath d.pluralName) (hns : Uri.IsPath ns) (hname : Uri.IsPath name)
    (hlength : (Utf8.encode (d.objectPath (some ns) name)).length ≤ Uri.maxLength) :
    Uri.parse? (d.objectPath (some ns) name) =
      some ⟨none, none, d.objectPath (some ns) name, none⟩ := by
  have hslash : Uri.IsPath "/" := Uri.isPath_slash
  have hcollection : Uri.IsPath (d.collectionPath (some ns)) := by
    rw [Descriptor.collectionPath]
    split
    · have hnamespaces : Uri.IsPath "/namespaces/" := by decide
      exact (((hpath.append hnamespaces).append hns).append hslash).append hplural
    · exact (hpath.append hslash).append hplural
  have hobject : Uri.IsPath (d.objectPath (some ns) name) :=
    (hcollection.append hslash).append hname
  have hrooted : Uri.IsRooted (d.objectPath (some ns) name) :=
    ((TableFetch.isRooted_collectionPath hroot _).append _).append _
  have hwritten : d.objectPath (some ns) name = d.objectPath (some ns) name ++ Uri.written none :=
    (String.append_empty).symm
  rw [hwritten] at hlength
  have hparse := Uri.parse?_written hrooted hobject (by rintro _ ⟨⟩) hlength
  rwa [← hwritten] at hparse

/-! ### What is asked -/

theorem exists_chooses (identity : Identity) (d : Descriptor) (ns name : String)
    (answer : Option Response) :
    ∃ chosen, Chooses d name answer chosen ∧
      Operation.next (ofWorkload identity d ns name) (textOf answer) =
        Operation.next (fun text => selectedPods identity ns text >>= fun pods =>
          pure (ofPods pods)) chosen := by
  obtain ⟨read, hread, hnext⟩ := exists_readAs Workload.decode answer
  have hgo := next_readAs (fun found => Operation.orElse (withoutSelector d name) found >>=
    fun selector => Operation.ofExcept selector.render >>= fun text =>
      selectedPods identity ns text >>= fun pods => pure (ofPods pods)) hnext
  cases read with
  | error e => exact ⟨_, .unread hread, hgo⟩
  | ok found =>
    cases found with
    | none => exact ⟨_, .unselective hread, hgo⟩
    | some selector =>
      have hwritten := Operation.attempt_bind (Operation.ofExcept selector.render) fun text =>
        selectedPods identity ns text >>= fun pods => pure (ofPods pods)
      rw [Operation.attempt_ofExcept, Dialogue.done_bind] at hwritten
      exact ⟨_, .written hread, hgo.trans hwritten⟩

/-- **The pods of a namespace that a text chooses** are listed by one request, unless its address
would be too long. -/
theorem meets_selectedPods {Q : List Exchanged → Except GatewayError (List Pod) → Prop}
    (hid : identity.IsWritable) (hns : Uri.IsPath ns)
    (hlong : Uri.maxLength < (Utf8.encode (selectedAddress ns text)).length →
      Q past (.error .badObjectRequest))
    (hlist : ∀ query r answer read,
      AsksFor identity ⟨none, none, podsPath ns, some query⟩ r →
      Percent.IsParameter query "labelSelector" text → ReadAs decodePodList answer read →
      Q (past ++ [(r, answer)]) read) :
    (selectedPods identity ns text).attempt.Meets .free Q past := by
  obtain ⟨hlength, hnone⟩ | ⟨query, huri, hparameter⟩ := parse?_selectedAddress hns text
  · rw [selectedPods, hnone]
    exact hlong hlength
  · have heq : selectedPods identity ns text =
        fetchAs identity ⟨none, none, podsPath ns, some query⟩ .empty >>= fun text =>
          Operation.orElse .malformed (decodePodList.parse? text) := by
      rw [selectedPods, huri]
      rfl
    obtain ⟨r, hr, hasks⟩ := exists_inNameOf? hid ⟨none, none, podsPath ns, some query⟩
    rw [heq]
    refine meets_fetchAs_bind hr fun answer => ?_
    obtain ⟨read, hread, hnext⟩ := exists_readAs decodePodList answer
    rw [hnext]
    exact hlist query r answer read hasks hparameter hread

/-- **What is asked for an object of a known kind**, on every course. -/
theorem meets_ofKind (hid : identity.IsWritable) (hns : Uri.IsPath ns) (hname : name ≠ "") :
    (ofKind identity ns name d).attempt.Meets .free (Resolution identity d ns name) [] := by
  cases huri : Uri.parse? (d.objectPath (some ns) name) with
  | none =>
    rw [ofKind, object, if_neg hname, huri]
    exact .unaddressed huri
  | some uri =>
    have heq : ofKind identity ns name d = fetchAs identity uri .empty >>= fun document =>
        if d.id = podKind then ofPod name document else ofWorkload identity d ns name document := by
      rw [ofKind, object, if_neg hname, huri]
      rfl
    obtain ⟨r, hr, hasks⟩ := exists_inNameOf? hid uri
    rw [heq]
    refine meets_fetchAs_bind hr fun answer => ?_
    -- a pod says what its containers are; anything else has a selector that chooses pods
    by_cases hpod : d.id = podKind
    · simp only [if_pos hpod]
      obtain ⟨read, hread, hnext⟩ := exists_readAs Pod.decode answer
      have hgroup := Resolution.pod hpod huri hasks hread
      have hgo : Operation.next (ofPod name) (textOf answer) = _ := next_readAs _ hnext
      rw [hgo]
      cases read <;> exact hgroup
    · simp only [if_neg hpod]
      obtain ⟨chosen, hchosen, hnext⟩ := exists_chooses identity d ns name answer
      rw [hnext]
      cases chosen with
      | error e => exact .unchosen hpod huri hasks hchosen
      | ok text =>
        rw [Operation.next, Operation.attempt_bind, Dialogue.meets_bind]
        refine meets_selectedPods hid hns (fun hlong => ?_)
          fun query s list read hs hquery hlist => ?_
        · exact .unlisted hpod huri hasks hchosen hlong
        · have hgroup := Resolution.listed hpod huri hasks hchosen hs hquery hlist
          cases read <;> exact hgroup

/-- **The pods behind an object.**  In any world, when the kind is known, what follows the look-up
is one of the ways of a `Resolution`: the object is asked for once, if it has an address, which it
has where the kind has one; a pod is the group, with all of its containers; the pods of any other
object are listed once, by a request that carries the text of its selector, if it has one.  Whatever
fails is the error and ends the search.  The pods are those in the list one by one, and the
containers are those of a pod and then those that run first, each where it stands first. -/
theorem resolution_of_resolve {σ : Type} {w : World σ} {cache : CatalogCache} {s : σ}
    {resource : String} (hid : identity.IsWritable) (hns : Uri.IsPath ns) (hname : Uri.IsPath name)
    (hne : name ≠ "") (hd : ((Lookup.find resource).attempt.run w cache s).result = .ok d) :
    (∃ xs, (resolve identity resource ns name).attempt.exchanges w cache s =
        (Lookup.find resource).attempt.exchanges w cache s ++ xs ∧
      Resolution identity d ns name xs
        ((resolve identity resource ns name).attempt.run w cache s).result) ∧
    d.id = resource ∧
    (Uri.IsRooted d.path → Uri.IsPath d.path → Uri.IsPath d.pluralName →
      (Utf8.encode (d.objectPath (some ns) name)).length ≤ Uri.maxLength →
      Uri.parse? (d.objectPath (some ns) name) =
        some ⟨none, none, d.objectPath (some ns) name, none⟩) ∧
    (∀ text pods list items, decodePodList.parse? text = some pods →
      Document.parse? text = some list → list.member? "items" = some (.array items) →
      ∃ room, List.Forall₂ (fun item pod => Pod.decode room item = some pod) items pods) ∧
    ∀ pod : Pod, IsFirsts (pod.containers ++ pod.initContainers) pod.containerNames := by
  refine ⟨?_, ?_, fun hroot hpath hplural hlength => ?_, fun text pods list items => ?_,
    fun pod => isFirsts_eraseDups _⟩
  · obtain ⟨cache', s', hresult, hexchanges⟩ := Operation.run_bind (g := ofKind identity ns name) hd
    rw [resolve_eq, hresult, hexchanges]
    exact ⟨_, rfl, (meets_ofKind hid hns hne).result_run_free w cache' s'⟩
  · exact (Lookup.meets_find_id resource).result_run hd
  · exact parse?_objectPath hroot hpath hplural hns hname hlength
  · exact items_of_decodePodList

/-! ### A deployment -/

/-- The document of a deployment of a shop. -/
def shop : String :=
  "\x7b\"spec\":\x7b\"selector\":\x7b\"matchLabels\":\x7b\"app\":\"shop\"\x7d\x7d\x7d\x7d"

/-- Two pods of the shop.  The second one has no name, and the two containers of the first one have
the same. -/
def shopPods : String :=
  "\x7b\"items\":[\x7b\"metadata\":\x7b\"name\":\"b\"\x7d,\"spec\":\x7b\"containers\":[" ++
    "\x7b\"name\":\"w\"\x7d],\"initContainers\":[\x7b\"name\":\"w\"\x7d]\x7d\x7d,\x7b\x7d]\x7d"

/-- A cluster with the shop. -/
def answerShop (r : Request) : Option Response :=
  if r.uri = ⟨none, none, "/apis/apps/v1/namespaces/default/deployments/shop", none⟩ then
    some (.text 200 shop)
  else if r.uri = ⟨none, none, podsPath "default", some "&labelSelector=app%3Dshop"⟩ then
    some (.text 200 shopPods)
  else none

/-- The kind of deployments. -/
def deployments : Descriptor := .ofEntry "apps/v1" "Deployment" "deployments" true

/-- A cache in which deployments are known. -/
def knowsDeployments : CatalogCache := ⟨⟨[deployments]⟩, 0, 1⟩

/-- The pods behind the deployment, asked for by Alice. -/
def resolveShop : Operation PodGroup := resolve ⟨"alice", []⟩ "deployment.apps" "default" "shop"

/-- The group has the pod with a name, and its containers are named once. -/
theorem resolution_of_resolve_shop :
    (resolveShop.attempt.run (.answering answerShop) knowsDeployments ()).result =
      .ok ⟨["b"], ["w"]⟩ ∧
    ∃ xs, resolveShop.attempt.exchanges (.answering answerShop) knowsDeployments () =
        (Lookup.find "deployment.apps").attempt.exchanges (.answering answerShop)
          knowsDeployments () ++ xs ∧
      Resolution ⟨"alice", []⟩ deployments "default" "shop" xs
        (resolveShop.attempt.run (.answering answerShop) knowsDeployments ()).result :=
  ⟨by decide +kernel, (resolution_of_resolve (by decide) (by decide) (by decide) (by decide)
    (by decide +kernel)).1⟩

end PodGroup

end ClusterGateway

import ClusterGateway.Proofs.Resource.Catalog
import ClusterGateway.Proofs.Text.Pieces
import Mathlib.Data.List.Forall2

/-!
# Which kinds a catalog knows

A catalog is built from lists of kinds, one for each group and version.  An entry of a list offers a
kind under an id if it is a collection that can be listed (`Discovery.KindList.Offers`); several
entries, also of different lists, may offer one id.

* `Catalog.get?_ofLists_eq_some_iff` : what is known under an id is the descriptor of the first
  entry that offers it, in the order of the lists and then of the entries.
* `Catalog.rebased_get?` : an entry offers the same id in another version of its group, so that the
  first one that offers an id stays the first.
* `Catalog.knows_first_offer` : **an id is known just if an entry offers it, and by the first one
  that does; another version of the groups changes no id, and of the kinds nothing but the version
  and the path**.
-/

namespace ClusterGateway

open Discovery

/-! ### What an entry offers -/

namespace Discovery

namespace Entry

theorem isListable_iff (e : Entry) :
    e.isListable = true ↔ '/' ∉ e.name.toList ∧ "list" ∈ e.verbs := by
  simp [isListable]

end Entry

namespace KindList

/-- The descriptor of an entry of the list. -/
def descriptor (l : KindList) (e : Entry) : Descriptor :=
  .ofEntry l.groupVersion e.kind e.name e.namespaced

/-- An entry offers a kind under an id: it is no part of an object, it can be listed, and the id
is that of its kind. -/
structure Offers (l : KindList) (id : String) (e : Entry) : Prop where
  /-- The name is that of a collection. -/
  whole : '/' ∉ e.name.toList
  /-- The objects can be listed. -/
  listed : "list" ∈ e.verbs
  /-- This is the id. -/
  id_eq : Descriptor.idFor l.groupVersion e.kind = id

variable {l : KindList} {id : String} {e : Entry}

theorem offers_iff : l.Offers id e ↔ e.isListable = true ∧ (l.descriptor e).id = id := by
  rw [Entry.isListable_iff, and_assoc]
  exact ⟨fun h => ⟨h.whole, h.listed, h.id_eq⟩, fun ⟨hw, hl, hid⟩ => ⟨hw, hl, hid⟩⟩

/-- The first entry of a list that offers an id. -/
def offer? (l : KindList) (id : String) : Option Entry :=
  l.entries.find? fun e => e.isListable = true ∧ (l.descriptor e).id = id

theorem find?_descriptors (l : KindList) (id : String) :
    l.descriptors.find? (fun d => d.id = id) = (l.offer? id).map l.descriptor := by
  rw [descriptors, List.find?_map, List.find?_filter]
  simp only [Function.comp_apply, decide_eq_true_eq]
  rfl

theorem offer?_eq_none_iff : l.offer? id = none ↔ ∀ e ∈ l.entries, ¬l.Offers id e := by
  simp only [offer?, List.find?_eq_none, offers_iff, decide_eq_true_eq]

theorem offer?_eq_some_iff : l.offer? id = some e ↔
    ∃ front rest, l.entries = front ++ e :: rest ∧ l.Offers id e ∧
      ∀ e' ∈ front, ¬l.Offers id e' := by
  rw [offer?, List.find?_eq_some_iff_append]
  simp only [decide_eq_true_eq, ← offers_iff, Bool.not_eq_true', decide_eq_false_iff_not]
  constructor
  · rintro ⟨hoffers, front, rest, hentries, hfront⟩
    exact ⟨front, rest, hentries, hoffers, hfront⟩
  · rintro ⟨front, rest, hentries, hoffers, hfront⟩
    exact ⟨hoffers, front, rest, hentries, hfront⟩

end KindList

end Discovery

/-! ### The first offer -/

namespace Catalog

/-- An entry of a list is the first one that offers an id: no list before offers it, and in the list
itself no entry before does. -/
structure IsFirstOffer (lists : List KindList) (id : String) (l : KindList) (e : Entry) : Prop where
  /-- The entry offers the id. -/
  offers : l.Offers id e
  /-- Neither the lists before nor the entries before offer it. -/
  first : ∃ before after front rest, lists = before ++ l :: after ∧
    l.entries = front ++ e :: rest ∧ (∀ l' ∈ before, ∀ e' ∈ l'.entries, ¬l'.Offers id e') ∧
    ∀ e' ∈ front, ¬l.Offers id e'

variable {lists : List KindList} {id : String} {d : Descriptor}

theorem get?_ofLists (lists : List KindList) (id : String) :
    (ofLists lists).get? id = lists.findSome? fun l => (l.offer? id).map l.descriptor := by
  rw [ofLists, get?_ofDescriptors, List.find?_flatMap]
  simp only [KindList.find?_descriptors]

/-- **What is known under an id.** -/
theorem get?_ofLists_eq_some_iff : (ofLists lists).get? id = some d ↔
    ∃ l e, IsFirstOffer lists id l e ∧ d = l.descriptor e := by
  rw [get?_ofLists, List.findSome?_eq_some_iff]
  simp only [Option.map_eq_none_iff, KindList.offer?_eq_none_iff, Option.map_eq_some_iff,
    KindList.offer?_eq_some_iff]
  constructor
  · rintro ⟨before, l, after, hlists, ⟨e, ⟨front, rest, hentries, hoffers, hfront⟩, rfl⟩, hbefore⟩
    exact ⟨l, e, ⟨hoffers, before, after, front, rest, hlists, hentries, hbefore, hfront⟩, rfl⟩
  · rintro ⟨l, e, ⟨hoffers, before, after, front, rest, hlists, hentries, hbefore, hfront⟩, rfl⟩
    exact ⟨before, l, after, hlists, ⟨e, ⟨front, rest, hentries, hoffers, hfront⟩, rfl⟩, hbefore⟩

/-- **Which ids are known.** -/
theorem get?_ofLists_eq_none_iff : (ofLists lists).get? id = none ↔
    ∀ l ∈ lists, ∀ e ∈ l.entries, ¬l.Offers id e := by
  rw [get?_ofLists, List.findSome?_eq_none_iff]
  simp only [Option.map_eq_none_iff, KindList.offer?_eq_none_iff]

end Catalog

/-! ### Another version -/

namespace Descriptor

/-- A group in another version; a group and version without a slash is kept. -/
inductive Rebased : String → String → Prop
  /-- There is no slash, as in the core version. -/
  | kept {groupVersion : String} : '/' ∉ groupVersion.toList → Rebased groupVersion groupVersion
  /-- The group stays in front of the slash. -/
  | version {group : String} (v v' : String) : '/' ∉ group.toList →
    Rebased (group ++ "/" ++ v) (group ++ "/" ++ v')

theorem group?_of_slash {group : String} (h : '/' ∉ group.toList) (v : String) :
    group? (group ++ "/" ++ v) = some group := by
  have hchars : (group ++ "/" ++ v).toList = group.toList ++ '/' :: v.toList := by simp
  rw [group?, Text.cut?, hchars, Text.cutChars?_append h]
  simp

theorem Rebased.idFor_eq {gv gv' : String} (h : Rebased gv gv') (kind : String) :
    idFor gv' kind = idFor gv kind := by
  cases h with
  | kept => rfl
  | version v v' hgroup => rw [idFor, idFor, group?_of_slash hgroup, group?_of_slash hgroup]

/-- The same kind in another version of its group. -/
structure IsVersionOf (d d' : Descriptor) : Prop where
  /-- The id stays. -/
  id_eq : d'.id = d.id
  /-- The kind stays. -/
  kind_eq : d'.kind = d.kind
  /-- The name of the collection stays. -/
  pluralName_eq : d'.pluralName = d.pluralName
  /-- Whether the kind has namespaces stays. -/
  namespaced_eq : d'.namespaced = d.namespaced
  /-- The group stays. -/
  group : Rebased d.apiVersion d'.apiVersion
  /-- The path is that of the version. -/
  path_eq : d'.path = pathFor d'.apiVersion

end Descriptor

namespace Catalog

/-- The same entries in another version of the group. -/
structure Rebased (l l' : KindList) : Prop where
  /-- The group stays. -/
  group : Descriptor.Rebased l.groupVersion l'.groupVersion
  /-- The entries stay. -/
  entries : l'.entries = l.entries

variable {lists lists' : List KindList} {id : String} {d : Descriptor}

theorem Rebased.isVersionOf {l l' : KindList} (h : Rebased l l') (e : Entry) :
    (l.descriptor e).IsVersionOf (l'.descriptor e) where
  id_eq := h.group.idFor_eq e.kind
  kind_eq := rfl
  pluralName_eq := rfl
  namespaced_eq := rfl
  group := h.group
  path_eq := rfl

theorem Rebased.offer?_eq {l l' : KindList} (h : Rebased l l') (id : String) :
    l'.offer? id = l.offer? id := by
  simp only [KindList.offer?, h.entries, (h.isVersionOf _).id_eq]

/-- **What is known under an id in other versions** is the same kind in another version. -/
theorem rebased_get? (h : List.Forall₂ Rebased lists lists') (id : String) :
    Option.Rel Descriptor.IsVersionOf ((ofLists lists).get? id) ((ofLists lists').get? id) := by
  rw [get?_ofLists, get?_ofLists]
  induction h with
  | nil => exact .none
  | @cons l l' lists lists' hl _ ih =>
    rw [List.findSome?_cons, List.findSome?_cons, hl.offer?_eq]
    cases l.offer? id with
    | none => exact ih
    | some e => exact .some (hl.isVersionOf e)

/-- **A catalog knows the first kind that is offered under an id.**  An id is known just if some
entry of the lists offers it.  It then stands for the descriptor of the first entry that does, and
this descriptor is listed once, with this id.  Lists in other versions of their groups make the same
ids known, each for the same kind in another version. -/
theorem knows_first_offer (lists : List KindList) :
    (∀ id, (∃ d, (ofLists lists).get? id = some d) ↔
      ∃ l ∈ lists, ∃ e ∈ l.entries, l.Offers id e) ∧
    (∀ id d, (ofLists lists).get? id = some d ↔
      ∃ l e, IsFirstOffer lists id l e ∧ d = l.descriptor e) ∧
    IsAscending (ofLists lists).descriptors ∧
    (∀ id d, (ofLists lists).get? id = some d ↔
      d ∈ (ofLists lists).descriptors ∧ d.id = id) ∧
    ∀ lists', List.Forall₂ Rebased lists lists' → ∀ id,
      Option.Rel Descriptor.IsVersionOf ((ofLists lists).get? id) ((ofLists lists').get? id) := by
  have hascending : IsAscending (ofLists lists).descriptors := isAscending_ofDescriptors _
  refine ⟨fun id => ?_, fun id d => get?_ofLists_eq_some_iff, hascending,
    fun id d => get?_eq_some_iff hascending, fun lists' h id => rebased_get? h id⟩
  have hnone : (ofLists lists).get? id = none ↔
      ∀ l ∈ lists, ∀ e ∈ l.entries, ¬l.Offers id e := get?_ofLists_eq_none_iff
  rw [← Option.isSome_iff_exists, ← not_iff_not, Option.not_isSome_iff_eq_none, hnone]
  simp only [not_exists, not_and]

/-- The lists of a cluster whose group of applications has two kinds that differ in case only. -/
def listsWithApps (version : String) : List KindList :=
  [⟨"v1", [⟨"pods/log", "Pod", true, ["list"]⟩, ⟨"pods", "Pod", true, ["get", "list"]⟩,
      ⟨"bindings", "Binding", true, ["create"]⟩]⟩,
    ⟨"apps/" ++ version, [⟨"deployments", "Deployment", true, ["list"]⟩,
      ⟨"drafts", "deploymenT", false, ["list"]⟩]⟩]

/-- The first of two kinds with one id is known in both versions, and a part of an object in
neither. -/
theorem knows_first_offer_apps :
    List.Forall₂ Rebased (listsWithApps "v1") (listsWithApps "v2/beta") ∧
      (∀ id, Option.Rel Descriptor.IsVersionOf ((ofLists (listsWithApps "v1")).get? id)
        ((ofLists (listsWithApps "v2/beta")).get? id)) ∧
      (ofLists (listsWithApps "v1")).descriptors.map (fun d => (d.id, d.pluralName)) =
        [("deployment.apps", "deployments"), ("pod", "pods")] ∧
      ((ofLists (listsWithApps "v2/beta")).get? "deployment.apps").map Descriptor.path =
        some "/apis/apps/v2/beta" := by
  have happs : Descriptor.Rebased "apps/v1" "apps/v2/beta" :=
    @Descriptor.Rebased.version "apps" "v1" "v2/beta" (by decide)
  have hrebased : List.Forall₂ Rebased (listsWithApps "v1") (listsWithApps "v2/beta") :=
    .cons ⟨.kept (by decide), rfl⟩ (.cons ⟨happs, rfl⟩ .nil)
  exact ⟨hrebased, (knows_first_offer (listsWithApps "v1")).2.2.2.2 _ hrebased, by decide +kernel,
    by decide +kernel⟩

end Catalog

end ClusterGateway

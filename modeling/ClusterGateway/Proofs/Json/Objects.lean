import Mathlib.Data.String.Basic
import ClusterGateway.Json.Document

/-!
# Objects

The members of an object stand in the order of their keys, and no key occurs twice
(`Json.Value.Ordered`).

* `Json.Value.lookup_putMember` : setting a member changes this member only.
* `Json.Value.ordered_putMember`, `Json.Value.ordered_of_parse?` : **objects that are read are
  ordered**, and setting a member keeps the order.
-/

namespace ClusterGateway

namespace Json

/-- Whether an object is written, whatever can be made of it. -/
def Document.isObject : Document → Bool
  | .object _ => true
  | _ => false

namespace Value

variable {key k : String} {v : Value} {m : String × Value} {ms : List (String × Value)}

theorem lookup_cons_eq (k key : String) (v : Value) (ms : List (String × Value)) :
    ((key, v) :: ms).lookup k = if k = key then some v else ms.lookup k := by
  rw [List.lookup_cons]
  split <;> simp_all

/-- **Setting a member changes this member only.** -/
theorem lookup_putMember :
    (putMember key v ms).lookup k = if k = key then some v else ms.lookup k := by
  induction ms with
  | nil => rw [putMember, lookup_cons_eq]
  | cons m ms ih =>
    obtain ⟨k', w⟩ := m
    rw [putMember]
    split_ifs <;> grind [lookup_cons_eq]

theorem mem_of_mem_putMember (h : m ∈ putMember key v ms) : m = (key, v) ∨ m ∈ ms := by
  induction ms with
  | nil => simpa [putMember] using h
  | cons m' ms ih =>
    obtain ⟨k', w⟩ := m'
    rw [putMember] at h
    grind

/-- Members stand in the order of their keys, and no key occurs twice. -/
def Ordered (ms : List (String × Value)) : Prop := ms.Pairwise fun a b => a.1 < b.1

/-- **Setting a member keeps the order.** -/
theorem ordered_putMember (h : Ordered ms) : Ordered (putMember key v ms) := by
  induction ms with
  | nil => exact List.pairwise_singleton _ _
  | cons m ms ih =>
    obtain ⟨k', w⟩ := m
    obtain ⟨hfirst, hmore⟩ := List.pairwise_cons.1 h
    rw [putMember]
    split
    · rename_i hsame
      subst hsame
      exact List.pairwise_cons.2 ⟨hfirst, hmore⟩
    split
    · rename_i hlt
      refine List.pairwise_cons.2 ⟨fun m hm => ?_, h⟩
      obtain rfl | hm := List.mem_cons.1 hm
      · exact hlt
      · exact hlt.trans (hfirst m hm)
    · rename_i hne hnot
      refine List.pairwise_cons.2 ⟨fun m hm => ?_, ih hmore⟩
      obtain rfl | hm := mem_of_mem_putMember hm
      · exact lt_of_le_of_ne (not_lt.1 hnot) (Ne.symm hne)
      · exact hfirst m hm

theorem ordered_foldl (members : List (String × Value)) (h : Ordered ms) :
    Ordered (members.foldl (fun ms m => putMember m.1 m.2 ms) ms) := by
  induction members generalizing ms with
  | nil => exact h
  | cons m members ih => exact ih (ordered_putMember h)

/-- **The members of an object that is read are ordered.** -/
theorem ordered_of_parse? {s : String} (h : parse? s = some (.object ms)) : Ordered ms := by
  obtain ⟨d, -, hd⟩ := Option.bind_eq_some_iff.1 h
  cases d with
  | null => simp [Document.value?] at hd
  | bool b => simp [Document.value?] at hd
  | number l => simp [Document.value?] at hd
  | string codes => simp [Document.value?] at hd
  | array items => simp [Document.value?, Document.maxDepth] at hd
  | object members =>
    rw [Document.value?.eq_def] at hd
    obtain ⟨read, -, hread⟩ := Option.map_eq_some_iff.1 hd
    rw [ofMembers, object.injEq] at hread
    rw [← hread]
    exact ordered_foldl read List.Pairwise.nil

end Value

end Json

end ClusterGateway

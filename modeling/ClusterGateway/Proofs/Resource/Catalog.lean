import ClusterGateway.Resource.Cache
import Mathlib.Data.List.Nodup

/-!
# What a catalog knows

A catalog is built from descriptors in any order, of which several may have one id.

* `Catalog.isAscending_ofDescriptors` : its descriptors stand in strictly ascending order of their
  ids, so that no id occurs twice.
* `Catalog.get?_ofDescriptors` : **what it knows under an id is the first descriptor with this id**.
* `Catalog.get?_eq_some_iff` : the listing and the look-up tell of the same descriptors.
-/

namespace ClusterGateway

namespace Catalog

/-- Descriptors stand in strictly ascending order of their ids. -/
def IsAscending (ds : List Descriptor) : Prop := ds.Pairwise fun d e => d.id < e.id

variable {d e : Descriptor} {ds es : List Descriptor} {id : String}

theorem mem_insertNew (h : e ∈ insertNew d es) : e = d ∨ e ∈ es := by
  induction es with
  | nil => exact .inl (List.mem_singleton.1 h)
  | cons c es ih =>
    rw [insertNew] at h
    split at h
    · exact .inr h
    · split at h
      · exact List.mem_cons.1 h
      · obtain rfl | h := List.mem_cons.1 h
        · exact .inr List.mem_cons_self
        · exact (ih h).imp_right (List.mem_cons_of_mem _)

theorem IsAscending.insertNew (h : IsAscending es) (d : Descriptor) :
    IsAscending (insertNew d es) := by
  induction es with
  | nil => exact List.pairwise_singleton _ d
  | cons e es ih =>
    obtain ⟨hhead, htail⟩ := List.pairwise_cons.1 h
    rw [Catalog.insertNew]
    by_cases heq : d.id = e.id
    · rwa [if_pos heq]
    · rw [if_neg heq]
      by_cases hlt : d.id < e.id
      · rw [if_pos hlt]
        refine List.pairwise_cons.2 ⟨fun c hc => ?_, h⟩
        obtain rfl | hc := List.mem_cons.1 hc
        · exact hlt
        · exact String.lt_trans hlt (hhead c hc)
      · rw [if_neg hlt]
        -- the order is total, so that the descriptor belongs further back
        have hgt : e.id < d.id := by
          rw [← String.not_le]
          intro hle
          exact heq (String.le_antisymm hle (String.not_lt.1 hlt))
        refine List.pairwise_cons.2 ⟨fun c hc => ?_, ih htail⟩
        obtain rfl | hc := mem_insertNew hc
        · exact hgt
        · exact hhead c hc

theorem find?_insertNew (h : IsAscending es) (d : Descriptor) (id : String) :
    (insertNew d es).find? (fun c => c.id = id) = (es ++ [d]).find? fun c => c.id = id := by
  induction es with
  | nil => rfl
  | cons e es ih =>
    obtain ⟨hhead, htail⟩ := List.pairwise_cons.1 h
    rw [insertNew, List.cons_append]
    by_cases heq : d.id = e.id
    · -- the first one stays, and the other one is behind it
      rw [if_pos heq]
      by_cases he : e.id = id <;> simp [he, heq]
    · rw [if_neg heq]
      by_cases hlt : d.id < e.id
      · rw [if_pos hlt]
        by_cases hd : d.id = id
        · -- all others come later in the order, so none of them has the id
          have hno : (e :: es).find? (fun c => c.id = id) = none := by
            rw [List.find?_eq_none]
            intro c hc hcid
            have hlater : d.id < c.id := by
              obtain rfl | hc := List.mem_cons.1 hc
              · exact hlt
              · exact String.lt_trans hlt (hhead c hc)
            rw [hd, of_decide_eq_true hcid] at hlater
            exact String.lt_irrefl id hlater
          rw [← List.cons_append, List.find?_append, hno]
          simp [hd]
        · rw [← List.cons_append, List.find?_append]
          simp [List.find?_cons, hd]
      · rw [if_neg hlt]
        by_cases he : e.id = id
        · simp [he]
        · simp [he, ih htail]

theorem foldl_add {c : Catalog} (hc : IsAscending c.descriptors) (ds : List Descriptor)
    (id : String) :
    IsAscending (ds.foldl add c).descriptors ∧
      (ds.foldl add c).get? id = (c.descriptors ++ ds).find? fun d => d.id = id := by
  induction ds generalizing c with
  | nil => exact ⟨hc, by rw [List.append_nil]; rfl⟩
  | cons d ds ih =>
    obtain ⟨hascending, hfind⟩ := ih (c := c.add d) (hc.insertNew d)
    refine ⟨hascending, hfind.trans ?_⟩
    rw [add, List.find?_append, find?_insertNew hc, ← List.find?_append, List.append_assoc,
      List.singleton_append]

/-- **No id occurs twice.** -/
theorem isAscending_ofDescriptors (ds : List Descriptor) :
    IsAscending (ofDescriptors ds).descriptors :=
  (foldl_add (c := empty) List.Pairwise.nil ds "").1

/-- **The first descriptor with an id is the one that is known.** -/
theorem get?_ofDescriptors (ds : List Descriptor) (id : String) :
    (ofDescriptors ds).get? id = ds.find? fun d => d.id = id :=
  (foldl_add (c := empty) List.Pairwise.nil ds id).2

theorem IsAscending.eq_of_id_eq (h : IsAscending ds) (hd : d ∈ ds) (he : e ∈ ds)
    (hid : d.id = e.id) : d = e := by
  have hnodup : (ds.map Descriptor.id).Nodup := by
    refine List.pairwise_map.2 (h.imp fun hlt heq => ?_)
    rw [heq] at hlt
    exact String.lt_irrefl _ hlt
  exact List.inj_on_of_nodup_map hnodup hd he hid

/-- **The listing and the look-up tell of the same descriptors.** -/
theorem get?_eq_some_iff {c : Catalog} (hc : IsAscending c.descriptors) :
    c.get? id = some d ↔ d ∈ c.descriptors ∧ d.id = id := by
  constructor
  · intro h
    exact ⟨List.mem_of_find?_eq_some h, by simpa using List.find?_some h⟩
  · rintro ⟨hmem, rfl⟩
    have hsome : (c.get? d.id).isSome := List.find?_isSome.2 ⟨d, hmem, by simp⟩
    obtain ⟨e, he⟩ := Option.isSome_iff_exists.1 hsome
    have hid : e.id = d.id := by simpa using List.find?_some he
    rw [he, hc.eq_of_id_eq (List.mem_of_find?_eq_some he) hmem hid]

end Catalog

end ClusterGateway

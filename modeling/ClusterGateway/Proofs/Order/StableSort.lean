import Mathlib.Data.List.Basic

/-!
# Stable sorts

`IsStableSort key le out items` says that `out` is `items` in the order of their keys, and that
items of one key have stayed in their order.

* `isStableSort_mergeSort` : merge sort is stable.
* `IsStableSort.sublist` : **what a stable sort does with some of the items does not depend on the
  others**, so that leaving items out removes them from the result and changes nothing else.
* `IsStableSort.unique` : there is only one stable sort, and all that counts of the items is the
  order within each key.
-/

namespace ClusterGateway

/-- What it takes to sort by a comparison of keys. -/
structure IsOrder {κ : Type} (le : κ → κ → Bool) : Prop where
  /-- Any two keys can be compared. -/
  total : ∀ a b, (le a b || le b a) = true
  /-- The comparison carries over. -/
  trans : ∀ a b c, le a b = true → le b c = true → le a c = true
  /-- Only a key itself is before and after it. -/
  antisymm : ∀ a b, le a b = true → le b a = true → a = b

/-- The items in the order of their keys, those of one key in the order that they had. -/
structure IsStableSort {α κ : Type} [DecidableEq κ] (key : α → κ) (le : κ → κ → Bool)
    (out items : List α) : Prop where
  /-- The keys ascend. -/
  sorted : out.Pairwise fun a b => le (key a) (key b) = true
  /-- No item is lost and none is added. -/
  perm : out.Perm items
  /-- The items of one key are as they were. -/
  stable : ∀ k, out.filter (key · = k) = items.filter (key · = k)

variable {α κ : Type} [DecidableEq κ] {key : α → κ} {le : κ → κ → Bool}
variable {out out' items items' : List α}

/-- Two sorted lists, the second of which has the first item of the other one: unless the items with
the key of its own first item are found further back, both start with this key. -/
theorem key_eq_of_not_sublist {a b : α} (hle : IsOrder le)
    (ho : (a :: out).Pairwise fun a b => le (key a) (key b) = true)
    (ho' : (b :: out').Pairwise fun a b => le (key a) (key b) = true) (hb : b ∈ a :: out)
    (hskip : ¬((b :: out').filter (key · = key a)).Sublist (out.filter (key · = key a))) :
    key b = key a := by
  have hab : le (key a) (key b) = true := by
    rcases List.mem_cons.1 hb with rfl | hb
    · simpa using hle.total (key b) (key b)
    · exact (List.pairwise_cons.1 ho).1 b hb
  by_contra hne
  refine hskip ?_
  -- everything in the first list comes at or after `b`, so nothing there has the key of `a`
  rw [List.filter_eq_nil_iff.2 fun c hc => ?_]
  · exact List.nil_sublist _
  · intro hca
    have hca : key c = key a := of_decide_eq_true hca
    rcases List.mem_cons.1 hc with rfl | hc
    · exact hne hca
    · have hbc := (List.pairwise_cons.1 ho').1 c hc
      exact hne (hle.antisymm _ _ (hca ▸ hbc) hab)

theorem mem_of_filter_sublist {b : α}
    (h : ∀ k, (out'.filter (key · = k)).Sublist (out.filter (key · = k))) (hb : b ∈ out') :
    b ∈ out :=
  List.mem_of_mem_filter ((h (key b)).subset (List.mem_filter.2 ⟨hb, decide_eq_true rfl⟩))

theorem sublist_of_filter_sublist (hle : IsOrder le)
    (ho : out.Pairwise fun a b => le (key a) (key b) = true)
    (ho' : out'.Pairwise fun a b => le (key a) (key b) = true)
    (h : ∀ k, (out'.filter (key · = k)).Sublist (out.filter (key · = k))) : out'.Sublist out := by
  induction out generalizing out' with
  | nil =>
    rw [List.eq_nil_iff_forall_not_mem.2 fun b hb =>
      List.not_mem_nil (mem_of_filter_sublist h hb)]
  | cons a out ih =>
    have hrest := (List.pairwise_cons.1 ho).2
    -- for the other keys the first item does not count
    have htail {bs : List α} (hbs : bs.Pairwise fun a b => le (key a) (key b) = true)
        (hown : (bs.filter (key · = key a)).Sublist (out.filter (key · = key a)))
        (hothers : ∀ k, key a ≠ k → (bs.filter (key · = k)).Sublist (out.filter (key · = k))) :
        bs.Sublist out := by
      refine ih hrest hbs fun k => ?_
      by_cases hk : key a = k
      · exact hk ▸ hown
      · exact hothers k hk
    -- it is passed over where the smaller list finds its items of this key behind it
    by_cases hskip : (out'.filter (key · = key a)).Sublist (out.filter (key · = key a))
    · exact (htail ho' hskip fun k hk => by simpa [List.filter_cons, hk] using h k).cons a
    · cases out' with
      | nil => exact absurd (List.nil_sublist _) hskip
      | cons b out' =>
        have hb : b ∈ a :: out := mem_of_filter_sublist h List.mem_cons_self
        have hkey := key_eq_of_not_sublist hle ho ho' hb hskip
        have hhead := h (key a)
        simp only [List.filter_cons, hkey, decide_true, if_true] at hhead hskip
        -- otherwise the two lists start with one item
        cases hhead with
        | cons _ hhead => exact absurd hhead hskip
        | cons_cons _ hhead =>
          have hrest' := (List.pairwise_cons.1 ho').2
          have hothers (k : κ) (hk : key a ≠ k) :
              (out'.filter (key · = k)).Sublist (out.filter (key · = k)) := by
            simpa [List.filter_cons, hk] using h k
          exact (htail hrest' hhead hothers).cons_cons a

/-- **Merge sort is stable.** -/
theorem isStableSort_mergeSort (hle : IsOrder le) (items : List α) :
    IsStableSort key le (items.mergeSort fun a b => le (key a) (key b)) items where
  sorted := List.pairwise_mergeSort (fun a b c => hle.trans (key a) (key b) (key c))
    (fun a b => hle.total (key a) (key b)) items
  perm := List.mergeSort_perm items _
  stable k := by
    -- items of one key are sorted already, so they are found in the result in their order
    have hown : (items.filter (key · = k)).Pairwise fun a b => le (key a) (key b) = true := by
      refine List.pairwise_of_forall_mem_list fun a ha b hb => ?_
      have ha : key a = k := of_decide_eq_true (List.mem_filter.1 ha).2
      have hb : key b = k := of_decide_eq_true (List.mem_filter.1 hb).2
      simpa [ha, hb] using hle.total k k
    have hsub := List.sublist_mergeSort (fun a b c => hle.trans (key a) (key b) (key c))
      (fun a b => hle.total (key a) (key b)) hown List.filter_sublist
    have hsub := hsub.filter (key · = k)
    rw [List.filter_filter] at hsub
    simp only [Bool.and_self] at hsub
    exact (hsub.eq_of_length ((List.mergeSort_perm items _).filter _).length_eq.symm).symm

namespace IsStableSort

/-- **Leaving items out** removes them from the result and changes nothing else. -/
theorem sublist (hle : IsOrder le) (h : IsStableSort key le out items)
    (h' : IsStableSort key le out' items') (hs : items'.Sublist items) : out'.Sublist out := by
  refine sublist_of_filter_sublist hle h.sorted h'.sorted fun k => ?_
  rw [h'.stable, h.stable]
  exact hs.filter _

/-- **There is one stable sort** of lists that agree in the order within each key. -/
theorem unique (hle : IsOrder le) (h : IsStableSort key le out items)
    (h' : IsStableSort key le out' items')
    (hk : ∀ k, items.filter (key · = k) = items'.filter (key · = k)) : out = out' := by
  have hfilter (k : κ) : out.filter (key · = k) = out'.filter (key · = k) := by
    rw [h.stable, h'.stable, hk]
  refine List.Sublist.antisymm ?_ ?_
  · exact sublist_of_filter_sublist hle h'.sorted h.sorted fun k => by rw [hfilter]
  · exact sublist_of_filter_sublist hle h.sorted h'.sorted fun k => by rw [hfilter]

end IsStableSort

end ClusterGateway

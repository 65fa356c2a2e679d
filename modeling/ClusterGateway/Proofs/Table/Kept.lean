import ClusterGateway.Proofs.Table.Selection

/-!
# The rows that a merged table keeps

A merged table is made of the rows that are kept (`TableMerge.kept`): of those that pass the filter,
the first with each object.

* `TableMerge.firstOfEach_append` : the first of each among items that others follow.
* `TableMerge.firstOfEach_filter` : **leaving items out before and afterwards comes to the same**,
  where items with one key are left out together.
* `TableMerge.mergeTables_eq_ok_iff` : a merged table is made of the rows that are kept, whichever
  columns it shows.
* `TableMerge.mergedRows_append` : what more rows add to a merged table.
-/

namespace ClusterGateway

namespace TableMerge

/-! ### The first of each object -/

section Walk

variable {κ α : Type} [BEq κ] [LawfulBEq κ] {key : α → κ} {seen more : List κ} {as bs : List α}

theorem firstOfEach_of_mem {a : α} (h : key a ∈ seen) :
    firstOfEach key seen (a :: as) = firstOfEach key seen as := by
  rw [firstOfEach, if_pos (List.contains_iff_mem.2 h)]

theorem firstOfEach_of_not_mem {a : α} (h : key a ∉ seen) :
    firstOfEach key seen (a :: as) = a :: firstOfEach key (key a :: seen) as := by
  rw [firstOfEach, if_neg (mt List.contains_iff_mem.1 h)]

theorem firstOfEach_sublist (seen : List κ) (as : List α) :
    (firstOfEach key seen as).Sublist as := by
  induction as generalizing seen with
  | nil => exact .slnil
  | cons a as ih =>
    by_cases ha : key a ∈ seen
    · rw [firstOfEach_of_mem ha]
      exact (ih seen).cons a
    · rw [firstOfEach_of_not_mem ha]
      exact (ih _).cons_cons a

theorem firstOfEach_congr (h : ∀ a ∈ as, key a ∈ seen ↔ key a ∈ more) :
    firstOfEach key seen as = firstOfEach key more as := by
  induction as generalizing seen more with
  | nil => rfl
  | cons a as ih =>
    obtain ⟨ha, has⟩ := List.forall_mem_cons.1 h
    by_cases hseen : key a ∈ seen
    · rw [firstOfEach_of_mem hseen, firstOfEach_of_mem (ha.1 hseen), ih has]
    · have hcons : ∀ b ∈ as, key b ∈ key a :: seen ↔ key b ∈ key a :: more := fun b hb => by
        rw [List.mem_cons, List.mem_cons, has b hb]
      rw [firstOfEach_of_not_mem hseen, firstOfEach_of_not_mem (mt ha.2 hseen), ih hcons]

/-- A walk over items that others follow. -/
theorem firstOfEach_append_seen (seen : List κ) (as bs : List α) :
    firstOfEach key seen (as ++ bs) =
      firstOfEach key seen as ++ firstOfEach key (as.map key ++ seen) bs := by
  induction as generalizing seen with
  | nil => rfl
  | cons a as ih =>
    have hcons : ∀ k, k ∈ as.map key ++ key a :: seen ↔ k ∈ (a :: as).map key ++ seen := by
      simp only [List.mem_append, List.map_cons, List.mem_cons]
      grind
    by_cases ha : key a ∈ seen
    · have hsame : ∀ k, k ∈ as.map key ++ seen ↔ k ∈ as.map key ++ key a :: seen := by
        simp only [List.mem_append, List.mem_cons]
        grind
      rw [List.cons_append, firstOfEach_of_mem ha, firstOfEach_of_mem ha, ih,
        firstOfEach_congr fun b _ => (hsame _).trans (hcons _)]
    · rw [List.cons_append, firstOfEach_of_not_mem ha, firstOfEach_of_not_mem ha, ih,
        firstOfEach_congr fun b _ => hcons _, List.cons_append]

theorem firstOfEach_seen (seen more : List κ) (as : List α) :
    firstOfEach key (seen ++ more) as =
      (firstOfEach key more as).filter fun a => !seen.contains (key a) := by
  induction as generalizing more with
  | nil => rfl
  | cons a as ih =>
    by_cases hmore : key a ∈ more
    · rw [firstOfEach_of_mem hmore, firstOfEach_of_mem (List.mem_append_right _ hmore), ih]
    rw [firstOfEach_of_not_mem hmore]
    by_cases hseen : key a ∈ seen
    · -- the item is kept without the keys that have been seen, and left out afterwards
      have hsame : ∀ k, k ∈ seen ++ more ↔ k ∈ seen ++ key a :: more := by
        simp only [List.mem_append, List.mem_cons]
        grind
      rw [firstOfEach_of_mem (List.mem_append_left _ hseen),
        firstOfEach_congr fun b _ => hsame _, ih, List.filter_cons_of_neg (by simp [hseen])]
    · have hcons : ∀ k, k ∈ key a :: (seen ++ more) ↔ k ∈ seen ++ key a :: more := by
        simp only [List.mem_append, List.mem_cons]
        grind
      rw [firstOfEach_of_not_mem (by simp [hseen, hmore]), firstOfEach_congr fun b _ => hcons _, ih,
        List.filter_cons_of_pos (by simp [hseen])]

theorem mem_map_firstOfEach {k : κ} :
    k ∈ (firstOfEach key seen as).map key ↔ k ∈ as.map key ∧ k ∉ seen := by
  induction as generalizing seen with
  | nil => simp [firstOfEach]
  | cons a as ih =>
    by_cases ha : key a ∈ seen
    · rw [firstOfEach_of_mem ha, ih, List.map_cons, List.mem_cons]
      grind
    · rw [firstOfEach_of_not_mem ha, List.map_cons, List.mem_cons, ih, List.map_cons,
        List.mem_cons, List.mem_cons]
      grind

/-- **The first of each among items that others follow**: what is kept of the others is what would
be kept of them alone, without what has the key of something kept before. -/
theorem firstOfEach_append (as bs : List α) :
    firstOfEach key [] (as ++ bs) = firstOfEach key [] as ++
      (firstOfEach key [] bs).filter fun b =>
        !((firstOfEach key [] as).map key).contains (key b) := by
  have hseen : ∀ k, k ∈ as.map key ++ [] ↔ k ∈ (firstOfEach key [] as).map key ++ [] := by
    simp [mem_map_firstOfEach]
  rw [firstOfEach_append_seen, firstOfEach_congr fun b _ => hseen _, firstOfEach_seen]

/-- **Leaving items out** before the walk or afterwards comes to the same, where items with one key
are left out together. -/
theorem firstOfEach_filter {p : α → Bool} (seen : List κ)
    (h : ∀ a ∈ as, ∀ b ∈ as, key a = key b → p a = p b) :
    firstOfEach key seen (as.filter p) = (firstOfEach key seen as).filter p := by
  induction as generalizing seen with
  | nil => rfl
  | cons a as ih =>
    have has : ∀ b ∈ as, ∀ c ∈ as, key b = key c → p b = p c :=
      fun b hb c hc => h b (.tail a hb) c (.tail a hc)
    by_cases hseen : key a ∈ seen
    · rw [firstOfEach_of_mem hseen, ← ih seen has]
      cases hp : p a
      · rw [List.filter_cons_of_neg (by simp [hp])]
      · rw [List.filter_cons_of_pos hp, firstOfEach_of_mem hseen]
    · rw [firstOfEach_of_not_mem hseen]
      cases hp : p a
      · -- the key counts as seen only on the right, where nothing that stays has it
        have hne : ∀ b ∈ as.filter p, key b ≠ key a := fun b hb he => by
          obtain ⟨hb, hpb⟩ := List.mem_filter.1 hb
          have hab := h b (.tail a hb) a (.head as) he
          rw [hpb, hp] at hab
          cases hab
        rw [List.filter_cons_of_neg (by simp [hp]), List.filter_cons_of_neg (by simp [hp]),
          ← ih (key a :: seen) has]
        exact firstOfEach_congr fun b hb => by simp [hne b hb]
      · rw [List.filter_cons_of_pos hp, List.filter_cons_of_pos hp, firstOfEach_of_not_mem hseen,
          ih (key a :: seen) has]

end Walk

/-! ### The rows that are kept -/

variable {d : Descriptor} {wide : Bool} {rf : RowFilter} {fs gs : List Fragment}

/-- No second list is asked which objects stay. -/
def AsksOnce : RowFilter → Prop
  | .selected => False
  | .all | .nameMatches _ => True

/-- The rows that are kept, with the keys of their objects. -/
def kept (d : Descriptor) (rf : RowFilter) (selected : List ObjectKey)
    (rows : List (ObjectKey × ServerRow)) : List (ObjectKey × ServerRow) :=
  firstOfEach (fun x => identityKey d x.1) [] (rows.filter fun x => passes rf selected x.1)

/-- The rows that are made of those that are kept, with some columns. -/
def mergedRows (d : Descriptor) (columns : List (Nat × ColumnDefinition)) (rf : RowFilter)
    (selected : List ObjectKey) (rows : List (ObjectKey × ServerRow)) : List TableRow :=
  (kept d rf selected rows).map fun x => mergedRow d columns x.1 x.2

theorem mergeTables_eq_ok_iff {t : Table} : mergeTables d wide rf fs = .ok t ↔
    ∃ rows, keyedRows? fs = some rows ∧
      t = ⟨d.kind, columnNames d (visible wide (definitions fs)),
        mergedRows d (visible wide (definitions fs)) rf (selectedKeys fs) rows⟩ := by
  rw [mergeTables]
  cases keyedRows? fs with
  | none => simp
  | some rows => simp [mergedRows, kept, eq_comm]

theorem keyedRows?_append_eq_some_iff {all : List (ObjectKey × ServerRow)} :
    keyedRows? (fs ++ gs) = some all ↔
      ∃ rows more, keyedRows? fs = some rows ∧ keyedRows? gs = some more ∧ all = rows ++ more := by
  rw [keyedRows?, List.flatMap_append, List.mapM_append, ← keyedRows?, ← keyedRows?]
  cases keyedRows? fs <;> cases keyedRows? gs <;> simp [eq_comm]

theorem mergedRows_eq (h : AsksOnce rf) {columns : List (Nat × ColumnDefinition)}
    (selected other : List ObjectKey) (rows : List (ObjectKey × ServerRow)) :
    mergedRows d columns rf selected rows = mergedRows d columns rf other rows := by
  cases rf with
  | selected => exact h.elim
  | all | nameMatches => rfl

theorem kept_append (selected : List ObjectKey) (rows more : List (ObjectKey × ServerRow)) :
    kept d rf selected (rows ++ more) = kept d rf selected rows ++
      (kept d rf selected more).filter fun x =>
        !((kept d rf selected rows).map fun y => identityKey d y.1).contains
          (identityKey d x.1) := by
  rw [kept, List.filter_append, firstOfEach_append]
  rfl

end TableMerge

/-- A row of the table shows the object of a row. -/
def Table.shows (t : Table) (row : TableRow) : Bool :=
  t.rows.any fun other => other.ns == row.ns && other.name == row.name

namespace TableMerge

variable {d : Descriptor} {columns : List (Nat × ColumnDefinition)} {rf : RowFilter}
variable {selected : List ObjectKey} {rows : List (ObjectKey × ServerRow)}

theorem mergedRow_alike (columns : List (Nat × ColumnDefinition)) (x y : ObjectKey × ServerRow) :
    (mergedRow d columns y.1 y.2).ns = (mergedRow d columns x.1 x.2).ns ∧
      (mergedRow d columns y.1 y.2).name = (mergedRow d columns x.1 x.2).name ↔
    identityKey d y.1 = identityKey d x.1 := by
  rw [identityKey_eq_iff, SameObject]
  refine and_congr_left fun _ => ?_
  cases h : d.namespaced <;> simp [mergedRow, h]

theorem shows_mergedRow {t : Table} (ht : t.rows = mergedRows d columns rf selected rows)
    (x : ObjectKey × ServerRow) : t.shows (mergedRow d columns x.1 x.2) =
      ((kept d rf selected rows).map fun y => identityKey d y.1).contains (identityKey d x.1) := by
  rw [Bool.eq_iff_iff, Table.shows, ht, mergedRows, List.any_map, List.any_eq_true,
    List.contains_iff_mem, List.mem_map]
  refine exists_congr fun y => and_congr_right fun _ => ?_
  rw [← mergedRow_alike columns]
  simp

/-- **What more rows add to a merged table** is what they make alone, without the objects that the
table shows. -/
theorem mergedRows_append {t : Table} (ht : t.rows = mergedRows d columns rf selected rows)
    (more : List (ObjectKey × ServerRow)) :
    mergedRows d columns rf selected (rows ++ more) = t.rows ++
      (mergedRows d columns rf selected more).filter fun row => !t.shows row := by
  rw [ht, mergedRows, kept_append, List.map_append, mergedRows, mergedRows, List.filter_map]
  refine congrArg (_ ++ List.map _ ·) (List.filter_congr fun x _ => ?_)
  exact congrArg not (shows_mergedRow ht x).symm

end TableMerge

end ClusterGateway

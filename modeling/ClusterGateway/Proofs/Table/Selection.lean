import ClusterGateway.Table.Merge
import Mathlib.Data.List.Forall2

/-!
# Which rows a merged table shows

A row of the API server says which object it shows by the metadata of the object
(`ServerRow.HasMetadata`).  A merged table is made only if all rows do, also those that it does not
show.  It then shows, in the order of the fragments and of the rows in them, the first of the rows
that pass the filter with the same object (`TableMerge.IsFirst`).

* `TableMerge.exists_places` : the invariant of the walk over the rows, which relates the keys that
  have been seen to the rows behind and ahead.
* `TableMerge.error_iff` : **merging fails just if some row has no metadata**.
* `TableMerge.shown_rows` : **the rows of a merged table are the first occurrences of the objects
  that pass**: none is shown twice, and none is lost.
-/

namespace ClusterGateway

open Json

namespace ServerRow

/-- The row shows an object with metadata. -/
def HasMetadata (r : ServerRow) : Prop :=
  ∃ members, r.object = some (.object members) ∧ "metadata" ∈ members.map Prod.fst

theorem key?_isSome (r : ServerRow) : r.key?.isSome ↔ r.HasMetadata := by
  rw [key?, Option.isSome_map]
  constructor
  · intro h
    obtain ⟨metadata, hm⟩ := Option.isSome_iff_exists.1 h
    obtain ⟨object, ho, hm⟩ := Option.bind_eq_some_iff.1 hm
    cases object with
    | object members =>
      obtain ⟨before, after, rfl, -⟩ := List.lookup_eq_some_iff.1 hm
      exact ⟨_, ho, by simp⟩
    | _ => cases hm
  · rintro ⟨members, ho, hm⟩
    obtain ⟨⟨_, v⟩, hv, rfl⟩ := List.mem_map.1 hm
    rw [ho]
    exact List.lookup_isSome_iff.2 ⟨_, hv, beq_self_eq_true _⟩

theorem key?_eq_none (r : ServerRow) : r.key? = none ↔ ¬r.HasMetadata := by
  rw [← key?_isSome, Option.not_isSome_iff_eq_none]

end ServerRow

namespace TableMerge

/-! ### The walk over the rows -/

section Walk

variable {κ α : Type} {p : α → Bool} {key : α → κ} {seen : List κ}
variable {a : α} {as : List α} {i : Nat}

/-- The item at a place passes, its key is not among those seen, and no item before it passes with
the same key. -/
def FirstAt (p : α → Bool) (key : α → κ) (seen : List κ) (as : List α) (i : Nat) : Prop :=
  ∃ a, as[i]? = some a ∧ p a ∧ key a ∉ seen ∧
    ∀ j < i, ∀ b, as[j]? = some b → p b → key b ≠ key a

theorem firstAt_zero : FirstAt p key seen (a :: as) 0 ↔ p a ∧ key a ∉ seen := by
  constructor
  · rintro ⟨b, hb, hp, hs, -⟩
    cases hb
    exact ⟨hp, hs⟩
  · rintro ⟨hp, hs⟩
    exact ⟨a, rfl, hp, hs, fun j hj => absurd hj (Nat.not_lt_zero j)⟩

theorem firstAt_succ_of_passed (h : p a → key a ∈ seen) :
    FirstAt p key seen (a :: as) (i + 1) ↔ FirstAt p key seen as i := by
  constructor
  · rintro ⟨b, hb, hp, hs, hlt⟩
    exact ⟨b, hb, hp, hs, fun j hj => hlt (j + 1) (Nat.succ_lt_succ hj)⟩
  · rintro ⟨b, hb, hp, hs, hlt⟩
    refine ⟨b, hb, hp, hs, fun j hj c hc hpc => ?_⟩
    cases j with
    | zero =>
      cases hc
      exact fun he => hs (he ▸ h hpc)
    | succ j => exact hlt j (Nat.lt_of_succ_lt_succ hj) c hc hpc

theorem firstAt_succ_of_kept (h : p a) :
    FirstAt p key seen (a :: as) (i + 1) ↔ FirstAt p key (key a :: seen) as i := by
  constructor
  · rintro ⟨b, hb, hp, hs, hlt⟩
    refine ⟨b, hb, hp, ?_, fun j hj => hlt (j + 1) (Nat.succ_lt_succ hj)⟩
    rw [List.mem_cons, not_or]
    exact ⟨(hlt 0 (Nat.succ_pos i) a rfl h).symm, hs⟩
  · rintro ⟨b, hb, hp, hs, hlt⟩
    rw [List.mem_cons, not_or] at hs
    refine ⟨b, hb, hp, hs.2, fun j hj c hc hpc => ?_⟩
    cases j with
    | zero =>
      cases hc
      exact Ne.symm hs.1
    | succ j => exact hlt j (Nat.lt_of_succ_lt_succ hj) c hc hpc

theorem forall₂_succ {places : List Nat} {out : List α}
    (h : List.Forall₂ (fun i b => as[i]? = some b) places out) :
    List.Forall₂ (fun i b => (a :: as)[i]? = some b) (places.map (· + 1)) out := by
  rw [List.forall₂_map_left_iff]
  exact h.imp fun i b hb => hb

theorem pairwise_succ {places : List Nat} (h : places.Pairwise (· < ·)) :
    (places.map (· + 1)).Pairwise (· < ·) :=
  h.map _ fun _ _ hlt => Nat.succ_lt_succ hlt

/-- **The invariant of the walk.**  With some keys seen already, the walk keeps the items at the
places where the first item with a new key passes, in ascending order. -/
theorem exists_places [BEq κ] [LawfulBEq κ] (p : α → Bool) (key : α → κ) (seen : List κ)
    (as : List α) :
    ∃ places : List Nat, places.Pairwise (· < ·) ∧
      (∀ i, i ∈ places ↔ FirstAt p key seen as i) ∧
      List.Forall₂ (fun i a => as[i]? = some a) places (firstOfEach key seen (as.filter p)) := by
  induction as generalizing seen with
  | nil => exact ⟨[], .nil, fun i => by simp [FirstAt], .nil⟩
  | cons a as ih =>
    by_cases h : p a ∧ key a ∉ seen
    · -- the item is kept, and its key is seen from here on
      obtain ⟨places, hasc, hmem, hall⟩ := ih (key a :: seen)
      have hwalk : firstOfEach key seen ((a :: as).filter p) =
          a :: firstOfEach key (key a :: seen) (as.filter p) := by
        simp [h.1, firstOfEach, h.2]
      refine ⟨0 :: places.map (· + 1), ?_, fun i => ?_, ?_⟩
      · refine List.pairwise_cons.2 ⟨fun i hi => ?_, pairwise_succ hasc⟩
        obtain ⟨j, -, rfl⟩ := List.mem_map.1 hi
        exact Nat.succ_pos j
      · cases i with
        | zero => simp [firstAt_zero, h]
        | succ i => simp [firstAt_succ_of_kept h.1, hmem]
      · rw [hwalk]
        exact .cons rfl (forall₂_succ hall)
    · -- the item is passed over, and nothing changes
      obtain ⟨places, hasc, hmem, hall⟩ := ih seen
      have hpassed : p a → key a ∈ seen := fun hp => by_contra fun hs => h ⟨hp, hs⟩
      have hwalk : firstOfEach key seen ((a :: as).filter p) =
          firstOfEach key seen (as.filter p) := by
        cases hp : p a
        · simp [hp]
        · simp [hp, firstOfEach, hpassed hp]
      refine ⟨places.map (· + 1), pairwise_succ hasc, fun i => ?_, ?_⟩
      · cases i with
        | zero => simp [firstAt_zero, h]
        | succ i => simp [firstAt_succ_of_passed hpassed, hmem]
      · rw [hwalk]
        exact forall₂_succ hall

end Walk

/-! ### Rows with their keys -/

/-- The rows of all fragments, in their order. -/
def listed (fragments : List Fragment) : List ServerRow := fragments.flatMap fun f => f.table.rows

theorem mapM_eq_none {α β : Type} {f : α → Option β} {as : List α} :
    as.mapM f = none ↔ ∃ a ∈ as, f a = none := by
  induction as with
  | nil => simp
  | cons a as ih => cases h : f a <;> cases hs : as.mapM f <;> simp_all

theorem getElem?_of_mapM {α β : Type} {f : α → Option β} {as : List α} {bs : List β}
    (h : as.mapM f = some bs) (i : Nat) : bs[i]? = as[i]?.bind f := by
  induction as generalizing bs i with
  | nil =>
    cases h
    rfl
  | cons a as ih =>
    rw [List.mapM_cons] at h
    obtain ⟨b, hb, h⟩ := Option.bind_eq_some_iff.1 h
    obtain ⟨bs, hbs, h⟩ := Option.bind_eq_some_iff.1 h
    cases h
    cases i with
    | zero => exact hb.symm
    | succ i => exact ih hbs i

theorem keyedRows?_eq_none {fragments : List Fragment} :
    keyedRows? fragments = none ↔ ∃ row ∈ listed fragments, ¬row.HasMetadata := by
  rw [keyedRows?, mapM_eq_none]
  simp [listed, ServerRow.key?_eq_none]

/-- **When merging fails.** -/
theorem error_iff {d : Descriptor} {wide : Bool} {filter : RowFilter} {fragments : List Fragment}
    {e : GatewayError} :
    mergeTables d wide filter fragments = .error e ↔
      e = .rowWithoutMetadata ∧ ∃ row ∈ listed fragments, ¬row.HasMetadata := by
  rw [← keyedRows?_eq_none, mergeTables]
  cases keyedRows? fragments with
  | none => simp [eq_comm]
  | some rows => simp

/-! ### The objects that are shown -/

/-- An object passes a filter: every object does, or those whose name matches, or those that the
JSONPath has selected in the list of any fragment. -/
def Passes (fragments : List Fragment) (key : ObjectKey) : RowFilter → Prop
  | .all => True
  | .selected => ∃ f ∈ fragments, ∃ keys, f.selected = some keys ∧ key ∈ keys
  | .nameMatches r => r.isMatch key.name = true

/-- Two keys mean the same object of a kind: the names are the same and, where the kind has
namespaces, these too. -/
def SameObject (d : Descriptor) (a b : ObjectKey) : Prop :=
  (d.namespaced = true → a.ns = b.ns) ∧ a.name = b.name

/-- The row at a place shows an object that passes. -/
def PassesAt (filter : RowFilter) (fragments : List Fragment) (i : Nat) (key : ObjectKey) : Prop :=
  ∃ row, (listed fragments)[i]? = some row ∧ row.key? = some key ∧ Passes fragments key filter

/-- The row at a place shows an object that passes, and no row before it shows the same object and
passes. -/
def IsFirst (d : Descriptor) (filter : RowFilter) (fragments : List Fragment) (i : Nat) : Prop :=
  ∃ key, PassesAt filter fragments i key ∧
    ∀ j < i, ∀ other, PassesAt filter fragments j other → ¬SameObject d other key

theorem passes_iff {filter : RowFilter} {fragments : List Fragment} {key : ObjectKey} :
    passes filter (selectedKeys fragments) key = true ↔ Passes fragments key filter := by
  cases filter with
  | all => exact iff_of_true rfl trivial
  | selected =>
    rw [passes, List.contains_iff_mem, selectedKeys, List.mem_flatMap]
    refine exists_congr fun f => and_congr_right fun _ => ?_
    cases f.selected <;> simp
  | nameMatches r => rfl

theorem identityKey_eq_iff {d : Descriptor} {a b : ObjectKey} :
    identityKey d a = identityKey d b ↔ SameObject d a b := by
  cases a
  cases b
  cases h : d.namespaced <;> simp [identityKey, SameObject, h]

/-- A row of the merged table is made from the row at a place. -/
def MadeFrom (d : Descriptor) (columns : List (Nat × ColumnDefinition)) (fragments : List Fragment)
    (i : Nat) (out : TableRow) : Prop :=
  ∃ row key, (listed fragments)[i]? = some row ∧ row.key? = some key ∧
    out = mergedRow d columns key row

/-- A row of the merged table says which object it shows. -/
def Shows (d : Descriptor) (row : TableRow) (key : ObjectKey) : Prop :=
  row.ns = (if d.namespaced then some key.ns else none) ∧ row.name = key.name

/-- Rows show the first occurrences of the objects that pass. -/
structure ShowsFirst (d : Descriptor) (columns : List (Nat × ColumnDefinition))
    (filter : RowFilter) (fragments : List Fragment) (out : List TableRow) : Prop where
  /-- The rows are made at all the places of first occurrences, in ascending order. -/
  places : ∃ places : List Nat, places.Pairwise (· < ·) ∧
    (∀ i, i ∈ places ↔ IsFirst d filter fragments i) ∧
    List.Forall₂ (MadeFrom d columns fragments) places out
  /-- No object is shown twice. -/
  nodup : (out.map fun row => (row.ns, row.name)).Nodup
  /-- No object that passes is lost. -/
  covers : ∀ i key, PassesAt filter fragments i key → ∃ row ∈ out, Shows d row key

variable {d : Descriptor} {columns : List (Nat × ColumnDefinition)} {filter : RowFilter}
variable {fragments : List Fragment} {rows : List (ObjectKey × ServerRow)} {i j : Nat}
variable {key other : ObjectKey}

theorem getElem?_keyedRows (h : keyedRows? fragments = some rows) {row : ServerRow} :
    rows[i]? = some (key, row) ↔ (listed fragments)[i]? = some row ∧ row.key? = some key := by
  rw [getElem?_of_mapM h, listed]
  simp only [Option.bind_eq_some_iff, Option.map_eq_some_iff, Prod.mk.injEq]
  constructor
  · rintro ⟨row, hrow, key, hkey, rfl, rfl⟩
    exact ⟨hrow, hkey⟩
  · rintro ⟨hrow, hkey⟩
    exact ⟨row, hrow, key, hkey, rfl, rfl⟩

theorem isFirst_iff (h : keyedRows? fragments = some rows) :
    FirstAt (fun x : ObjectKey × ServerRow => passes filter (selectedKeys fragments) x.1)
      (fun x => identityKey d x.1) [] rows i ↔ IsFirst d filter fragments i := by
  constructor
  · rintro ⟨⟨key, row⟩, hi, hp, -, hlt⟩
    obtain ⟨hrow, hkey⟩ := (getElem?_keyedRows h).1 hi
    refine ⟨key, ⟨row, hrow, hkey, passes_iff.1 hp⟩, ?_⟩
    rintro j hj other ⟨row, hrow, hkey, hp⟩ hsame
    exact hlt j hj (other, row) ((getElem?_keyedRows h).2 ⟨hrow, hkey⟩) (passes_iff.2 hp)
      (identityKey_eq_iff.2 hsame)
  · rintro ⟨key, ⟨row, hrow, hkey, hp⟩, hlt⟩
    refine ⟨(key, row), (getElem?_keyedRows h).2 ⟨hrow, hkey⟩, passes_iff.2 hp,
      List.not_mem_nil, ?_⟩
    rintro j hj ⟨other, row⟩ hother hp hsame
    obtain ⟨hrow, hkey⟩ := (getElem?_keyedRows h).1 hother
    exact hlt j hj other ⟨row, hrow, hkey, passes_iff.1 hp⟩ (identityKey_eq_iff.1 hsame)

theorem exists_isFirst (h : PassesAt filter fragments i key) :
    ∃ j other, IsFirst d filter fragments j ∧ PassesAt filter fragments j other ∧
      SameObject d other key := by
  induction i using Nat.strongRecOn generalizing key with
  | _ i ih =>
    -- an earlier row that passes with the same object leads on, by induction; else this is the first
    by_cases hearlier : ∃ j < i, ∃ other, PassesAt filter fragments j other ∧
        SameObject d other key
    · obtain ⟨j, hj, other, hother, hsame⟩ := hearlier
      obtain ⟨k, first, hfirst, hpasses, hsame'⟩ := ih j hj hother
      refine ⟨k, first, hfirst, hpasses, ?_⟩
      rw [← identityKey_eq_iff] at hsame hsame' ⊢
      exact hsame'.trans hsame
    · refine ⟨i, key, ⟨key, h, fun j hj other hother hsame => ?_⟩, h, fun _ => rfl, rfl⟩
      exact hearlier ⟨j, hj, other, hother, hsame⟩

theorem MadeFrom.shows {out : TableRow} (ho : MadeFrom d columns fragments i out)
    (h : PassesAt filter fragments i key) : Shows d out key := by
  obtain ⟨row, k, hrow, hkey, rfl⟩ := ho
  obtain ⟨row', hrow', hkey', -⟩ := h
  obtain rfl : row' = row := Option.some.inj (hrow'.symm.trans hrow)
  obtain rfl : key = k := Option.some.inj (hkey'.symm.trans hkey)
  exact ⟨rfl, rfl⟩

theorem MadeFrom.ne {a b : TableRow} (ha : MadeFrom d columns fragments i a)
    (hb : MadeFrom d columns fragments j b) (hi : IsFirst d filter fragments i)
    (hj : IsFirst d filter fragments j) (hlt : i < j) : (a.ns, a.name) ≠ (b.ns, b.name) := by
  obtain ⟨key, hkey, -⟩ := hi
  obtain ⟨other, hother, hfirst⟩ := hj
  have hka := ha.shows hkey
  have hkb := hb.shows hother
  intro he
  have hns := hka.1.symm.trans ((Prod.mk.inj he).1.trans hkb.1)
  have hname := hka.2.symm.trans ((Prod.mk.inj he).2.trans hkb.2)
  exact hfirst i hlt key hkey ⟨fun hn => by simpa [hn] using hns, hname⟩

theorem showsFirst_of_forall₂ {places : List Nat} {out : List TableRow}
    (hasc : places.Pairwise (· < ·)) (hmem : ∀ i, i ∈ places ↔ IsFirst d filter fragments i)
    (hmade : List.Forall₂ (MadeFrom d columns fragments) places out) :
    ShowsFirst d columns filter fragments out where
  places := ⟨places, hasc, hmem, hmade⟩
  nodup := by
    -- of two rows, the one that comes later is made at a later place
    have hlen := hmade.length_eq
    refine List.pairwise_map.2 (List.pairwise_iff_getElem.2 fun m n hm hn hmn => ?_)
    have hlt := List.pairwise_iff_getElem.1 hasc m n (hlen ▸ hm) (hlen ▸ hn) hmn
    exact (hmade.get _ hm).ne (hmade.get _ hn) ((hmem _).1 (List.getElem_mem _))
      ((hmem _).1 (List.getElem_mem _)) hlt
  covers i key hpasses := by
    obtain ⟨j, other, hfirst, hother, hns, hname⟩ := exists_isFirst (d := d) hpasses
    obtain ⟨n, hn, rfl⟩ := List.mem_iff_getElem.1 ((hmem j).2 hfirst)
    have hout : n < out.length := hmade.length_eq ▸ hn
    have hshows := (hmade.get hn hout).shows hother
    refine ⟨out[n], List.getElem_mem hout, hshows.1.trans ?_, hshows.2.trans hname⟩
    split
    · rename_i hnamespaced
      rw [hns hnamespaced]
    · rfl

theorem showsFirst_of_eq_ok {wide : Bool} {t : Table}
    (h : mergeTables d wide filter fragments = .ok t) :
    ShowsFirst d (visible wide (definitions fragments)) filter fragments t.rows := by
  rw [mergeTables] at h
  cases hrows : keyedRows? fragments with
  | none => simp [hrows] at h
  | some rows =>
    rw [hrows] at h
    cases h
    obtain ⟨places, hasc, hmem, hall⟩ := exists_places
      (fun x : ObjectKey × ServerRow => passes filter (selectedKeys fragments) x.1)
      (fun x => identityKey d x.1) [] rows
    refine showsFirst_of_forall₂ hasc (fun i => (hmem i).trans (isFirst_iff hrows)) ?_
    refine List.forall₂_map_right_iff.2 (hall.imp fun i x hi => ?_)
    obtain ⟨hrow, hkey⟩ := (getElem?_keyedRows hrows).1 hi
    exact ⟨x.2, x.1, hrow, hkey, rfl⟩

/-- **Which rows a merged table shows.**  Merging fails just if some row, whether it would be shown
or not, has no metadata; otherwise the rows show the first occurrences of the objects that pass. -/
theorem shown_rows (d : Descriptor) (wide : Bool) (filter : RowFilter)
    (fragments : List Fragment) :
    ((∃ e, mergeTables d wide filter fragments = .error e) ↔
      ∃ row ∈ listed fragments, ¬row.HasMetadata) ∧
    (∀ e, mergeTables d wide filter fragments = .error e → e = .rowWithoutMetadata) ∧
    ∀ t, mergeTables d wide filter fragments = .ok t →
      ShowsFirst d (visible wide (definitions fragments)) filter fragments t.rows := by
  refine ⟨⟨?_, fun h => ?_⟩, fun e he => (error_iff.1 he).1, fun t => showsFirst_of_eq_ok⟩
  · rintro ⟨e, he⟩
    exact (error_iff.1 he).2
  · exact ⟨_, error_iff.2 ⟨rfl, h⟩⟩

/-- An object that is listed twice is shown as it was listed first, and a row without metadata is
in the way also where it would not be shown. -/
theorem shown_rows_nodes :
    let nodes : Descriptor := .ofEntry "v1" "Node" "nodes" false
    let row (state : String) : ServerRow :=
      ⟨[.string state], some (.object [("metadata", .object [("name", .string "web")])])⟩
    let fragment (row : ServerRow) : Fragment := ⟨⟨[⟨"State", "", "", "", 0⟩], [row]⟩, none⟩
    let twice := [fragment (row "up"), fragment (row "down")]
    let t : Table := ⟨"Node", ["State"], [⟨none, "web", ["up"]⟩]⟩
    (mergeTables nodes false .all twice = .ok t ∧
      ShowsFirst nodes (visible false (definitions twice)) .all twice t.rows) ∧
    ∃ e, mergeTables nodes false .selected [fragment (row "up"), fragment ⟨[], none⟩] =
      .error e := by
  intro nodes row fragment twice t
  have ht : mergeTables nodes false .all twice = .ok t := by decide +kernel
  have hbare : (⟨[], none⟩ : ServerRow) ∈ listed [fragment (row "up"), fragment ⟨[], none⟩] := by
    simp [listed, fragment]
  refine ⟨⟨ht, (shown_rows nodes false .all twice).2.2 t ht⟩, ?_⟩
  refine (shown_rows nodes false .selected _).1.2 ⟨_, hbare, ?_⟩
  rintro ⟨members, ho, -⟩
  cases ho

end TableMerge

end ClusterGateway

import ClusterGateway.Proofs.Table.Kept

/-!
# Laws of merging

Merging goes through the rows once, leaves out those that do not pass, and then those whose object
is there already.  So what it makes of some fragments says what it makes of others.

* `TableMerge.mergeTables_restrict` : a filter that goes by what a merged row shows may as well be
  applied to the merged table.
* `TableMerge.filtered_afterwards` : **this is so of regular expressions, and of a JSONPath** unless
  rows of a kind without namespaces tell of one.
* `TableMerge.mergeTables_append_subset` : fragments that have been merged already make no
  difference.
* `TableMerge.merging_adds_rows` : **merging the same again changes nothing, and merging more only
  adds rows at the end**.
-/

namespace ClusterGateway

open Json

/-- The key of the object that a row shows. -/
def TableRow.key (row : TableRow) : ObjectKey := ⟨row.ns.getD "", row.name⟩

/-- The table with only some of its rows. -/
def Table.restrict (t : Table) (p : TableRow → Bool) : Table := { t with rows := t.rows.filter p }

/-- The metadata of the object tell of a namespace. -/
def ServerRow.HasNamespace (r : ServerRow) : Prop :=
  ∃ metadata ns, r.object.bind (·.get? "metadata") = some metadata ∧
    metadata.get? "namespace" = some (.string ns) ∧ ns ≠ ""

theorem ServerRow.ns_eq_empty {r : ServerRow} {key : ObjectKey} (h : r.key? = some key)
    (hr : ¬r.HasNamespace) : key.ns = "" := by
  obtain ⟨metadata, hmetadata, rfl⟩ := Option.map_eq_some_iff.1 h
  by_contra hne
  apply hr
  change ((metadata.get? "namespace").bind Value.asString?).getD "" ≠ "" at hne
  cases hv : (metadata.get? "namespace").bind Value.asString? with
  | none =>
    rw [hv] at hne
    exact absurd rfl hne
  | some ns =>
    rw [hv] at hne
    obtain ⟨v, hns, hv⟩ := Option.bind_eq_some_iff.1 hv
    cases v with
    | string s =>
      cases hv
      exact ⟨metadata, ns, hmetadata, hns, hne⟩
    | _ => cases hv

namespace TableMerge

variable {d : Descriptor} {wide : Bool} {filter : RowFilter} {fragments fs gs : List Fragment}
variable {selected : List ObjectKey} {rows more : List (ObjectKey × ServerRow)}

instance (fragments : List Fragment) (key : ObjectKey) (filter : RowFilter) :
    Decidable (Passes fragments key filter) := decidable_of_iff _ passes_iff

theorem mem_keyedRows (h : keyedRows? fragments = some rows) {x : ObjectKey × ServerRow} :
    x ∈ rows ↔ x.2 ∈ listed fragments ∧ x.2.key? = some x.1 := by
  rw [List.mem_iff_getElem?, List.mem_iff_getElem?, ← exists_and_right]
  exact exists_congr fun i => getElem?_keyedRows h

/-! ### Filtering -/

theorem key_mergedRow (columns : List (Nat × ColumnDefinition)) (key : ObjectKey)
    (row : ServerRow) : (mergedRow d columns key row).key = identityKey d key := by
  cases h : d.namespaced <;> simp [mergedRow, TableRow.key, identityKey, h]

theorem kept_restrict (h : ∀ x ∈ rows,
      passes filter selected x.1 = passes filter selected (identityKey d x.1)) :
    kept d filter selected rows =
      (kept d .all selected rows).filter fun x => passes filter selected (identityKey d x.1) := by
  have hall : (rows.filter fun x => passes .all selected x.1) = rows :=
    List.filter_eq_self.2 fun _ _ => rfl
  rw [kept, kept, hall, List.filter_congr h]
  exact firstOfEach_filter [] fun x _ y _ hxy => congrArg (passes filter selected) hxy

/-- **A filter may as well be applied to the merged table**, if an object passes just if the object
that the merged row shows does. -/
theorem mergeTables_restrict (h : ∀ row ∈ listed fragments, ∀ key, row.key? = some key →
      (Passes fragments key filter ↔ Passes fragments (identityKey d key) filter)) :
    mergeTables d wide filter fragments = (mergeTables d wide .all fragments).map fun t =>
      t.restrict fun row => Passes fragments row.key filter := by
  cases hrows : keyedRows? fragments with
  | none =>
    have hfails := keyedRows?_eq_none.1 hrows
    rw [error_iff.2 ⟨rfl, hfails⟩, error_iff.2 ⟨rfl, hfails⟩]
    rfl
  | some rows =>
    have hpasses : ∀ key, passes filter (selectedKeys fragments) key =
        decide (Passes fragments key filter) := fun key => by
      rw [Bool.eq_iff_iff, passes_iff, decide_eq_true_iff]
    -- a key passes or not for all rows of an object at once, so that filtering may come later
    have hkept : kept d filter (selectedKeys fragments) rows =
        (kept d .all (selectedKeys fragments) rows).filter fun x =>
          passes filter (selectedKeys fragments) (identityKey d x.1) := kept_restrict fun x hx => by
      obtain ⟨hlisted, hkey⟩ := (mem_keyedRows hrows).1 hx
      rw [hpasses, hpasses, decide_eq_decide]
      exact h x.2 hlisted x.1 hkey
    rw [mergeTables_eq_ok_iff.2 ⟨rows, hrows, rfl⟩, mergeTables_eq_ok_iff.2 ⟨rows, hrows, rfl⟩,
      Except.map, Table.restrict, mergedRows, mergedRows, hkept, List.filter_map]
    simp only [Function.comp_def, key_mergedRow, hpasses]

/-- **Filtering and merging** may change places: the table that is merged of the rows that pass has
the same columns as that of all rows, and of its rows those that pass.  This holds of the names that
a regular expression matches, and of the objects that a JSONPath has selected in any of the lists if
the kind has namespaces or no row tells of one. -/
theorem filtered_afterwards (d : Descriptor) (wide : Bool) (fragments : List Fragment) :
    (∀ r, mergeTables d wide (.nameMatches r) fragments =
      (mergeTables d wide .all fragments).map fun t =>
        t.restrict fun row => r.isMatch row.name) ∧
    ((d.namespaced = true ∨ ∀ row ∈ listed fragments, ¬row.HasNamespace) →
      mergeTables d wide .selected fragments =
        (mergeTables d wide .all fragments).map fun t =>
          t.restrict fun row => Passes fragments row.key .selected) := by
  constructor
  · intro r
    have hpasses : (fun row : TableRow => decide (Passes fragments row.key (.nameMatches r))) =
        fun row => r.isMatch row.name := by
      funext row
      rw [Bool.eq_iff_iff, decide_eq_true_iff]
      rfl
    rw [← hpasses]
    refine mergeTables_restrict fun row _ key _ => ?_
    rw [Passes, Passes, identityKey]
    split <;> rfl
  · intro h
    refine mergeTables_restrict fun row hrow key hkey => ?_
    -- without a namespace a key is already that by which objects are told apart
    have hsame : identityKey d key = key := by
      rw [identityKey]
      split
      · rfl
      · rename_i hd
        have hns := ServerRow.ns_eq_empty hkey ((h.resolve_left hd) row hrow)
        rw [← hns]
    rw [hsame]

/-- A row that tells of the state of an object. -/
def stateRow (ns : Option String) (name state : String) : ServerRow :=
  ⟨[.string state], some (.object [("metadata", .object
    (("name", .string name) :: (ns.map fun ns => ("namespace", Value.string ns)).toList))])⟩

/-- A fragment that tells of the states of objects, and of a choice among them. -/
def stateFragment (selected : List ObjectKey) (rows : List ServerRow) : Fragment :=
  ⟨⟨[⟨"State", "", "", "", 0⟩], rows⟩, some selected⟩

/-- A node that the second list selects is shown as it was listed first.  Where its first row tells
of a namespace, it would be shown so only afterwards. -/
theorem filtered_afterwards_nodes :
    let nodes : Descriptor := .ofEntry "v1" "Node" "nodes" false
    let same (fragments : List Fragment) : Prop := mergeTables nodes false .selected fragments =
      (mergeTables nodes false .all fragments).map fun t =>
        t.restrict fun row => Passes fragments row.key .selected
    let states : List Fragment :=
      [stateFragment [] [stateRow none "web" "up", stateRow none "db" "up"],
        stateFragment [⟨"", "web"⟩] [stateRow none "web" "down"]]
    let told : List Fragment := [stateFragment [] [stateRow (some "one") "web" "up"],
      stateFragment [⟨"", "web"⟩] [stateRow none "web" "down"]]
    ((∀ row ∈ listed states, ¬row.HasNamespace) ∧ same states) ∧ ¬same told := by
  intro nodes same states told
  have hnone : ∀ name state, ¬(stateRow none name state).HasNamespace := by
    rintro name state ⟨metadata, ns, hmetadata, hns, -⟩
    cases hmetadata
    cases hns
  have hstates : ∀ row ∈ listed states, ¬row.HasNamespace := by
    simp [listed, states, stateFragment, hnone]
  refine ⟨⟨hstates, (filtered_afterwards nodes false states).2 (.inr hstates)⟩, ?_⟩
  change ¬(mergeTables nodes false .selected told = _)
  decide +kernel

/-! ### More fragments -/

theorem definitions_cons (f : Fragment) (fs : List Fragment) : definitions (f :: fs) =
    if f.table.columns = [] then definitions fs else f.table.columns := by
  by_cases h : f.table.columns = [] <;> simp [definitions, h]

theorem definitions_eq_nil_iff : definitions fs = [] ↔ ∀ f ∈ fs, f.table.columns = [] := by
  induction fs with
  | nil => simp [definitions]
  | cons f fs ih =>
    rw [definitions_cons, List.forall_mem_cons, ← ih]
    by_cases h : f.table.columns = [] <;> simp [h]

theorem definitions_append (fs gs : List Fragment) : definitions (fs ++ gs) =
    if definitions fs = [] then definitions gs else definitions fs := by
  induction fs with
  | nil => rfl
  | cons f fs ih =>
    rw [List.cons_append, definitions_cons, definitions_cons, ih]
    by_cases h : f.table.columns = [] <;> simp [h]

theorem definitions_append_subset (h : gs ⊆ fs) : definitions (fs ++ gs) = definitions fs := by
  rw [definitions_append]
  split
  · rename_i hfs
    have hgs : definitions gs = [] :=
      definitions_eq_nil_iff.2 fun g hg => definitions_eq_nil_iff.1 hfs g (h hg)
    rw [hfs, hgs]
  · rfl

theorem mem_keys_kept {k : ObjectKey} :
    k ∈ (kept d filter selected rows).map (fun x => identityKey d x.1) ↔
      ∃ x ∈ rows, passes filter selected x.1 = true ∧ identityKey d x.1 = k := by
  rw [kept, mem_map_firstOfEach]
  simp [and_assoc]

theorem kept_append_subset (h : more ⊆ rows) :
    kept d filter selected (rows ++ more) = kept d filter selected rows := by
  rw [kept_append, List.append_right_eq_self, List.filter_eq_nil_iff]
  intro x hx
  have hkey : identityKey d x.1 ∈ (kept d filter selected more).map fun y => identityKey d y.1 :=
    List.mem_map_of_mem hx
  obtain ⟨y, hy, hpasses, hsame⟩ := mem_keys_kept.1 hkey
  have hseen : identityKey d x.1 ∈ (kept d filter selected rows).map fun y => identityKey d y.1 :=
    mem_keys_kept.2 ⟨y, h hy, hpasses, hsame⟩
  simpa using hseen

theorem kept_selected_subset (h : gs ⊆ fs) (rows : List (ObjectKey × ServerRow)) :
    kept d filter (selectedKeys (fs ++ gs)) rows = kept d filter (selectedKeys fs) rows := by
  have hselected : ∀ key, passes filter (selectedKeys (fs ++ gs)) key =
      passes filter (selectedKeys fs) key := fun key => by
    rw [Bool.eq_iff_iff, passes_iff, passes_iff]
    cases filter with
    | all | nameMatches => rfl
    | selected =>
      refine exists_congr fun f => and_congr_left fun _ => ?_
      rw [List.mem_append]
      exact ⟨fun hf => hf.elim id fun hg => h hg, .inl⟩
  simp only [kept, hselected]

/-- **Fragments that have been merged already** make no difference. -/
theorem mergeTables_append_subset (h : gs ⊆ fs) :
    mergeTables d wide filter (fs ++ gs) = mergeTables d wide filter fs := by
  have hlisted : ∀ row ∈ listed gs, row ∈ listed fs := fun row hrow => by
    obtain ⟨g, hg, hrow⟩ := List.mem_flatMap.1 hrow
    exact List.mem_flatMap.2 ⟨g, h hg, hrow⟩
  cases hrows : keyedRows? fs with
  | none =>
    obtain ⟨row, hrow, hbare⟩ := keyedRows?_eq_none.1 hrows
    have hboth : row ∈ listed (fs ++ gs) := by
      rw [listed, List.flatMap_append]
      exact List.mem_append_left _ hrow
    rw [error_iff.2 ⟨rfl, row, hrow, hbare⟩, error_iff.2 ⟨rfl, row, hboth, hbare⟩]
  | some rows =>
    cases hmore : keyedRows? gs with
    | none =>
      obtain ⟨row, hrow, hbare⟩ := keyedRows?_eq_none.1 hmore
      have hnone := keyedRows?_eq_none.2 ⟨row, hlisted row hrow, hbare⟩
      cases hnone.symm.trans hrows
    | some more =>
      -- the rows that come again are there already, under the same keys
      have hsubset : more ⊆ rows := fun x hx => by
        obtain ⟨hrow, hkey⟩ := (mem_keyedRows hmore).1 hx
        exact (mem_keyedRows hrows).2 ⟨hlisted x.2 hrow, hkey⟩
      have hall := keyedRows?_append_eq_some_iff.2 ⟨rows, more, hrows, hmore, rfl⟩
      rw [mergeTables_eq_ok_iff.2 ⟨_, hall, rfl⟩, mergeTables_eq_ok_iff.2 ⟨rows, hrows, rfl⟩,
        mergedRows, mergedRows, definitions_append_subset h, kept_selected_subset h,
        kept_append_subset hsubset]

/-- A table goes on where another one, of some of its fragments, ends: with rows of the other
fragments, of objects that are not there yet. -/
structure GoesOn (d : Descriptor) (wide : Bool) (fs gs : List Fragment) (t longer : Table) :
    Prop where
  /-- The name is the same. -/
  name : longer.name = t.name
  /-- The columns are the same. -/
  columns : longer.columns = t.columns
  /-- The rows come first, and then some of the other fragments. -/
  rows : ∃ more, longer.rows = t.rows ++ more ∧ ∀ row ∈ more,
    (∃ i, MadeFrom d (visible wide (definitions fs)) gs i row) ∧ t.shows row = false

/-- Where no second list is asked, **merging more fragments** only adds rows. -/
theorem exists_goesOn (hfilter : AsksOnce filter) (hdefined : ∃ f ∈ fs, f.table.columns ≠ [])
    {longer : Table} (h : mergeTables d wide filter (fs ++ gs) = .ok longer) :
    ∃ t, mergeTables d wide filter fs = .ok t ∧ GoesOn d wide fs gs t longer := by
  obtain ⟨all, hall, rfl⟩ := mergeTables_eq_ok_iff.1 h
  obtain ⟨rows, more, hrows, hmore, rfl⟩ := keyedRows?_append_eq_some_iff.1 hall
  have hdefinitions : definitions (fs ++ gs) = definitions fs := by
    obtain ⟨f, hf, hne⟩ := hdefined
    rw [definitions_append, if_neg fun hnil => hne (definitions_eq_nil_iff.1 hnil f hf)]
  rw [hdefinitions, mergedRows_eq hfilter _ (selectedKeys fs)]
  refine ⟨_, mergeTables_eq_ok_iff.2 ⟨rows, hrows, rfl⟩, rfl, rfl, _, mergedRows_append rfl more,
    fun row hrow => ?_⟩
  obtain ⟨hrow, hunseen⟩ := List.mem_filter.1 hrow
  obtain ⟨x, hx, rfl⟩ := List.mem_map.1 hrow
  have hxmore : x ∈ more := (List.mem_filter.1 ((firstOfEach_sublist _ _).subset hx)).1
  obtain ⟨i, hi⟩ := List.mem_iff_getElem?.1 hxmore
  obtain ⟨hsource, hkey⟩ := (getElem?_keyedRows hmore).1 hi
  exact ⟨⟨i, x.2, x.1, hsource, hkey, rfl⟩, by simpa using hunseen⟩

/-- **Merging the same again changes nothing, and merging more only adds rows at the end.**  The
first holds of all filters.  The second is for filters that ask no second list, and for fragments of
which one defines columns, as otherwise those that come later may do so. -/
theorem merging_adds_rows (d : Descriptor) (wide : Bool) (fs gs : List Fragment) :
    (∀ filter, (∀ g ∈ gs, g ∈ fs) →
      mergeTables d wide filter (fs ++ gs) = mergeTables d wide filter fs) ∧
    ∀ filter, AsksOnce filter → (∃ f ∈ fs, f.table.columns ≠ []) →
      ∀ longer, mergeTables d wide filter (fs ++ gs) = .ok longer →
        ∃ t, mergeTables d wide filter fs = .ok t ∧ GoesOn d wide fs gs t longer :=
  ⟨fun _ h => mergeTables_append_subset fun _ hg => h _ hg,
    fun _ hfilter hdefined _ h => exists_goesOn hfilter hdefined h⟩

/-- A pod that is listed again stays as it was, whether the list is the same or another one. -/
theorem merging_adds_rows_pods :
    let pods : Descriptor := .ofEntry "v1" "Pod" "pods" true
    let first := stateFragment [⟨"one", "web"⟩] [stateRow (some "one") "web" "up"]
    let second := stateFragment [] [stateRow (some "one") "web" "down",
      stateRow (some "two") "web" "up"]
    let longer : Table := ⟨"Pod", ["Namespace", "State"],
      [⟨some "one", "web", ["one", "up"]⟩, ⟨some "two", "web", ["two", "up"]⟩]⟩
    ((∀ g ∈ [second], g ∈ [second, first]) ∧
      mergeTables pods false .selected ([second, first] ++ [second]) =
        mergeTables pods false .selected [second, first]) ∧
    (∃ f ∈ [first], f.table.columns ≠ []) ∧
      mergeTables pods false .all ([first] ++ [second]) = .ok longer ∧
      ∃ t, mergeTables pods false .all [first] = .ok t ∧
        GoesOn pods false [first] [second] t longer := by
  intro pods first second longer
  have hagain : ∀ g ∈ [second], g ∈ [second, first] := by simp
  have hdefined : ∃ f ∈ [first], f.table.columns ≠ [] :=
    ⟨first, List.mem_singleton_self _, List.cons_ne_nil _ _⟩
  have hlonger : mergeTables pods false .all ([first] ++ [second]) = .ok longer := by
    decide +kernel
  exact ⟨⟨hagain, (merging_adds_rows pods false [second, first] [second]).1 .selected hagain⟩,
    hdefined, hlonger,
    (merging_adds_rows pods false [first] [second]).2 .all trivial hdefined longer hlonger⟩

end TableMerge

end ClusterGateway

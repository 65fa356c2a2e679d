import ClusterGateway.Proofs.Table.Kept

/-!
# What stands in the columns of a merged table

The columns of a merged table are those of the first fragment that defines any
(`TableMerge.DefinedFirst`), without those that only wide tables show (`TableMerge.AreShown`).  A
column of namespaces comes before them where the kind has namespaces.

* `TableMerge.isHeading_columnName`, `TableMerge.isCell_renderCell` : what a heading and a cell say.
* `TableMerge.cells_are_aligned` : **every row has one cell for each column, taken from its own row
  of the API server at the place of the definition of the column**, also where the API server's row
  is too short or too long.
* `TableMerge.narrow_is_part_of_wide` : **a narrow table is the wide one at some places**, the same
  for the columns and for every row.
-/

namespace ClusterGateway

open Json

namespace TableMerge

/-! ### The definitions that are shown -/

/-- The definitions of the first fragment that has any, or none if no fragment has. -/
inductive DefinedFirst : List Fragment → List ColumnDefinition → Prop
  /-- No fragment defines a column. -/
  | nowhere {fragments : List Fragment} : (∀ f ∈ fragments, f.table.columns = []) →
    DefinedFirst fragments []
  /-- A fragment defines columns, and none before it does. -/
  | first {before after : List Fragment} {f : Fragment} : (∀ g ∈ before, g.table.columns = []) →
    f.table.columns ≠ [] → DefinedFirst (before ++ f :: after) f.table.columns

theorem definedFirst_definitions (fragments : List Fragment) :
    DefinedFirst fragments (definitions fragments) := by
  rw [definitions, List.find?_map]
  cases h : fragments.find? ((fun columns => !columns.isEmpty) ∘ fun f => f.table.columns) with
  | none => exact .nowhere fun f hf => by simpa using List.find?_eq_none.1 h f hf
  | some f =>
    obtain ⟨hf, before, after, rfl, hbefore⟩ := List.find?_eq_some_iff_append.1 h
    exact .first (fun g hg => by simpa using hbefore g hg) (by simpa using hf)

/-- The places of the definitions that a table shows, in ascending order: those of priority zero,
or all of them in a wide table. -/
structure AreShown (wide : Bool) (columns : List ColumnDefinition) (places : List Nat) : Prop where
  /-- The places are in ascending order. -/
  ascending : places.Pairwise (· < ·)
  /-- They are those of the definitions that are shown. -/
  mem_iff (i : Nat) : i ∈ places ↔ ∃ c, columns[i]? = some c ∧ (wide = true ∨ c.priority = 0)

variable {d : Descriptor} {wide : Bool} {filter : RowFilter} {fragments : List Fragment}
variable {columns : List ColumnDefinition} {places : List Nat}

theorem mem_visible {i : Nat} {c : ColumnDefinition} :
    (i, c) ∈ visible wide columns ↔ columns[i]? = some c ∧ (wide = true ∨ c.priority = 0) := by
  simp [visible, List.mk_mem_zipIdx_iff_getElem?]

theorem visible_ascending (wide : Bool) (columns : List ColumnDefinition) :
    ((visible wide columns).map Prod.fst).Pairwise (· < ·) := by
  have hall : columns.zipIdx.Pairwise fun a b => a.2 < b.2 := by
    rw [← List.pairwise_map, List.zipIdx_map_snd]
    exact List.pairwise_lt_range'
  rw [visible, List.map_map, List.pairwise_map]
  exact hall.filter _

theorem areShown_visible (wide : Bool) (columns : List ColumnDefinition) :
    AreShown wide columns ((visible wide columns).map Prod.fst) := by
  refine ⟨visible_ascending wide columns, fun i => ?_⟩
  simp [mem_visible]

/-! ### Headings and cells -/

/-- The kinds that show amounts of processor time and memory. -/
def ShowsAmounts (d : Descriptor) : Prop :=
  d.id = "podmetrics.metrics.k8s.io" ∨ d.id = "nodemetrics.metrics.k8s.io"

/-- The heading of a column of a name. -/
inductive IsHeading (d : Descriptor) : String → String → Prop
  /-- Processor time has a heading of its own. -/
  | cpu : ShowsAmounts d → IsHeading d "cpu" "CPU"
  /-- Memory has one, too. -/
  | memory : ShowsAmounts d → IsHeading d "memory" "Memory"
  /-- All other columns are headed by their names. -/
  | same {name : String} : (ShowsAmounts d → name ≠ "cpu" ∧ name ≠ "memory") → IsHeading d name name

/-- The text of a value, whichever the column. -/
inductive IsText : Option Value → String → Prop
  /-- The row is too short. -/
  | missing : IsText none ""
  /-- There is no value. -/
  | null : IsText (some .null) ""
  /-- A string stands as it is. -/
  | string (s : String) : IsText (some (.string s)) s
  /-- All else is written as compact JSON. -/
  | json {v : Value} : v ≠ .null → (∀ s, v ≠ .string s) → IsText (some v) v.render

/-- A text is an amount of what a column of a name shows, and this is how the column writes it. -/
def IsAmount (name text amount : String) : Prop :=
  (name = "cpu" ∧ Quantity.cpu? text = some amount) ∨
    (name = "memory" ∧ Quantity.memory? text = some amount)

/-- What stands for a value in a column of a name. -/
inductive IsCell (d : Descriptor) (name : String) (v : Option Value) : String → Prop
  /-- The amount that the text is, where the kind shows amounts. -/
  | amount {text amount : String} : IsText v text → ShowsAmounts d → IsAmount name text amount →
    IsCell d name v amount
  /-- The text, where it is no amount to show. -/
  | text {text : String} : IsText v text → (ShowsAmounts d → ∀ amount, ¬IsAmount name text amount) →
    IsCell d name v text

theorem isMetrics_iff : isMetrics d = true ↔ ShowsAmounts d := by
  simp [isMetrics, ShowsAmounts]

theorem isHeading_columnName (d : Descriptor) (name : String) :
    IsHeading d name (columnName d name) := by
  rw [columnName]
  by_cases hd : ShowsAmounts d
  · rw [if_pos (isMetrics_iff.2 hd)]
    by_cases hcpu : name = "cpu"
    · subst hcpu
      exact .cpu hd
    rw [if_neg hcpu]
    by_cases hmemory : name = "memory"
    · subst hmemory
      exact .memory hd
    rw [if_neg hmemory]
    exact .same fun _ => ⟨hcpu, hmemory⟩
  · rw [if_neg (mt isMetrics_iff.1 hd)]
    exact .same fun h => absurd h hd

theorem isText_cellText (v : Option Value) : IsText v (cellText v) := by
  cases v with
  | none => exact .missing
  | some v =>
    cases v with
    | null => exact .null
    | string s => exact .string s
    | bool | number | array | object => exact .json nofun nofun

theorem isCell_renderCell (d : Descriptor) (name : String) (v : Option Value) :
    IsCell d name v (renderCell d name v) := by
  have htext := isText_cellText v
  rw [renderCell]
  by_cases hd : ShowsAmounts d
  · rw [if_pos (isMetrics_iff.2 hd)]
    by_cases hcpu : name = "cpu"
    · subst hcpu
      rw [if_pos rfl]
      cases h : Quantity.cpu? (cellText v) with
      | some amount => exact .amount htext hd (.inl ⟨rfl, h⟩)
      | none => exact .text htext fun _ amount => by simp [IsAmount, h]
    rw [if_neg hcpu]
    by_cases hmemory : name = "memory"
    · subst hmemory
      rw [if_pos rfl]
      cases h : Quantity.memory? (cellText v) with
      | some amount => exact .amount htext hd (.inr ⟨rfl, h⟩)
      | none => exact .text htext fun _ amount => by simp [IsAmount, h]
    rw [if_neg hmemory]
    exact .text htext fun _ amount => by simp [IsAmount, hcpu, hmemory]
  · rw [if_neg (mt isMetrics_iff.1 hd)]
    exact .text htext fun h => absurd h hd

/-! ### Alignment -/

/-- The number of columns in front of those that are defined. -/
def lead (d : Descriptor) : Nat := if d.namespaced then 1 else 0

/-- A heading is that of the definition at a place. -/
def Heads (d : Descriptor) (columns : List ColumnDefinition) (i : Nat) (heading : String) : Prop :=
  ∃ c, columns[i]? = some c ∧ IsHeading d c.name heading

/-- A cell is that of a row of the API server at the place of a definition. -/
def Fills (d : Descriptor) (columns : List ColumnDefinition) (source : ServerRow) (i : Nat)
    (cell : String) : Prop :=
  ∃ c, columns[i]? = some c ∧ IsCell d c.name source.cells[i]? cell

/-- A row shows the object of a row of the API server and, under the definitions at some places,
its values there. -/
structure IsRowOf (d : Descriptor) (columns : List ColumnDefinition) (places : List Nat)
    (source : ServerRow) (row : TableRow) : Prop where
  /-- The row shows the same object. -/
  shows : ∃ key, source.key? = some key ∧ Shows d row key
  /-- Its cells are those at the places of the definitions. -/
  cells : List.Forall₂ (Fills d columns source) places (row.cells.drop (lead d))

/-- A column that is asked for by its name is the first one of this name, and of every row it has
the cell at its place. -/
def FindsColumn (t : Table) (name : String) : Prop :=
  ∃ (i : Nat) (values : List String), t.columns[i]? = some name ∧
    (∀ j < i, t.columns[j]? ≠ some name) ∧ t.column? name = some values ∧
    List.Forall₂ (fun row value => row.cells[i]? = some value) t.rows values

/-- The rows of a table are aligned to its columns, which are those of the definitions at some
places. -/
structure IsAligned (d : Descriptor) (filter : RowFilter) (fragments : List Fragment)
    (columns : List ColumnDefinition) (places : List Nat) (t : Table) : Prop where
  /-- Every row has as many cells as there are columns. -/
  width : ∀ row ∈ t.rows, row.cells.length = t.columns.length
  /-- Where the kind has namespaces, they stand in the first column, and every row has one. -/
  namespaced : d.namespaced = true → t.columns.head? = some "Namespace" ∧
    ∀ row ∈ t.rows, row.ns.isSome ∧ row.cells.head? = row.ns
  /-- Where it has none, no row has one. -/
  unspaced : d.namespaced = false → ∀ row ∈ t.rows, row.ns = none
  /-- The other columns are headed by the definitions. -/
  headings : List.Forall₂ (Heads d columns) places (t.columns.drop (lead d))
  /-- The rows are those of the first occurrences of the objects that pass, with their values. -/
  rows : ∃ firsts : List Nat, firsts.Pairwise (· < ·) ∧
    (∀ n, n ∈ firsts ↔ IsFirst d filter fragments n) ∧
    List.Forall₂ (fun n row => ∃ source, (listed fragments)[n]? = some source ∧
      IsRowOf d columns places source row) firsts t.rows
  /-- Every column is found by its name. -/
  column : ∀ name ∈ t.columns, FindsColumn t name

/-- **A table whose rows are as long as its columns** finds every column. -/
theorem findsColumn_of_mem {t : Table}
    (hwidth : ∀ row ∈ t.rows, row.cells.length = t.columns.length)
    {name : String} (h : name ∈ t.columns) : FindsColumn t name := by
  have hsome : (t.columns.findIdx? (· = name)).isSome := by simpa using h
  obtain ⟨i, hi⟩ := Option.isSome_iff_exists.1 hsome
  obtain ⟨hlt, hname, hfirst⟩ := List.findIdx?_eq_some_iff_getElem.1 hi
  have hcolumn : t.column? name = some (t.rows.map fun row => (row.cells[i]?).getD "") := by
    rw [Table.column?, hi, Option.map_some]
  refine ⟨i, _, ?_, fun j hj he => ?_, hcolumn, ?_⟩
  · rw [List.getElem?_eq_getElem hlt, of_decide_eq_true hname]
  · rw [List.getElem?_eq_getElem (Nat.lt_trans hj hlt)] at he
    exact hfirst j hj (decide_eq_true (Option.some.inj he))
  · refine List.forall₂_map_right_iff.2 (List.forall₂_same.2 fun row hrow => ?_)
    have hcell : i < row.cells.length := by rw [hwidth row hrow]; exact hlt
    rw [List.getElem?_eq_getElem hcell, Option.getD_some]

theorem columns_eq_of_ok {t : Table} (h : mergeTables d wide filter fragments = .ok t) :
    t.columns = columnNames d (visible wide (definitions fragments)) := by
  obtain ⟨rows, -, rfl⟩ := mergeTables_eq_ok_iff.1 h
  rfl

theorem drop_lead (d : Descriptor) (x : String) (xs : List String) :
    ((if d.namespaced then [x] else []) ++ xs).drop (lead d) = xs := by
  rw [lead]
  split <;> rfl

theorem isRowOf_mergedRow {key : ObjectKey} {source : ServerRow} (h : source.key? = some key) :
    IsRowOf d columns ((visible wide columns).map Prod.fst) source
      (mergedRow d (visible wide columns) key source) := by
  refine ⟨⟨key, h, rfl, rfl⟩, ?_⟩
  rw [mergedRow, drop_lead, List.forall₂_map_left_iff, List.forall₂_map_right_iff,
    List.forall₂_same]
  rintro ⟨i, c⟩ hc
  exact ⟨c, (mem_visible.1 hc).1, isCell_renderCell d c.name _⟩

/-- **Every cell of a merged table stands under its column.** -/
theorem cells_are_aligned {t : Table} (h : mergeTables d wide filter fragments = .ok t) :
    ∃ columns places, DefinedFirst fragments columns ∧ AreShown wide columns places ∧
      IsAligned d filter fragments columns places t := by
  have hcolumns := columns_eq_of_ok h
  obtain ⟨firsts, hascending, hfirsts, hmade⟩ := (showsFirst_of_eq_ok h).places
  have hrow : ∀ row ∈ t.rows, ∃ key source,
      row = mergedRow d (visible wide (definitions fragments)) key source := fun row hrow => by
    obtain ⟨rows, -, rfl⟩ := mergeTables_eq_ok_iff.1 h
    obtain ⟨x, -, rfl⟩ := List.mem_map.1 hrow
    exact ⟨x.1, x.2, rfl⟩
  -- each row is made with the same visible columns as the heading
  have hwidth : ∀ row ∈ t.rows, row.cells.length = t.columns.length := fun row hr => by
    obtain ⟨key, source, rfl⟩ := hrow row hr
    rw [hcolumns, columnNames, mergedRow]
    split <;> simp
  refine ⟨definitions fragments, _, definedFirst_definitions fragments, areShown_visible wide _,
    hwidth, fun hd => ⟨?_, fun row hr => ?_⟩, fun hd row hr => ?_, ?_,
    ⟨firsts, hascending, hfirsts, hmade.imp ?_⟩, fun name => findsColumn_of_mem hwidth⟩
  · rw [hcolumns, columnNames, if_pos hd]
    rfl
  · obtain ⟨key, source, rfl⟩ := hrow row hr
    simp [mergedRow, hd]
  · obtain ⟨key, source, rfl⟩ := hrow row hr
    simp [mergedRow, hd]
  · rw [hcolumns, columnNames, drop_lead, List.forall₂_map_left_iff, List.forall₂_map_right_iff,
      List.forall₂_same]
    rintro ⟨i, c⟩ hc
    exact ⟨c, (mem_visible.1 hc).1, isHeading_columnName d c.name⟩
  · rintro n row ⟨source, key, hsource, hkey, rfl⟩
    exact ⟨source, hsource, isRowOf_mergedRow hkey⟩

/-- The kind of the amounts that pods use. -/
def podMetrics : Descriptor := .ofEntry "metrics.k8s.io/v1beta1" "PodMetrics" "pods" true

/-- The amounts that two pods use: a row too short for the definitions, in a fragment without any,
and a row too long for them. -/
def podAmounts : List Fragment :=
  let column (name : String) (priority : Int) : ColumnDefinition := ⟨name, "", "", "", priority⟩
  let row (name : String) (cells : List Value) : ServerRow := ⟨cells, some (.object
    [("metadata", .object [("name", .string name), ("namespace", .string "one")])])⟩
  [⟨⟨[], [row "db" [.string "db", .null, .string "1500000n"]]⟩, none⟩,
    ⟨⟨[column "Name" 0, column "Node" 1, column "cpu" 0, column "memory" 0],
      [row "web" [.int 7, .string "host", .string "busy", .string "1Gi", .bool true]]⟩, none⟩]

/-- The narrow table of these amounts. -/
def narrowAmounts : Table := ⟨"PodMetrics", ["Namespace", "Name", "CPU", "Memory"],
  [⟨some "one", "db", ["one", "db", "2m", ""]⟩,
    ⟨some "one", "web", ["one", "7", "busy", "1024Mi"]⟩]⟩

theorem merge_podAmounts : mergeTables podMetrics false .all podAmounts = .ok narrowAmounts := by
  decide +kernel

/-- Rows that are too short and too long are aligned, and what is no amount stays as it is. -/
theorem cells_are_aligned_podAmounts :
    mergeTables podMetrics false .all podAmounts = .ok narrowAmounts ∧
      ∃ columns places, DefinedFirst podAmounts columns ∧ AreShown false columns places ∧
        IsAligned podMetrics .all podAmounts columns places narrowAmounts :=
  ⟨merge_podAmounts, cells_are_aligned merge_podAmounts⟩

/-! ### Narrow tables -/

/-- Texts are those of a longer list at some places. -/
def AreAt (places : List Nat) (whole part : List String) : Prop :=
  List.Forall₂ (fun i x => whole[i]? = some x) places part

/-- A place of a wide table that a narrow one has, too: that of the namespaces, or that of a
definition of priority zero. -/
def Stays (d : Descriptor) (columns : List ColumnDefinition) (i : Nat) : Prop :=
  i < lead d ∨ ∃ j c, i = lead d + j ∧ columns[j]? = some c ∧ c.priority = 0

/-- A table is a part of another one: it has the same rows, and of their cells and of the columns
those at some places, the same for all of them. -/
structure IsPartOf (d : Descriptor) (columns : List ColumnDefinition) (narrow wide : Table) :
    Prop where
  /-- The name is the same. -/
  name : narrow.name = wide.name
  /-- The rows show the same objects in the same order. -/
  objects : (narrow.rows.map fun row => (row.ns, row.name)) =
    wide.rows.map fun row => (row.ns, row.name)
  /-- Columns and cells are those at the places that stay. -/
  places : ∃ places : List Nat, places.Pairwise (· < ·) ∧ (∀ i, i ∈ places ↔ Stays d columns i) ∧
    AreAt places wide.columns narrow.columns ∧
    List.Forall₂ (fun narrow wide => AreAt places wide.cells narrow.cells) narrow.rows wide.rows

/-- The places of a narrow table in the wide one. -/
def narrowPlaces (d : Descriptor) (columns : List ColumnDefinition) : List Nat :=
  List.range (lead d) ++ (visible false columns).map fun x => lead d + x.1

theorem narrowPlaces_ascending (d : Descriptor) (columns : List ColumnDefinition) :
    (narrowPlaces d columns).Pairwise (· < ·) := by
  have hvisible := visible_ascending false columns
  rw [List.pairwise_map] at hvisible
  refine List.pairwise_append.2 ⟨List.pairwise_lt_range, List.pairwise_map.2 ?_, ?_⟩
  · exact hvisible.imp fun h => Nat.add_lt_add_left h _
  · intro i hi j hj
    obtain ⟨x, -, rfl⟩ := List.mem_map.1 hj
    exact Nat.lt_of_lt_of_le (List.mem_range.1 hi) (Nat.le_add_right _ _)

theorem mem_narrowPlaces {i : Nat} : i ∈ narrowPlaces d columns ↔ Stays d columns i := by
  rw [narrowPlaces, List.mem_append, List.mem_range, List.mem_map, Stays]
  refine or_congr_right ⟨?_, ?_⟩
  · rintro ⟨⟨j, c⟩, hc, rfl⟩
    obtain ⟨hc, hpriority⟩ := mem_visible.1 hc
    exact ⟨j, c, rfl, hc, by simpa using hpriority⟩
  · rintro ⟨j, c, rfl, hc, hpriority⟩
    exact ⟨(j, c), mem_visible.2 ⟨hc, .inr hpriority⟩, rfl⟩

theorem getElem?_visible_wide (columns : List ColumnDefinition) (i : Nat) :
    (visible true columns)[i]? = columns[i]?.map (i, ·) := by
  simp [visible, Function.comp_def]

/-- **What stands under the columns of a narrow table** stands in the wide one at the places that
stay. -/
theorem areAt_narrowPlaces (d : Descriptor) (columns : List ColumnDefinition) (x : String)
    (text : Nat × ColumnDefinition → String) :
    AreAt (narrowPlaces d columns)
      ((if d.namespaced then [x] else []) ++ (visible true columns).map text)
      ((if d.namespaced then [x] else []) ++ (visible false columns).map text) := by
  have hvisible : ∀ y ∈ visible false columns,
      ((visible true columns).map text)[y.1]? = some (text y) := by
    rintro ⟨i, c⟩ hc
    rw [List.getElem?_map, getElem?_visible_wide, (mem_visible.1 hc).1]
    rfl
  -- a wide table shows all definitions, so that places count from behind the namespace on
  have hrest (front : List String) : List.Forall₂
      (fun i y => (front ++ (visible true columns).map text)[i]? = some y)
      ((visible false columns).map fun y => front.length + y.1)
      ((visible false columns).map text) := by
    rw [List.forall₂_map_left_iff, List.forall₂_map_right_iff, List.forall₂_same]
    intro y hy
    rw [List.getElem?_append_right (Nat.le_add_right _ _), Nat.add_sub_cancel_left]
    exact hvisible y hy
  rw [AreAt, narrowPlaces, lead]
  split
  · exact .cons rfl (hrest [x])
  · exact hrest []

/-- **A narrow table is a part of the wide one.**  One of them fails just if the other does, for the
same reason, and otherwise the narrow one is the wide one at the places of the namespaces and of the
definitions of priority zero. -/
theorem narrow_is_part_of_wide (d : Descriptor) (filter : RowFilter) (fragments : List Fragment) :
    (∀ e, mergeTables d false filter fragments = .error e ↔
      mergeTables d true filter fragments = .error e) ∧
    ∀ narrow wide, mergeTables d false filter fragments = .ok narrow →
      mergeTables d true filter fragments = .ok wide →
      ∃ columns, DefinedFirst fragments columns ∧ IsPartOf d columns narrow wide := by
  refine ⟨fun e => error_iff.trans error_iff.symm, fun narrow wide hnarrow hwide => ?_⟩
  obtain ⟨rows, hrows, rfl⟩ := mergeTables_eq_ok_iff.1 hnarrow
  obtain ⟨rows', hrows', rfl⟩ := mergeTables_eq_ok_iff.1 hwide
  obtain rfl : rows = rows' := Option.some.inj (hrows.symm.trans hrows')
  refine ⟨definitions fragments, definedFirst_definitions fragments, rfl, ?_,
    narrowPlaces d (definitions fragments), narrowPlaces_ascending d _, fun i => mem_narrowPlaces,
    areAt_narrowPlaces d _ "Namespace" fun x => columnName d x.2.name, ?_⟩
  · simp only [mergedRows, List.map_map]
    rfl
  · simp only [mergedRows, List.forall₂_map_left_iff, List.forall₂_map_right_iff, List.forall₂_same]
    intro x _
    exact areAt_narrowPlaces d _ x.1.ns fun y => renderCell d y.2.name x.2.cells[y.1]?

/-- The column of the nodes, between others, is only in the wide table. -/
theorem narrow_is_part_of_wide_podAmounts :
    let wide : Table := ⟨"PodMetrics", ["Namespace", "Name", "Node", "CPU", "Memory"],
      [⟨some "one", "db", ["one", "db", "", "2m", ""]⟩,
        ⟨some "one", "web", ["one", "7", "host", "busy", "1024Mi"]⟩]⟩
    mergeTables podMetrics false .all podAmounts = .ok narrowAmounts ∧
      mergeTables podMetrics true .all podAmounts = .ok wide ∧
      ∃ columns, DefinedFirst podAmounts columns ∧
        IsPartOf podMetrics columns narrowAmounts wide := by
  intro wide
  have hwide : mergeTables podMetrics true .all podAmounts = .ok wide := by decide +kernel
  exact ⟨merge_podAmounts, hwide,
    (narrow_is_part_of_wide podMetrics .all podAmounts).2 _ _ merge_podAmounts hwide⟩

end TableMerge

end ClusterGateway

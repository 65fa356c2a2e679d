import ClusterGateway.Error
import ClusterGateway.Quantity
import ClusterGateway.Regex.Match
import ClusterGateway.Resource.Descriptor
import ClusterGateway.Table.Basic
import ClusterGateway.Table.Server

/-!
# Merging tables

The tables that answer several list requests become one table.  The columns are those of the
first table that defines any; an object that is listed more than once appears where it was listed
first.
-/

namespace ClusterGateway

open Json

/-- A table of the API server, with the objects that a JSONPath selected in the same list. -/
structure Fragment where
  /-- The table. -/
  table : ServerTable
  /-- The selected objects; none where no JSONPath was asked for. -/
  selected : Option (List ObjectKey)
  deriving Repr, Inhabited

/-- Which rows stay. -/
inductive RowFilter where
  /-- All rows. -/
  | all
  /-- The rows of the selected objects. -/
  | selected
  /-- The rows whose name matches. -/
  | nameMatches (r : Regex)

namespace TableMerge

/-! ### Columns -/

/-- The definitions of the first table that has any. -/
def definitions (fragments : List Fragment) : List ColumnDefinition :=
  ((fragments.map fun f => f.table.columns).find? fun columns => !columns.isEmpty).getD []

/-- The columns that are shown, with their places in the rows. -/
def visible (wide : Bool) (columns : List ColumnDefinition) : List (Nat × ColumnDefinition) :=
  (columns.zipIdx.filter fun (column, _) => wide || column.priority == 0).map
    fun (column, i) => (i, column)

/-- Whether a kind shows amounts of processor time and memory. -/
def isMetrics (d : Descriptor) : Bool :=
  d.id = "podmetrics.metrics.k8s.io" || d.id = "nodemetrics.metrics.k8s.io"

/-- The name under which a column is shown. -/
def columnName (d : Descriptor) (name : String) : String :=
  if isMetrics d then
    if name = "cpu" then "CPU" else if name = "memory" then "Memory" else name
  else name

/-- The names of the columns of the merged table. -/
def columnNames (d : Descriptor) (columns : List (Nat × ColumnDefinition)) : List String :=
  (if d.namespaced then ["Namespace"] else []) ++ columns.map fun (_, c) => columnName d c.name

/-! ### Cells -/

/-- The text of a value: empty without one, a string as it is, compact JSON otherwise. -/
def cellText : Option Value → String
  | none => ""
  | some .null => ""
  | some (.string s) => s
  | some v => v.render

/-- The text of a value in a column.  Amounts of kinds that show them are written in the units of
the column, if they can be read. -/
def renderCell (d : Descriptor) (column : String) (v : Option Value) : String :=
  let text := cellText v
  if isMetrics d then
    if column = "cpu" then (Quantity.cpu? text).getD text
    else if column = "memory" then (Quantity.memory? text).getD text
    else text
  else text

/-! ### Rows -/

/-- The rows with the keys of their objects; none if some row does not say which object it
shows. -/
def keyedRows? (fragments : List Fragment) : Option (List (ObjectKey × ServerRow)) :=
  (fragments.flatMap fun f => f.table.rows).mapM fun row => row.key?.map (·, row)

/-- The objects that JSONPaths selected in any of the lists. -/
def selectedKeys (fragments : List Fragment) : List ObjectKey :=
  fragments.flatMap fun f => f.selected.getD []

/-- Whether an object passes a filter. -/
def passes (filter : RowFilter) (selected : List ObjectKey) (key : ObjectKey) : Bool :=
  match filter with
  | .all => true
  | .selected => selected.contains key
  | .nameMatches r => r.isMatch key.name

/-- What tells objects of a kind apart: the whole key, or the name where there are no
namespaces. -/
def identityKey (d : Descriptor) (key : ObjectKey) : ObjectKey :=
  if d.namespaced then key else ⟨"", key.name⟩

/-- The first of the items with each key, unless the key has been seen before. -/
def firstOfEach {κ α : Type} [BEq κ] (key : α → κ) (seen : List κ) : List α → List α
  | [] => []
  | a :: as =>
    if seen.contains (key a) then firstOfEach key seen as
    else a :: firstOfEach key (key a :: seen) as

/-- A row of the merged table. -/
def mergedRow (d : Descriptor) (columns : List (Nat × ColumnDefinition)) (key : ObjectKey)
    (row : ServerRow) : TableRow where
  ns := if d.namespaced then some key.ns else none
  name := key.name
  cells := (if d.namespaced then [key.ns] else []) ++
    columns.map fun (i, c) => renderCell d c.name row.cells[i]?

end TableMerge

open TableMerge in
/-- The table that several tables of one kind make together. -/
def mergeTables (d : Descriptor) (wide : Bool) (filter : RowFilter) (fragments : List Fragment) :
    Except GatewayError Table :=
  let columns := visible wide (definitions fragments)
  match keyedRows? fragments with
  | none => .error .rowWithoutMetadata
  | some rows =>
    let selected := selectedKeys fragments
    let passing := rows.filter fun (key, _) => passes filter selected key
    let kept := firstOfEach (fun (key, _) => identityKey d key) [] passing
    .ok ⟨d.kind, columnNames d columns, kept.map fun (key, row) => mergedRow d columns key row⟩

end ClusterGateway

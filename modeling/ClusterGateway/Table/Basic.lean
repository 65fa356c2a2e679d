import ClusterGateway.Json.Decode

/-!
# Rendered tables

A table as it is shown: the kind of the listed objects, the names of the columns and a row of
texts for every object.
-/

namespace ClusterGateway

open Json

/-- One object of a table. -/
structure TableRow where
  /-- The namespace, if the kind has namespaces. -/
  ns : Option String
  /-- The name. -/
  name : String
  /-- The texts under the columns. -/
  cells : List String
  deriving Repr, DecidableEq, Inhabited

/-- A rendered table. -/
structure Table where
  /-- The kind of the objects. -/
  name : String
  /-- The names of the columns. -/
  columns : List String
  /-- The rows. -/
  rows : List TableRow
  deriving Repr, DecidableEq, Inhabited

namespace TableRow

/-- The row as JSON; a namespace is written only where there is one. -/
def encode (r : TableRow) : Value :=
  let rest := [("name", .string r.name), ("cells", .array (r.cells.map .string))]
  .object (match r.ns with
    | some ns => ("namespace", .string ns) :: rest
    | none => rest)

/-- Reads a row. -/
def decode : Decoder TableRow := fun room d => do
  let m ← Members.read? ["namespace", "name", "cells"] room d
  let ns ← m.nullable "namespace" .string
  let name ← m.required "name" .string
  let cells ← m.required "cells" (.list .string)
  return ⟨ns, name, cells⟩

end TableRow

namespace Table

/-- The number of rows. -/
def size (t : Table) : Nat := t.rows.length

/-- Whether the table has no rows. -/
def isEmpty (t : Table) : Bool := t.rows.isEmpty

/-- The texts of a column in the order of the rows; a row that is too short has empty texts. -/
def column? (t : Table) (name : String) : Option (List String) :=
  (t.columns.findIdx? (· = name)).map fun i => t.rows.map fun row => (row.cells[i]?).getD ""

/-- The table as JSON. -/
def encode (t : Table) : Value := .object [
  ("name", .string t.name), ("columns", .array (t.columns.map .string)),
  ("rows", .array (t.rows.map TableRow.encode))]

/-- Reads a table. -/
def decode : Decoder Table := fun room d => do
  let m ← Members.read? ["name", "columns", "rows"] room d
  let name ← m.required "name" .string
  let columns ← m.required "columns" (.list .string)
  let rows ← m.required "rows" (.list TableRow.decode)
  return ⟨name, columns, rows⟩

end Table

end ClusterGateway

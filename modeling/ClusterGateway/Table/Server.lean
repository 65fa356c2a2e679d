import ClusterGateway.Json.Decode
import ClusterGateway.Resource.Key

/-!
# Tables of the API server

The form in which the API server answers a list request that asks for a table.
-/

namespace ClusterGateway

open Json

/-- The definition of a column. -/
structure ColumnDefinition where
  /-- The name of the column. -/
  name : String
  /-- The type of the values. -/
  type : String
  /-- The format of the values. -/
  format : String
  /-- What the column shows. -/
  description : String
  /-- Columns of priority zero are always shown, others only in wide tables. -/
  priority : Int
  deriving Repr, DecidableEq, Inhabited

/-- One object as the API server renders it. -/
structure ServerRow where
  /-- The values under the columns. -/
  cells : List Value
  /-- What is told of the object. -/
  object : Option Value
  deriving Repr, BEq, Inhabited

/-- A table of the API server. -/
structure ServerTable where
  /-- The columns. -/
  columns : List ColumnDefinition
  /-- The rows. -/
  rows : List ServerRow
  deriving Repr, BEq, Inhabited

namespace ColumnDefinition

/-- Reads the definition of a column. -/
def decode : Decoder ColumnDefinition := fun room d => do
  let m ← Members.read? ["name", "type", "format", "description", "priority"] room d
  let name ← m.withDefault "name" "" .string
  let type ← m.withDefault "type" "" .string
  let format ← m.withDefault "format" "" .string
  let description ← m.withDefault "description" "" .string
  let priority ← m.withDefault "priority" 0 .int64
  return ⟨name, type, format, description, priority⟩

end ColumnDefinition

namespace ServerRow

/-- The key of the object, if its metadata are there. -/
def key? (r : ServerRow) : Option ObjectKey :=
  (r.object.bind (·.get? "metadata")).map fun metadata =>
    ⟨metadata.stringMember "namespace", metadata.stringMember "name"⟩

/-- Reads a row. -/
def decode : Decoder ServerRow := fun room d => do
  let m ← Members.read? ["cells", "object"] room d
  let cells ← m.withDefault "cells" [] (.list .value)
  let object ← m.withDefault "object" none (.nullable .value)
  return ⟨cells, object⟩

end ServerRow

namespace ServerTable

/-- Reads a table. -/
def decode : Decoder ServerTable := fun room d => do
  let m ← Members.read? ["columnDefinitions", "rows"] room d
  let columns ← m.withDefault "columnDefinitions" [] (.list ColumnDefinition.decode)
  let rows ← m.withDefault "rows" [] (.list ServerRow.decode)
  return ⟨columns, rows⟩

end ServerTable

end ClusterGateway

import ClusterGateway.Json.Document

/-!
# TOML documents

A TOML document is a tree of tables.  While it is read, a table knows how it came about
(`Toml.Origin`), because that decides whether it may still grow.
-/

namespace ClusterGateway

namespace Toml

/-- A value in a document. -/
inductive Value where
  /-- A string. -/
  | string (s : String)
  /-- An integer of 64 bits. -/
  | integer (n : Int)
  /-- A float. -/
  | float
  /-- A truth value. -/
  | bool (b : Bool)
  /-- A date, a time or both, as written. -/
  | moment (text : String)
  /-- An array. -/
  | array (items : List Value)
  /-- A table in braces. -/
  | table (entries : List (String × Value))
  deriving Repr, Inhabited

/-- How a table came about. -/
inductive Origin where
  /-- By a header of its own. -/
  | header
  /-- As a part of the header of a table inside it. -/
  | implied
  /-- By the dots of a key. -/
  | dotted
  deriving Repr, DecidableEq

/-- What stands under a key. -/
inductive Item where
  /-- A value. -/
  | value (v : Value)
  /-- A table. -/
  | table (origin : Origin) (entries : List (String × Item))
  /-- Tables with a common header, in order. -/
  | tables (elements : List (List (String × Item)))
  deriving Repr, Inhabited

/-- The entries of a table. -/
abbrev Entries := List (String × Item)

namespace Entries

/-- Changes what stands under a key. -/
def alter (key : String) (f : Option Item → Option Item) : Entries → Option Entries
  | [] => (f none).map fun item => [(key, item)]
  | (k, item) :: rest =>
    if k = key then (f (some item)).map fun item => (k, item) :: rest
    else (alter key f rest).map fun rest => (k, item) :: rest

/-- Adds an entry under a key that is free. -/
def insertNew (key : String) (item : Item) (entries : Entries) : Option Entries :=
  alter key (fun found => if found.isSome then none else some item) entries

/-- Changes the last of several tables. -/
def alterLast (f : Entries → Option Entries) (elements : List Entries) : Option Item :=
  match elements.getLast? with
  | some last => (f last).map fun last => .tables (elements.dropLast ++ [last])
  | none => none

/-- Changes the table under the keys of a header.  Tables on the way that are missing come about;
of several tables the last is meant. -/
def alterUnder (f : Entries → Option Entries) : List String → Entries → Option Entries
  | [], entries => f entries
  | key :: keys, entries =>
    alter key (fun
      | none => (alterUnder f keys []).map (.table .implied)
      | some (.table origin inner) => (alterUnder f keys inner).map (.table origin)
      | some (.tables elements) => alterLast (alterUnder f keys) elements
      | some (.value _) => none) entries

/-- Opens the table of a header.  A table has one header at most. -/
def openTable (path : List String) (entries : Entries) : Option Entries :=
  match path.getLast? with
  | none => none
  | some key =>
    alterUnder (alter key fun
      | none => some (.table .header [])
      | some (.table .implied inner) => some (.table .header inner)
      | _ => none) path.dropLast entries

/-- Opens one more table of a common header. -/
def openElement (path : List String) (entries : Entries) : Option Entries :=
  match path.getLast? with
  | none => none
  | some key =>
    alterUnder (alter key fun
      | none => some (.tables [[]])
      | some (.tables elements) => some (.tables (elements ++ [[]]))
      | _ => none) path.dropLast entries

/-- Sets a value under a dotted key of a table.  The dots neither enter a table that has a header
nor end in one that did not come about by dots. -/
def setDotted (origin : Option Origin) (key : String) (v : Value) :
    List String → Entries → Option Entries
  | [], entries =>
    if origin = none ∨ origin = some .dotted then insertNew key (.value v) entries else none
  | part :: parts, entries =>
    alter part (fun
      | none => (setDotted (some .dotted) key v parts []).map (.table .dotted)
      | some (.table .header _) => none
      | some (.table origin inner) =>
        (setDotted (some origin) key v parts inner).map (.table origin)
      | some (.tables elements) => alterLast (setDotted (some .header) key v parts) elements
      | some (.value _) => none) entries

/-- Sets a value under a dotted key of the table of a header. -/
def setUnder (header parts : List String) (key : String) (v : Value) (entries : Entries) :
    Option Entries :=
  alterUnder (setDotted none key v parts) header entries

end Entries

mutual

/-- The value of an item. -/
def Item.toValue : Item → Value
  | .value v => v
  | .table _ entries => .table (entryValues entries)
  | .tables elements => .array (elementValues elements)

/-- The values of entries. -/
def entryValues : List (String × Item) → List (String × Value)
  | [] => []
  | (key, item) :: rest => (key, item.toValue) :: entryValues rest

/-- The tables of a common header as values. -/
def elementValues : List (List (String × Item)) → List Value
  | [] => []
  | entries :: rest => .table (entryValues entries) :: elementValues rest

end

/-! ### As a JSON document -/

open Json

/-- The code points of a text. -/
def codes (s : String) : List Nat := s.toList.map Char.toNat

/-- The name of the only member of a date or time as a JSON document. -/
def momentKey : String := "$__toml_private_datetime"

mutual

/-- The value as a JSON document, so that both formats are read by the same decoders.  No setting
is a fraction, so of a float only the kind is kept. -/
def Value.toDocument : Value → Document
  | .string s => .string (codes s)
  | .integer n => .number (.ofInt n)
  | .float => .number ⟨false, [0], [0], none⟩
  | .bool b => .bool b
  | .moment text => .object [(codes momentKey, .string (codes text))]
  | .array items => .array (itemDocuments items)
  | .table entries => .object (entryDocuments entries)

/-- The items of an array as JSON documents. -/
def itemDocuments : List Value → List Document
  | [] => []
  | v :: vs => v.toDocument :: itemDocuments vs

/-- The entries of a table as members of a JSON object. -/
def entryDocuments : List (String × Value) → List (List Nat × Document)
  | [] => []
  | (key, v) :: rest => (codes key, v.toDocument) :: entryDocuments rest

end

end Toml

end ClusterGateway

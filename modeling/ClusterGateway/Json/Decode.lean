import ClusterGateway.Json.Document

/-!
# Reading typed values from documents

A `Decoder` reads a value of some type from a document, given how many arrays and objects may
still be nested.  Records are read through `Members`: the fields found in an object under their
names, or in an array by position.  Fields with other names are skipped without taking their
value.
-/

namespace ClusterGateway

namespace Json

/-- Reads a value from a document, with room for so many nested arrays and objects. -/
abbrev Decoder (α : Type) := Nat → Document → Option α

namespace Decoder

variable {α : Type}

/-- A string. -/
def string : Decoder String
  | _, .string codes => text? codes
  | _, _ => none

/-- A truth value. -/
def bool : Decoder Bool
  | _, .bool b => some b
  | _, _ => none

/-- An integer between the bounds, ends included. -/
def int (low high : Int) : Decoder Int
  | _, .number l => l.int?.bind fun n => if low ≤ n ∧ n ≤ high then some n else none
  | _, _ => none

/-- A signed integer of 64 bits. -/
def int64 : Decoder Int := int (-Int.pow 2 63) (Int.pow 2 63 - 1)

/-- A natural number below `2 ^ bits`. -/
def nat (bits : Nat) : Decoder Nat := fun room d => (int 0 (Int.pow 2 bits - 1) room d).map Int.toNat

/-- Any value. -/
def value : Decoder Value := fun room d => d.value? room

/-- A value or null. -/
def nullable (decode : Decoder α) : Decoder (Option α)
  | _, .null => some none
  | room, d => (decode room d).map some

/-- A value, with null for the default. -/
def nullOr (default : α) (decode : Decoder α) : Decoder α
  | _, .null => some default
  | room, d => decode room d

/-- An array. -/
def list (decode : Decoder α) : Decoder (List α)
  | room + 1, .array items => items.mapM (decode room)
  | _, _ => none

/-- An object with any keys, in the order of the keys; of two members with one key the later one
stays. -/
def map (decode : Decoder α) : Decoder (List (String × α))
  | room + 1, .object members => do
    let entries ← members.mapM fun (codes, d) => do
      let key ← text? codes
      let v ← decode room d
      return (key, v)
    return entries.foldl (fun ms m => put m.1 m.2 ms) []
  | _, _ => none
where
  put (key : String) (v : α) : List (String × α) → List (String × α)
    | [] => [(key, v)]
    | (k, w) :: ms =>
      if key = k then (key, v) :: ms
      else if key < k then (key, v) :: (k, w) :: ms
      else (k, w) :: put key v ms

/-- What a whole text means to a decoder. -/
def parse? (decode : Decoder α) (s : String) : Option α :=
  (Document.parse? s).bind (decode Document.maxDepth)

end Decoder

/-! ### Records -/

/-- The fields of a record that were found. -/
structure Members where
  /-- Whether the fields stood in an array, without names. -/
  positional : Bool
  /-- The fields by name. -/
  fields : List (String × Document)
  /-- The room for arrays and objects inside the fields. -/
  room : Nat

namespace Members

variable {α : Type}

/-- The members of an object under their names; none if some name is half of a surrogate pair. -/
def ofObject? (members : List (List Nat × Document)) : Option (List (String × Document)) :=
  members.mapM fun (codes, d) => (text? codes).map (·, d)

/-- The fields of a record.  In an object no field may stand twice; an array holds the fields in
the order of their names and nothing else. -/
def read? (names : List String) : Decoder Members
  | room + 1, .object members => do
    let named ← ofObject? members
    let known := named.filter fun (key, _) => names.contains key
    if (known.map Prod.fst).Nodup then return ⟨false, known, room⟩ else none
  | room + 1, .array items =>
    if items.length ≤ names.length then some ⟨true, names.zip items, room⟩ else none
  | _, _ => none

/-- The fields of a record that is an object; of a field that stands twice the last one counts. -/
def readObject? : Decoder Members
  | room + 1, .object members => (ofObject? members).map fun named => ⟨false, named, room⟩
  | _, _ => none

/-- The value of a field, if it is there.  A field that stands more than once has to be readable
every time, and the last time counts. -/
def find (m : Members) (name : String) (decode : Decoder α) : Option (Option α) :=
  ((m.fields.filter fun f => f.1 = name).mapM fun f => decode m.room f.2).map List.getLast?

/-- A field that has to be there. -/
def required (m : Members) (name : String) (decode : Decoder α) : Option α :=
  (m.find name decode).bind id

/-- A field with a default. -/
def withDefault (m : Members) (name : String) (default : α) (decode : Decoder α) : Option α :=
  (m.find name decode).map (·.getD default)

/-- A field that may be null, or absent from an object. -/
def nullable (m : Members) (name : String) (decode : Decoder α) : Option (Option α) :=
  (m.find name (Decoder.nullable decode)).bind fun found =>
    found.orElse fun _ => if m.positional then none else some none

/-- A field for which null or absence mean the default. -/
def orDefault (m : Members) (name : String) (default : α) (decode : Decoder α) : Option α :=
  m.withDefault name default (Decoder.nullOr default decode)

end Members

/-! ### Tagged records -/

namespace Document

/-- A record with a tag that says which one it is: the text of the tag and the record without it.
In an object the tag is a field, in an array it is the first item. -/
def untag? (tag : String) : Document → Option (String × Document)
  | .object members => do
    let named ← Members.ofObject? members
    match named.filter fun (key, _) => key = tag with
    | [(_, .string codes)] =>
      let kind ← text? codes
      return (kind, .object (members.filter fun (codes, _) => text? codes ≠ some tag))
    | _ => none
  | .array (.string codes :: items) => (text? codes).map (·, .array items)
  | _ => none

/-- Whether the document has a value when repeated members are allowed. -/
def hasValue (room : Nat) (d : Document) : Bool := (d.value? room).isSome

/-- An array without the items after the first so many; any other document as it is. -/
def firstItems (count : Nat) : Document → Document
  | .array items => .array (items.take count)
  | d => d

/-- Whether a record without its tag may stand for a bare tag: an object with any members, or an
array without items. -/
def isPlain : Document → Bool
  | .object _ => true
  | .array items => items.isEmpty
  | _ => false

end Document

end Json

end ClusterGateway

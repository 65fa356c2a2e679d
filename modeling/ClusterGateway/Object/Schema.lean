import ClusterGateway.Json.Decode
import ClusterGateway.Time.Json

/-!
# Schemas of API objects

The objects of a cluster are typed: a document that stands for one has to have the types of the
schema also in the parts that nobody looks at (`FieldType.admits`).  Fields may be null or absent,
items of a list and values of a map may not; fields that the schema does not name may hold
anything.
-/

namespace ClusterGateway

open Json

/-- What a field of an object may hold. -/
inductive FieldType where
  /-- A string. -/
  | text
  /-- A truth value. -/
  | flag
  /-- An integer of 32 bits. -/
  | int32
  /-- An integer of 64 bits. -/
  | int64
  /-- A number of a port, or its name. -/
  | port
  /-- A time. -/
  | time
  /-- Any value. -/
  | any
  /-- A list. -/
  | list (item : FieldType)
  /-- An object with any keys. -/
  | map (item : FieldType)
  /-- An object with certain fields. -/
  | record (fields : List (String × FieldType))
  deriving Inhabited

namespace FieldType

/-- An integer of 32 bits. -/
def int32Decoder : Decoder Int := .int (-Int.pow 2 31) (Int.pow 2 31 - 1)

/-- Whether a value without parts has a type. -/
def admitsLeaf (room : Nat) (d : Document) : FieldType → Bool
  | text => (Decoder.string room d).isSome
  | flag => (Decoder.bool room d).isSome
  | int32 => (int32Decoder room d).isSome
  | int64 => (Decoder.int64 room d).isSome
  | port => (int32Decoder room d).isSome || (Decoder.string room d).isSome
  | time => (Instant.decode room d).isSome
  | any => d.hasValue room
  | list _ | map _ | record _ => false

/-- Whether null may stand for a field that is absent. -/
def admitsField (admits : Bool) : Document → Bool
  | .null => true
  | _ => admits

mutual

/-- Whether a document has a type, with room for so many nested arrays and objects. -/
def admits (t : FieldType) (room : Nat) : Document → Bool
  | .array items =>
    match t, room with
    | list item, room + 1 => admitsItems item room items
    | t, room => admitsLeaf room (.array items) t
  | .object members =>
    match t, room with
    | map item, room + 1 => admitsEntries item room members
    | record fields, room + 1 => admitsFields fields room members
    | t, room => admitsLeaf room (.object members) t
  | d => admitsLeaf room d t

/-- Whether all items of a list have a type. -/
def admitsItems (t : FieldType) (room : Nat) : List Document → Bool
  | [] => true
  | d :: ds => admits t room d && admitsItems t room ds

/-- Whether all values of a map have a type. -/
def admitsEntries (t : FieldType) (room : Nat) : List (List Nat × Document) → Bool
  | [] => true
  | (key, d) :: ms => (text? key).isSome && admits t room d && admitsEntries t room ms

/-- Whether all fields of a record have their types. -/
def admitsFields (fields : List (String × FieldType)) (room : Nat) :
    List (List Nat × Document) → Bool
  | [] => true
  | (key, d) :: ms =>
    (match text? key with
      | none => false
      | some name => match fields.lookup name with
        | none => true
        | some t => admitsField (admits t room d) d) && admitsFields fields room ms

end

/-- A list of strings. -/
def texts : FieldType := list text

/-- A map of strings. -/
def textMap : FieldType := map text

/-- A record whose fields are strings. -/
def textRecord (names : List String) : List (String × FieldType) := names.map fun n => (n, text)

end FieldType

end ClusterGateway

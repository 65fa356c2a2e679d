import ClusterGateway.Json.Decode
import ClusterGateway.Json.Draft
import ClusterGateway.Text.Utf8

/-!
# Which fault comes first

A text is refused because it is not JSON or because it does not fit what is asked for.  The reader
goes through the text once and stops at the first fault of either kind.  A `Shape` says what it
asks for at every place; `Shape.fault?` is the first fault it meets.  Half of a surrogate pair, a
number out of range and too deep nesting are faults of the first kind, and only where a value is
taken.
-/

namespace ClusterGateway

namespace Json

/-- Why a text is refused. -/
inductive Fault where
  /-- It is not JSON. -/
  | notJson
  /-- It does not fit. -/
  | unfit
  deriving Repr, DecidableEq, Inhabited

/-- What a reader asks for. -/
inductive Shape where
  /-- Nothing: the value is skipped. -/
  | skipped
  /-- Any value. -/
  | anything
  /-- A value without parts that passes a test. -/
  | leaf (accepts : Document → Bool)
  /-- A value or null. -/
  | nullable (shape : Shape)
  /-- A record: its fields in their order, and whether each has to be there. -/
  | record (fields : List (String × Bool × Shape))
  /-- A record whose tag is one of some texts, kept as a whole before anything else is asked. -/
  | tagged (tag : String) (kinds : List String)

namespace Shape

/-- A string. -/
def text : Shape := leaf fun
  | .string _ => true
  | _ => false

/-- One of some strings. -/
def oneOf (texts : List String) : Shape := leaf fun
  | .string codes => (text? codes).any texts.contains
  | _ => false

/-- A truth value. -/
def flag : Shape := leaf fun
  | .bool _ => true
  | _ => false

/-- What is wrong with a value without parts. -/
def leafFault? (accepts : Document → Bool) (d : Document) : Option Fault :=
  let taken := match d with
    | .number l => l.value?.isSome
    | .string codes => (text? codes).isSome
    | _ => true
  if !taken then some .notJson else if accepts d then none else some .unfit

/-- The first of two faults. -/
def first (a : Option Fault) (b : Option Fault) : Option Fault := a.orElse fun _ => b

/-- The fault of a text that ends too early. -/
def unclosed? (closed : Bool) : Option Fault := if closed then none else some .notJson

/-- The fault of fields that are missing. -/
def missing? (fields : List (String × Bool × Shape)) (seen : List String) : Option Fault :=
  if fields.any fun (name, isRequired, _) => isRequired && !seen.contains name then some .unfit
  else none

/-- The shape of a value without parts, as far as there is one. -/
def test : Shape → Document → Bool
  | leaf accepts, d => accepts d
  | nullable shape, d => (match d with
    | .null => true
    | _ => false) || test shape d
  | anything, _ => true
  | skipped, _ => true
  | record _, _ => false
  | tagged .., _ => false

/-- The shape of what may also be null. -/
def core : Shape → Shape
  | nullable shape => core shape
  | shape => shape

/-- What a shape finds in a value without parts. -/
def scalarFault? (shape : Shape) (d : Document) : Option Fault :=
  match shape with
  | skipped => none
  | shape => leafFault? shape.test d

mutual

/-- The first fault of a text, with room for so many nested arrays and objects. -/
def fault? (shape : Shape) (room : Nat) : Draft → Option Fault
  | .broken => some .notJson
  | .null => scalarFault? shape .null
  | .bool b => scalarFault? shape (.bool b)
  | .number l => scalarFault? shape (.number l)
  | .string codes => scalarFault? shape (.string codes)
  | .array items closed =>
    match shape.core, room with
    | skipped, _ => unclosed? (closed && Draft.areComplete items)
    | leaf _, _ => some .unfit
    | _, 0 => some .notJson
    | record fields, room + 1 => first (positionFault? fields room items)
        (first (unclosed? closed) (missing? (fields.drop items.length) []))
    | tagged _ kinds, room + 1 => tagFirstFault? kinds room closed items
    | _, room + 1 => first (itemFault? room items) (unclosed? closed)
  | .object members closed =>
    match shape.core, room with
    | skipped, _ => unclosed? (closed && Draft.membersComplete members)
    | leaf _, _ => some .unfit
    | _, 0 => some .notJson
    | record fields, room + 1 => fieldFault? fields [] room closed members
    | tagged tag kinds, room + 1 => tagFault? tag kinds false room closed members
    | _, room + 1 => first (memberFault? room members) (unclosed? closed)

/-- The first fault of items that are taken as they are. -/
def itemFault? (room : Nat) : List Draft → Option Fault
  | [] => none
  | d :: ds => first (fault? anything room d) (itemFault? room ds)

/-- The first fault of members that are taken as they are. -/
def memberFault? (room : Nat) : List (List Nat × Draft) → Option Fault
  | [] => none
  | (key, d) :: ms =>
    if (text? key).isNone then some .notJson
    else first (fault? anything room d) (memberFault? room ms)

/-- The first fault of the fields of a record that stand in an array. -/
def positionFault? (fields : List (String × Bool × Shape)) (room : Nat) :
    List Draft → Option Fault
  | [] => none
  | d :: ds =>
    match fields with
    | [] => some .notJson
    | (_, _, shape) :: fields => first (fault? shape room d) (positionFault? fields room ds)

/-- The first fault of the fields of a record that stand in an object. -/
def fieldFault? (fields : List (String × Bool × Shape)) (seen : List String) (room : Nat)
    (closed : Bool) : List (List Nat × Draft) → Option Fault
  | [] => first (unclosed? closed) (missing? fields seen)
  | (key, d) :: ms =>
    match text? key with
    | none => some .notJson
    | some name =>
      match fields.lookup name with
      | none => first (fault? skipped room d) (fieldFault? fields seen room closed ms)
      | some (_, shape) =>
        if seen.contains name then some .unfit
        else first (fault? shape room d) (fieldFault? fields (name :: seen) room closed ms)

/-- The first fault of a record with a tag that stands in an object. -/
def tagFault? (tag : String) (kinds : List String) (seen : Bool) (room : Nat) (closed : Bool) :
    List (List Nat × Draft) → Option Fault
  | [] => first (unclosed? closed) (if seen then none else some .unfit)
  | (key, d) :: ms =>
    match text? key with
    | none => some .notJson
    | some name =>
      if name = tag then
        if seen then some .unfit
        else first (fault? (oneOf kinds) room d) (tagFault? tag kinds true room closed ms)
      else first (fault? anything room d) (tagFault? tag kinds seen room closed ms)

/-- The first fault of a record with a tag that stands in an array, the tag in front. -/
def tagFirstFault? (kinds : List String) (room : Nat) (closed : Bool) :
    List Draft → Option Fault
  | [] => first (unclosed? closed) (some .unfit)
  | d :: ds =>
    first (fault? (oneOf kinds) room d) (first (itemFault? room ds) (unclosed? closed))

end

end Shape

/-! ### Octets -/

/-- The characters of octets.  For a malformed part stands half of a surrogate pair, twice, so
that it is a fault exactly where a value is taken; after a backslash it is a fault everywhere. -/
def readableFrom (escaped : Bool) : List (Option Char) → List Char
  | [] => []
  | some c :: cs => c :: readableFrom (!escaped && c = '\\') cs
  | none :: cs =>
    (if escaped then ['\x00'] else "\\ud800\\ud800".toList) ++ readableFrom false cs

/-- The characters of octets, malformed parts among them. -/
def readable (bs : Bytes) : List Char := readableFrom false (Utf8.scan bs)

/-- What octets mean to a decoder, or the first fault that a reader of the shape meets. -/
def readBytes {α : Type} (decode : Decoder α) (shape : Shape) (bs : Bytes) : Except Fault α :=
  let cs := readable bs
  match parseDocument (2 * cs.length + 1) cs with
  | none => .error ((shape.fault? Document.maxDepth (.ofChars cs)).getD .notJson)
  | some (d, rest) =>
    match decode Document.maxDepth d with
    | none => .error ((shape.fault? Document.maxDepth (.ofChars cs)).getD .unfit)
    | some a => if skipSpace rest = [] then .ok a else .error .notJson

end Json

end ClusterGateway

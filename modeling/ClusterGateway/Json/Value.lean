import ClusterGateway.Json.Number

/-!
# JSON values

What a JSON text means.  The members of an object are in the order of their keys and no key
occurs twice (`Value.put`), so equal values have equal texts.  `Value.render` writes the compact
text of a value.
-/

namespace ClusterGateway

namespace Json

/-- A JSON value. -/
inductive Value where
  /-- The null value. -/
  | null
  /-- A truth value. -/
  | bool (b : Bool)
  /-- A number. -/
  | number (n : Number)
  /-- A string. -/
  | string (s : String)
  /-- An array. -/
  | array (items : List Value)
  /-- An object: members in the order of their keys. -/
  | object (members : List (String × Value))
  deriving Repr, BEq, Inhabited

namespace Value

/-- The value of an integer. -/
def int (n : Int) : Value := .number (.int n)

/-- Sets a member in a list of members ordered by key. -/
def putMember (key : String) (v : Value) : List (String × Value) → List (String × Value)
  | [] => [(key, v)]
  | (k, w) :: ms =>
    if key = k then (key, v) :: ms
    else if key < k then (key, v) :: (k, w) :: ms
    else (k, w) :: putMember key v ms

/-- The object of members in any order; of two with one key the later one stays. -/
def ofMembers (members : List (String × Value)) : Value :=
  .object (members.foldl (fun ms m => putMember m.1 m.2 ms) [])

/-- The member of an object with a key; none for any other value. -/
def get? (key : String) : Value → Option Value
  | .object members => members.lookup key
  | _ => none

/-- The string, if the value is one. -/
def asString? : Value → Option String
  | .string s => some s
  | _ => none

/-- The string of a member, or the empty text where there is none. -/
def stringMember (key : String) (v : Value) : String :=
  ((v.get? key).bind asString?).getD ""

/-! ### Text -/

/-- The two hexadecimal digits of a number below 256, in lower case. -/
def hexPair (n : Nat) : List Char :=
  [Nat.digitChar (n / 16), Nat.digitChar (n % 16)]

/-- One character of a string as it stands between the quotes. -/
def stringChar (c : Char) : List Char :=
  if c = '"' then ['\\', '"']
  else if c = '\\' then ['\\', '\\']
  else if c = '\x08' then ['\\', 'b']
  else if c = '\x0c' then ['\\', 'f']
  else if c = '\n' then ['\\', 'n']
  else if c = '\r' then ['\\', 'r']
  else if c = '\t' then ['\\', 't']
  else if c.toNat < 0x20 then ['\\', 'u', '0', '0'] ++ hexPair c.toNat
  else [c]

/-- The text of a string, between quotes. -/
def stringText (s : String) : List Char := '"' :: s.toList.flatMap stringChar ++ ['"']

mutual

/-- The compact text of a value. -/
def chars : Value → List Char
  | .null => "null".toList
  | .bool true => "true".toList
  | .bool false => "false".toList
  | .number n => n.render.toList
  | .string s => stringText s
  | .array items => '[' :: itemChars items ++ [']']
  | .object members => '\x7b' :: memberChars members ++ ['\x7d']

/-- The texts of the items of an array, with commas between them. -/
def itemChars : List Value → List Char
  | [] => []
  | [v] => v.chars
  | v :: w :: vs => v.chars ++ ',' :: itemChars (w :: vs)

/-- The texts of the members of an object, with commas between them. -/
def memberChars : List (String × Value) → List Char
  | [] => []
  | [(k, v)] => stringText k ++ ':' :: v.chars
  | (k, v) :: m :: ms => stringText k ++ ':' :: v.chars ++ ',' :: memberChars (m :: ms)

end

/-- The compact text of a value. -/
def render (v : Value) : String := String.ofList v.chars

end Value

end Json

end ClusterGateway

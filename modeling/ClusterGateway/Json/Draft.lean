import ClusterGateway.Json.Document

/-!
# Unfinished JSON texts

A reader that takes a text piece by piece can refuse it before it has seen all of it, so of two
faults the one that comes first is told.  A `Draft` is a text as far as it is JSON: what follows
the first place where it stops being JSON is missing, and arrays and objects around that place are
not closed.
-/

namespace ClusterGateway

namespace Json

/-- A JSON text as far as it goes. -/
inductive Draft where
  /-- The word `null`. -/
  | null
  /-- The words `true` and `false`. -/
  | bool (b : Bool)
  /-- A number. -/
  | number (l : NumberLiteral)
  /-- A string: its code points. -/
  | string (codes : List Nat)
  /-- An array, and whether it is closed. -/
  | array (items : List Draft) (closed : Bool)
  /-- An object, and whether it is closed. -/
  | object (members : List (List Nat × Draft)) (closed : Bool)
  /-- A place that is not JSON. -/
  | broken
  deriving Repr, Inhabited

namespace Draft

/-- A value without parts, and what follows it. -/
def leaf {α : Type} (make : α → Draft) :
    Option (α × List Char) → Draft × Option (List Char)
  | some (a, rest) => (make a, some rest)
  | none => (broken, none)

/-- A word, after its first letter. -/
def word (value : Draft) (letters : List Char) (rest : List Char) : Draft × Option (List Char) :=
  match expectWord letters rest with
  | some rest => (value, some rest)
  | none => (broken, none)

mutual

/-- One value at the start of the text as far as it goes, and what follows it if it is complete.
The first argument bounds the depth of the recursion. -/
def read : Nat → List Char → Draft × Option (List Char)
  | 0, _ => (broken, none)
  | fuel + 1, cs =>
    match skipSpace cs with
    | '"' :: rest => leaf string (parseString rest)
    | '[' :: rest =>
      match skipSpace rest with
      | ']' :: rest => (array [] true, some rest)
      | rest =>
        let (items, rest) := readItems fuel rest
        (array items rest.isSome, rest)
    | '\x7b' :: rest =>
      match skipSpace rest with
      | '\x7d' :: rest => (object [] true, some rest)
      | rest =>
        let (members, rest) := readMembers fuel rest
        (object members rest.isSome, rest)
    | 'n' :: rest => word null ['u', 'l', 'l'] rest
    | 't' :: rest => word (bool true) ['r', 'u', 'e'] rest
    | 'f' :: rest => word (bool false) ['a', 'l', 's', 'e'] rest
    | rest => leaf number (parseNumber rest)

/-- The items of an array, and what follows the closing bracket. -/
def readItems : Nat → List Char → List Draft × Option (List Char)
  | 0, _ => ([], none)
  | fuel + 1, cs =>
    match read fuel cs with
    | (item, none) => ([item], none)
    | (item, some rest) =>
      match skipSpace rest with
      | ',' :: rest =>
        let (items, rest) := readItems fuel rest
        (item :: items, rest)
      | ']' :: rest => ([item], some rest)
      | _ => ([item], none)

/-- The members of an object, and what follows the closing brace. -/
def readMembers : Nat → List Char → List (List Nat × Draft) × Option (List Char)
  | 0, _ => ([], none)
  | fuel + 1, cs =>
    match skipSpace cs with
    | '"' :: rest =>
      match parseString rest with
      | none => ([], none)
      | some (key, rest) =>
        match skipSpace rest with
        | ':' :: rest =>
          match read fuel rest with
          | (v, none) => ([(key, v)], none)
          | (v, some rest) =>
            match skipSpace rest with
            | ',' :: rest =>
              let (members, rest) := readMembers fuel rest
              ((key, v) :: members, rest)
            | '\x7d' :: rest => ([(key, v)], some rest)
            | _ => ([(key, v)], none)
        | _ => ([(key, broken)], none)
    | _ => ([], none)

end

/-- The text as far as its first value goes. -/
def ofChars (cs : List Char) : Draft := (read (2 * cs.length + 1) cs).1

mutual

/-- Whether the text went on to the end of the value. -/
def isComplete : Draft → Bool
  | array items closed => closed && areComplete items
  | object members closed => closed && membersComplete members
  | broken => false
  | _ => true

/-- Whether the items are complete. -/
def areComplete : List Draft → Bool
  | [] => true
  | d :: ds => d.isComplete && areComplete ds

/-- Whether the values of the members are complete. -/
def membersComplete : List (List Nat × Draft) → Bool
  | [] => true
  | (_, d) :: ms => d.isComplete && membersComplete ms

end

end Draft

end Json

end ClusterGateway

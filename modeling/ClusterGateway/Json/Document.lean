import ClusterGateway.Json.Value

/-!
# JSON texts

`Document.parse?` reads a JSON text (RFC 8259) into the tree that is written there: members in
their order, with repetitions, numbers as digits and strings as code points.  What the tree means
is decided later, because a reader that skips a part of a text asks less of it than one that
takes its value: a number out of range, half of a surrogate pair and deep nesting are errors only
where a value is taken (`Document.value?`).
-/

namespace ClusterGateway

namespace Json

/-- A JSON text as written. -/
inductive Document where
  /-- The word `null`. -/
  | null
  /-- The words `true` and `false`. -/
  | bool (b : Bool)
  /-- A number. -/
  | number (l : NumberLiteral)
  /-- A string: its code points, halves of surrogate pairs among them. -/
  | string (codes : List Nat)
  /-- An array. -/
  | array (items : List Document)
  /-- An object: all members, in their order. -/
  | object (members : List (List Nat × Document))
  deriving Repr, Inhabited

/-! ### Strings -/

/-- Whether a code point is the first half of a surrogate pair. -/
def isHighSurrogate (n : Nat) : Bool := 0xD800 ≤ n && n < 0xDC00

/-- Whether a code point is the second half of a surrogate pair. -/
def isLowSurrogate (n : Nat) : Bool := 0xDC00 ≤ n && n < 0xE000

/-- The characters that code points denote; none when half of a surrogate pair stands alone. -/
def textChars? : List Nat → Option (List Char)
  | [] => some []
  | n :: ns =>
    if isLowSurrogate n then none
    else if isHighSurrogate n then
      match ns with
      | m :: rest =>
        if isLowSurrogate m then
          (textChars? rest).map
            (Char.ofNat (0x10000 + (n - 0xD800) * 0x400 + (m - 0xDC00)) :: ·)
        else none
      | [] => none
    else (textChars? ns).map (Char.ofNat n :: ·)

/-- The text that code points denote. -/
def text? (codes : List Nat) : Option String := (textChars? codes).map String.ofList

/-- The value of a hexadecimal digit. -/
def hexDigit? (c : Char) : Option Nat :=
  if c.isDigit then some (c.toNat - 48)
  else if 'a' ≤ c ∧ c ≤ 'f' then some (c.toNat - 87)
  else if 'A' ≤ c ∧ c ≤ 'F' then some (c.toNat - 55)
  else none

/-- The number of four hexadecimal digits. -/
def hexFour? (a b c d : Char) : Option Nat := do
  let a ← hexDigit? a
  let b ← hexDigit? b
  let c ← hexDigit? c
  let d ← hexDigit? d
  return ((a * 16 + b) * 16 + c) * 16 + d

/-- The character that a single letter after a backslash stands for. -/
def shortEscape? : Char → Option Char
  | '"' => some '"'
  | '\\' => some '\\'
  | '/' => some '/'
  | 'b' => some '\x08'
  | 'f' => some '\x0c'
  | 'n' => some '\n'
  | 'r' => some '\r'
  | 't' => some '\t'
  | _ => none

/-- The rest of a string after its opening quote, and what follows the closing one. -/
def parseString : List Char → Option (List Nat × List Char)
  | [] => none
  | '"' :: rest => some ([], rest)
  | '\\' :: 'u' :: a :: b :: c :: d :: rest => do
    let n ← hexFour? a b c d
    let (ns, rest) ← parseString rest
    return (n :: ns, rest)
  | '\\' :: c :: rest => do
    let c ← shortEscape? c
    let (ns, rest) ← parseString rest
    return (c.toNat :: ns, rest)
  | c :: rest =>
    if c.toNat < 0x20 ∨ c = '\\' then none
    else (parseString rest).map fun (ns, rest) => (c.toNat :: ns, rest)

/-! ### Numbers -/

/-- The values of the decimal digits at the start, and what follows them. -/
def spanDigits : List Char → List Nat × List Char
  | [] => ([], [])
  | c :: cs =>
    if c.isDigit then
      let (ds, rest) := spanDigits cs
      ((c.toNat - 48) :: ds, rest)
    else ([], c :: cs)

/-- The number that decimal digits denote. -/
def ofDigits (ds : List Nat) : Nat := ds.foldl (fun n d => 10 * n + d) 0

/-- The digits after a point, if there is one. -/
def parseFraction : List Char → Option (List Nat × List Char)
  | '.' :: cs =>
    match spanDigits cs with
    | ([], _) => none
    | (ds, rest) => some (ds, rest)
  | cs => some ([], cs)

/-- The exponent, if there is one. -/
def parseExponent : List Char → Option (Option Int × List Char)
  | c :: cs =>
    if c = 'e' ∨ c = 'E' then
      let (negative, cs) := match cs with
        | '+' :: cs => (false, cs)
        | '-' :: cs => (true, cs)
        | cs => (false, cs)
      match spanDigits cs with
      | ([], _) => none
      | (ds, rest) =>
        some (some (if negative then -(ofDigits ds : Int) else ofDigits ds), rest)
    else some (none, c :: cs)
  | [] => some (none, [])

/-- A number after its sign. -/
def parseUnsigned (negative : Bool) (cs : List Char) : Option (NumberLiteral × List Char) :=
  match spanDigits cs with
  | ([], _) => none
  | (0 :: _ :: _, _) => none
  | (ds, rest) => do
    let (fraction, rest) ← parseFraction rest
    let (exponent, rest) ← parseExponent rest
    return (⟨negative, ds, fraction, exponent⟩, rest)

/-- A number. -/
def parseNumber : List Char → Option (NumberLiteral × List Char)
  | '-' :: cs => parseUnsigned true cs
  | cs => parseUnsigned false cs

/-! ### Documents -/

/-- Whether a character may stand between the parts of a text. -/
def isSpace (c : Char) : Bool := c = ' ' || c = '\n' || c = '\t' || c = '\r'

/-- The text without the blanks at its start. -/
def skipSpace (cs : List Char) : List Char := cs.dropWhile isSpace

/-- What follows a word that has to come next. -/
def expectWord (word : List Char) (cs : List Char) : Option (List Char) :=
  if word.isPrefixOf cs then some (cs.drop word.length) else none

mutual

/-- One value at the start of the text, and what follows it.  The first argument bounds the
depth of the recursion. -/
def parseDocument : Nat → List Char → Option (Document × List Char)
  | 0, _ => none
  | fuel + 1, cs =>
    match skipSpace cs with
    | '"' :: rest => (parseString rest).map fun (codes, rest) => (.string codes, rest)
    | '[' :: rest =>
      match skipSpace rest with
      | ']' :: rest => some (.array [], rest)
      | rest => (parseItems fuel rest).map fun (items, rest) => (.array items, rest)
    | '\x7b' :: rest =>
      match skipSpace rest with
      | '\x7d' :: rest => some (.object [], rest)
      | rest => (parseMembers fuel rest).map fun (members, rest) => (.object members, rest)
    | 'n' :: rest => (expectWord ['u', 'l', 'l'] rest).map fun rest => (.null, rest)
    | 't' :: rest => (expectWord ['r', 'u', 'e'] rest).map fun rest => (.bool true, rest)
    | 'f' :: rest => (expectWord ['a', 'l', 's', 'e'] rest).map fun rest => (.bool false, rest)
    | rest => (parseNumber rest).map fun (l, rest) => (.number l, rest)

/-- The items of an array up to the closing bracket. -/
def parseItems : Nat → List Char → Option (List Document × List Char)
  | 0, _ => none
  | fuel + 1, cs => do
    let (item, rest) ← parseDocument fuel cs
    match skipSpace rest with
    | ',' :: rest =>
      let (items, rest) ← parseItems fuel rest
      return (item :: items, rest)
    | ']' :: rest => return ([item], rest)
    | _ => none

/-- The members of an object up to the closing brace. -/
def parseMembers : Nat → List Char → Option (List (List Nat × Document) × List Char)
  | 0, _ => none
  | fuel + 1, cs =>
    match skipSpace cs with
    | '"' :: rest => do
      let (key, rest) ← parseString rest
      match skipSpace rest with
      | ':' :: rest =>
        let (v, rest) ← parseDocument fuel rest
        match skipSpace rest with
        | ',' :: rest =>
          let (members, rest) ← parseMembers fuel rest
          return ((key, v) :: members, rest)
        | '\x7d' :: rest => return ([(key, v)], rest)
        | _ => none
      | _ => none
    | _ => none

end

namespace Document

/-- The document that a whole text writes; none when the text is not JSON. -/
def parseChars? (cs : List Char) : Option Document :=
  match parseDocument (2 * cs.length + 1) cs with
  | some (d, rest) => if skipSpace rest = [] then some d else none
  | none => none

/-- The document that a whole text writes; none when the text is not JSON. -/
def parse? (s : String) : Option Document := parseChars? s.toList

/-- How deep arrays and objects may be nested where a value is taken. -/
def maxDepth : Nat := 127

mutual

/-- The value of a document in which at most `room` arrays and objects may be nested. -/
def value? (room : Nat) : Document → Option Value
  | .null => some .null
  | .bool b => some (.bool b)
  | .number l => l.value?.map .number
  | .string codes => (text? codes).map .string
  | .array items =>
    match room with
    | 0 => none
    | room + 1 => (itemValues? room items).map .array
  | .object members =>
    match room with
    | 0 => none
    | room + 1 => (memberValues? room members).map .ofMembers

/-- The values of the items of an array. -/
def itemValues? (room : Nat) : List Document → Option (List Value)
  | [] => some []
  | d :: ds => do
    let v ← d.value? room
    let vs ← itemValues? room ds
    return v :: vs

/-- The keys and values of the members of an object. -/
def memberValues? (room : Nat) : List (List Nat × Document) → Option (List (String × Value))
  | [] => some []
  | (codes, d) :: ms => do
    let key ← text? codes
    let v ← d.value? room
    let vs ← memberValues? room ms
    return (key, v) :: vs

end

end Document

namespace Value

/-- The value that a whole text writes. -/
def parse? (s : String) : Option Value := (Document.parse? s).bind (·.value? Document.maxDepth)

end Value

end Json

end ClusterGateway

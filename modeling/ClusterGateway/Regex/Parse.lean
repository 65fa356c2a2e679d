import ClusterGateway.Regex.Pattern
import ClusterGateway.Text.Blank
import ClusterGateway.Text.Property.Binary
import ClusterGateway.Text.Property.GeneralCategory

/-!
# Reading patterns

`Pattern.parse?` reads the text of a regular expression.  Look-around, references to groups and
octal escapes are not part of the language.
-/

namespace ClusterGateway

namespace Regex

namespace Reader

/-! ### Blanks and comments -/

/-- The text after blanks and comments. -/
def skipLayout : List Char → List Char
  | [] => []
  | c :: cs =>
    if Text.isBlank c then skipLayout cs
    else if c = '#' then skipComment cs
    else c :: cs
where
  /-- The text after the end of a comment. -/
  skipComment : List Char → List Char
    | [] => []
    | c :: cs => if c = '\n' then skipLayout cs else skipComment cs

/-- The text after blanks and comments, where these are skipped. -/
def skip (verbose : Bool) (cs : List Char) : List Char := if verbose then skipLayout cs else cs

/-! ### Numbers -/

/-- The decimal digits at the start of a text. -/
def decimalDigits (verbose : Bool) : List Char → List Char × List Char
  | [] => ([], [])
  | c :: cs =>
    if c.isDigit then
      let (ds, rest) := decimalDigits verbose cs
      (c :: ds, rest)
    else if verbose ∧ Text.isBlank c then decimalDigits verbose cs
    else ([], c :: cs)

/-- A number of 32 bits with blanks around it. -/
def decimal? (verbose : Bool) (cs : List Char) : Option (Nat × List Char) :=
  let (ds, rest) := decimalDigits verbose (cs.dropWhile Text.isBlank)
  let n := ds.foldl (fun n c => 10 * n + (c.toNat - 48)) 0
  if ds = [] ∨ Nat.pow 2 32 ≤ n then none
  else some (n, skip verbose (rest.dropWhile Text.isBlank))

/-- The bounds of a repetition after its opening brace. -/
def bounds? (verbose : Bool) (cs : List Char) :
    Option ((Nat × Option Nat) × List Char) := do
  let (low, rest) ← decimal? verbose (skip verbose cs)
  match rest with
  | '\x7d' :: rest => some ((low, some low), rest)
  | ',' :: rest =>
    match skip verbose rest with
    | '\x7d' :: rest => some ((low, none), rest)
    | rest => do
      let (high, rest) ← decimal? verbose rest
      match rest with
      | '\x7d' :: rest => if low ≤ high then some ((low, some high), rest) else none
      | _ => none
  | _ => none

/-! ### Escapes -/

/-- The value of a hexadecimal digit. -/
def hexDigit? (c : Char) : Option Nat :=
  if c.isDigit then some (c.toNat - 48)
  else if 'a' ≤ c ∧ c ≤ 'f' then some (c.toNat - 87)
  else if 'A' ≤ c ∧ c ≤ 'F' then some (c.toNat - 55)
  else none

/-- The character of a code point. -/
def charOfCode? (n : Nat) : Option Char := if n.isValidChar then some (Char.ofNat n) else none

/-- So many hexadecimal digits. -/
def hexDigits? (verbose : Bool) : Nat → Nat → List Char → Option (Nat × List Char)
  | 0, n, cs => some (n, cs)
  | count + 1, n, cs =>
    match skip verbose cs with
    | c :: cs => (hexDigit? c).bind fun d => hexDigits? verbose count (16 * n + d) cs
    | [] => none

/-- The text up to a closing brace, and what follows the brace. -/
def untilBrace? (verbose : Bool) : List Char → Option (List Char × List Char)
  | [] => none
  | c :: cs =>
    if c = '\x7d' then some ([], cs)
    else if verbose ∧ Text.isBlank c then untilBrace? verbose cs
    else (untilBrace? verbose cs).map fun (inside, rest) => (c :: inside, rest)

/-- A character given by hexadecimal digits: in braces, or so many. -/
def hexEscape? (verbose : Bool) (count : Nat) (cs : List Char) :
    Option (Pattern × List Char) :=
  match skip verbose cs with
  | '\x7b' :: cs => do
    let (digits, rest) ← untilBrace? verbose cs
    let digits ← digits.mapM hexDigit?
    let c ← charOfCode? (digits.foldl (fun n d => 16 * n + d) 0)
    if digits = [] then none else some (.literal c false, rest)
  | cs => do
    let (n, rest) ← hexDigits? verbose count 0 cs
    let c ← charOfCode? n
    return (.literal c (count = 2), rest)

/-- The name of a property in braces. -/
def propertyName (inside : List Char) : Bool × PropertyName :=
  match splitAt "!=".toList inside with
  | some (name, value) => (true, .valued (String.ofList name) (String.ofList value))
  | none =>
    match splitAt [':'] inside with
    | some (name, value) => (false, .valued (String.ofList name) (String.ofList value))
    | none =>
      match splitAt ['='] inside with
      | some (name, value) => (false, .valued (String.ofList name) (String.ofList value))
      | none => (false, .named (String.ofList inside))
where
  /-- What stands before and after the first occurrence of a separator. -/
  splitAt (separator : List Char) : List Char → Option (List Char × List Char)
    | [] => none
    | c :: cs =>
      if separator.isPrefixOf (c :: cs) then some ([], cs.drop (separator.length - 1))
      else (splitAt separator cs).map fun (before, after) => (c :: before, after)

/-- A character property after its letter. -/
def propertyEscape? (verbose negated : Bool) (cs : List Char) : Option (Pattern × List Char) :=
  match skip verbose cs with
  | [] => none
  | '\x7b' :: cs =>
    (untilBrace? verbose cs).map fun (inside, rest) =>
      let (differs, name) := propertyName inside
      (.property (negated != differs) name, rest)
  | '\\' :: _ => none
  | c :: cs => some (.property negated (.named (String.singleton c)), cs)

/-- The letters of a word boundary in braces. -/
def boundaryLetters (verbose : Bool) : List Char → List Char × List Char
  | [] => ([], [])
  | c :: cs =>
    if c.isAlpha ∨ c = '-' then
      let (letters, rest) := boundaryLetters verbose cs
      (c :: letters, rest)
    else if verbose ∧ Text.isBlank c then boundaryLetters verbose cs
    else ([], c :: cs)

/-- A word boundary, which may be of a special kind in braces. -/
def boundaryEscape? (verbose : Bool) (cs : List Char) : Option (Pattern × List Char) :=
  match cs with
  | '\x7b' :: inside =>
    match skip verbose inside with
    | [] => none
    | c :: inside =>
      if c.isAlpha ∨ c = '-' then
        match boundaryLetters verbose (c :: inside) with
        | (letters, '\x7d' :: rest) =>
          match String.ofList letters with
          | "start" => some (.anchor .wordStart, rest)
          | "end" => some (.anchor .wordEnd, rest)
          | "start-half" => some (.anchor .wordStartHalf, rest)
          | "end-half" => some (.anchor .wordEndHalf, rest)
          | _ => none
        | _ => none
      else some (.anchor .wordBoundary, cs)
  | cs => some (.anchor .wordBoundary, cs)

/-- The characters with a meaning of their own. -/
def isMeta (c : Char) : Bool := "\\.+*?()|[]\x7b\x7d^$#&-~".toList.contains c

/-- Whether a character stands for itself after a backslash. -/
def isEscapable (c : Char) : Bool :=
  isMeta c || (c.toNat < 0x80 && !c.isAlphanum && c != '<' && c != '>')

/-- An escape after its backslash. -/
def escape? (verbose : Bool) : List Char → Option (Pattern × List Char)
  | [] => none
  | c :: cs =>
    if isEscapable c then some (.literal c false, cs)
    else match c with
      | 'x' => hexEscape? verbose 2 cs
      | 'u' => hexEscape? verbose 4 cs
      | 'U' => hexEscape? verbose 8 cs
      | 'p' => propertyEscape? verbose false cs
      | 'P' => propertyEscape? verbose true cs
      | 'd' => some (.short false .digit, cs)
      | 'D' => some (.short true .digit, cs)
      | 's' => some (.short false .space, cs)
      | 'S' => some (.short true .space, cs)
      | 'w' => some (.short false .word, cs)
      | 'W' => some (.short true .word, cs)
      | 'a' => some (.literal '\x07' false, cs)
      | 'f' => some (.literal '\x0c' false, cs)
      | 't' => some (.literal '\t' false, cs)
      | 'n' => some (.literal '\n' false, cs)
      | 'r' => some (.literal '\r' false, cs)
      | 'v' => some (.literal '\x0b' false, cs)
      | 'A' => some (.anchor .textStart, cs)
      | 'z' => some (.anchor .textEnd, cs)
      | 'b' => boundaryEscape? verbose cs
      | 'B' => some (.anchor .notWordBoundary, cs)
      | '<' => some (.anchor .wordStart, cs)
      | '>' => some (.anchor .wordEnd, cs)
      | _ => none

/-! ### Brackets -/

/-- The names of the ASCII classes. -/
def asciiNames : List String :=
  ["alnum", "alpha", "ascii", "blank", "cntrl", "digit", "graph", "lower", "print", "punct",
    "space", "upper", "word", "xdigit"]

/-- An ASCII class after its opening bracket. -/
def asciiClass? : List Char → Option (SetPattern × List Char)
  | ':' :: cs =>
    let (negated, cs) := match cs with
      | '^' :: cs => (true, cs)
      | cs => (false, cs)
    match cs.dropWhile (· ≠ ':') with
    | ':' :: ']' :: rest =>
      let name := String.ofList (cs.takeWhile (· ≠ ':'))
      if asciiNames.contains name then some (.ascii negated name, rest) else none
    | _ => none
  | _ => none

/-- One item of a set: a character or a class. -/
def setItem? (verbose : Bool) : List Char → Option (Pattern × List Char)
  | [] => none
  | '\\' :: cs => escape? verbose cs
  | c :: cs => some (.literal c false, cs)

/-- The set that an item stands for. -/
def setOfItem? : Pattern → Option SetPattern
  | .literal c octet => some (.literal c octet)
  | .short negated cls => some (.short negated cls)
  | .property negated name => some (.property negated name)
  | _ => none

/-- Whether a character goes on with `-` as the start of a range. -/
def startsRange (verbose : Bool) : List Char → Bool
  | '-' :: cs =>
    match skip verbose cs with
    | ']' :: _ => false
    | '-' :: _ => false
    | _ => true
  | _ => false

/-- An item or a range of a set. -/
def setRange? (verbose : Bool) (cs : List Char) : Option (SetPattern × List Char) := do
  let (first, rest) ← setItem? verbose cs
  let rest := skip verbose rest
  if startsRange verbose rest then
    let (last, rest) ← setItem? verbose (skip verbose (rest.drop 1))
    match first, last with
    | .literal a x, .literal b y => if a ≤ b then some (.range a x b y, rest) else none
    | _, _ => none
  else
    let set ← setOfItem? first
    return (set, rest)

/-- The hyphens at the start of a set, which stand for themselves. -/
def leadingHyphens (verbose : Bool) : List Char → List SetPattern × List Char
  | [] => ([], [])
  | c :: cs =>
    if c = '-' then
      let (hyphens, rest) := leadingHyphens verbose cs
      (.literal '-' false :: hyphens, rest)
    else if verbose ∧ Text.isBlank c then leadingHyphens verbose cs
    else ([], c :: cs)

/-- The start of a set after its bracket: whether it is negated, and the characters that stand
for themselves there only. -/
def setOpening (verbose : Bool) (cs : List Char) : (Bool × List SetPattern) × List Char :=
  let (negated, cs) := match skip verbose cs with
    | '^' :: cs => (true, skip verbose cs)
    | cs => (false, cs)
  match leadingHyphens verbose cs with
  | ([], ']' :: rest) => ((negated, [.literal ']' false]), rest)
  | (hyphens, rest) => ((negated, hyphens), rest)

/-- The set that waits for its right side, combined with it. -/
def closeSet (waiting : Option (SetOperator × SetPattern)) (parts : List SetPattern) :
    SetPattern :=
  match waiting with
  | some (operator, left) => .combine operator left (.ofParts parts.reverse)
  | none => .ofParts parts.reverse

/-- The rest of a set up to its closing bracket: the parts so far are in reverse. -/
def setBody? (verbose : Bool) : Nat → Option (SetOperator × SetPattern) → List SetPattern →
    List Char → Option (SetPattern × List Char)
  | 0, _, _, _ => none
  | fuel + 1, waiting, parts, cs =>
    match skip verbose cs with
    | [] => none
    | ']' :: rest => some (closeSet waiting parts, rest)
    | '[' :: rest =>
      match asciiClass? rest with
      | some (cls, rest) => setBody? verbose fuel waiting (cls :: parts) rest
      | none => do
        let ((negated, start), rest) := setOpening verbose rest
        let (set, rest) ← setBody? verbose fuel none start.reverse rest
        setBody? verbose fuel waiting (.bracket negated set :: parts) rest
    | '&' :: '&' :: rest =>
      setBody? verbose fuel (some (.intersection, closeSet waiting parts)) [] rest
    | '-' :: '-' :: rest =>
      setBody? verbose fuel (some (.difference, closeSet waiting parts)) [] rest
    | '~' :: '~' :: rest =>
      setBody? verbose fuel (some (.symmetricDifference, closeSet waiting parts)) [] rest
    | rest => do
      let (set, rest) ← setRange? verbose rest
      setBody? verbose fuel waiting (set :: parts) rest

/-- A set after its opening bracket. -/
def bracket? (verbose : Bool) (cs : List Char) : Option (Pattern × List Char) := do
  let ((negated, start), rest) := setOpening verbose cs
  let (set, rest) ← setBody? verbose (rest.length + 1) none start.reverse rest
  return (.bracket negated set, rest)

/-! ### Groups -/

/-- The flag of a letter. -/
def flag? : Char → Option Flag
  | 'i' => some .ignoreCase
  | 'm' => some .multiLine
  | 's' => some .dotAll
  | 'U' => some .swapGreed
  | 'u' => some .unicode
  | 'R' => some .crlf
  | 'x' => some .verbose
  | _ => none

/-- Flags up to the colon or the closing parenthesis.  No flag may stand twice, and after a minus
sign there has to be one. -/
def flags? : List Char → Option (FlagChanges × List Char)
  | cs => go true false [] cs
where
  go (on pending : Bool) (changes : FlagChanges) : List Char → Option (FlagChanges × List Char)
    | [] => none
    | c :: cs =>
      if c = ':' ∨ c = ')' then if pending then none else some (changes.reverse, c :: cs)
      else if c = '-' then if on then go false true changes cs else none
      else do
        let f ← flag? c
        if changes.any fun change => change.1 = f then none
        else go on false ((f, on) :: changes) cs

/-- Whether a character may be in the name of a group, at its start or later. -/
def isNameChar (first : Bool) (c : Char) : Bool :=
  c = '_' || (Text.BinaryProperty.named "Alphabetic").contains c ||
    (!first && (c = '.' || c = '[' || c = ']' ||
      (Text.GeneralCategory.startingWith "N").contains c))

/-- The name of a group up to its closing bracket. -/
def groupName? (cs : List Char) : Option (String × List Char) :=
  match cs.takeWhile (· ≠ '>'), cs.dropWhile (· ≠ '>') with
  | c :: name, '>' :: rest =>
    if isNameChar true c ∧ name.all (isNameChar false) then some (String.ofList (c :: name), rest)
    else none
  | _, _ => none

/-- What the opening parenthesis of a group says. -/
inductive Opening where
  /-- Flags for the rest of the group around it. -/
  | flags (changes : FlagChanges)
  /-- A group that captures, perhaps under a name. -/
  | capture (name : Option String)
  /-- A group with flags that does not capture. -/
  | group (changes : FlagChanges)

/-- The opening of a group after its parenthesis. -/
def opening? (verbose : Bool) (cs : List Char) : Option (Opening × List Char) :=
  match skip verbose cs with
  | '?' :: '=' :: _ => none
  | '?' :: '!' :: _ => none
  | '?' :: '<' :: '=' :: _ => none
  | '?' :: '<' :: '!' :: _ => none
  | '?' :: 'P' :: '<' :: cs => (groupName? cs).map fun (name, rest) => (.capture name, rest)
  | '?' :: '<' :: cs => (groupName? cs).map fun (name, rest) => (.capture name, rest)
  | '?' :: cs => do
    let (changes, rest) ← flags? cs
    match rest with
    | ')' :: rest => if changes = [] then none else some (.flags changes, rest)
    | ':' :: rest => some (.group changes, rest)
    | _ => none
  | rest => some (.capture none, rest)

/-- Whether blanks are skipped after changes of flags. -/
def verboseAfter (verbose : Bool) (changes : FlagChanges) : Bool :=
  (changes.lookup .verbose).getD verbose

/-! ### Sequences and alternatives -/

/-- Where the reader stands. -/
structure Cursor where
  /-- Whether blanks and comments are skipped. -/
  verbose : Bool
  /-- The names of the groups so far. -/
  names : List String
  /-- The text to be read. -/
  rest : List Char

/-- A single item that is neither group nor set nor repetition. -/
def primitive? (verbose : Bool) : List Char → Option (Pattern × List Char)
  | [] => none
  | '\\' :: cs => escape? verbose cs
  | '.' :: cs => some (.dot, cs)
  | '^' :: cs => some (.anchor .lineStart, cs)
  | '$' :: cs => some (.anchor .lineEnd, cs)
  | c :: cs => some (.literal c false, cs)

/-- The last pattern so far, repeated; flags cannot be. -/
def repeatLast? (low : Nat) (high : Option Nat) : List Pattern → Option (List Pattern)
  | [] => none
  | .flags _ :: _ => none
  | .empty :: _ => none
  | p :: ps => some (.repetition low high p :: ps)

/-- The text after the mark of a repetition that prefers fewer turns. -/
def skipLazy : List Char → List Char
  | '?' :: cs => cs
  | cs => cs

mutual

/-- A sequence up to a bar, a closing parenthesis or the end; the patterns so far are in
reverse. -/
def sequence? : Nat → List Pattern → Cursor → Option (Pattern × Cursor)
  | 0, _, _ => none
  | fuel + 1, ps, at_ =>
    let verbose := at_.verbose
    let move (rest : List Char) : Cursor := ⟨verbose, at_.names, rest⟩
    match skip verbose at_.rest with
    | [] => some (.ofSequence ps.reverse, move [])
    | '|' :: rest => some (.ofSequence ps.reverse, move ('|' :: rest))
    | ')' :: rest => some (.ofSequence ps.reverse, move (')' :: rest))
    | '(' :: rest => do
      let (opening, rest) ← opening? verbose rest
      match opening with
      | .flags changes =>
        sequence? fuel (.flags changes :: ps) ⟨verboseAfter verbose changes, at_.names, rest⟩
      | .group changes =>
        let (inside, end_) ←
          alternatives? fuel [] ⟨verboseAfter verbose changes, at_.names, rest⟩
        match end_.rest with
        | ')' :: rest =>
          sequence? fuel (.group changes inside :: ps) ⟨verbose, end_.names, rest⟩
        | _ => none
      | .capture name =>
        if at_.names.any fun other => name = some other then none
        else
          let (inside, end_) ←
            alternatives? fuel [] ⟨verbose, name.toList ++ at_.names, rest⟩
          match end_.rest with
          | ')' :: rest => sequence? fuel (.capture inside :: ps) ⟨verbose, end_.names, rest⟩
          | _ => none
    | '[' :: rest => do
      let (set, rest) ← bracket? verbose rest
      sequence? fuel (set :: ps) (move rest)
    | '?' :: rest => do
      let ps ← repeatLast? 0 (some 1) ps
      sequence? fuel ps (move (skipLazy rest))
    | '*' :: rest => do
      let ps ← repeatLast? 0 none ps
      sequence? fuel ps (move (skipLazy rest))
    | '+' :: rest => do
      let ps ← repeatLast? 1 none ps
      sequence? fuel ps (move (skipLazy rest))
    | '\x7b' :: rest => do
      let ((low, high), rest) ← bounds? verbose rest
      let ps ← repeatLast? low high ps
      sequence? fuel ps (move (skipLazy (skip verbose rest)))
    | rest => do
      let (p, rest) ← primitive? verbose rest
      sequence? fuel (p :: ps) (move rest)

/-- Alternatives up to a closing parenthesis or the end; those so far are in reverse. -/
def alternatives? : Nat → List Pattern → Cursor → Option (Pattern × Cursor)
  | 0, _, _ => none
  | fuel + 1, ps, at_ => do
    let (p, at_) ← sequence? fuel [] at_
    match at_.rest with
    | '|' :: rest => alternatives? fuel (p :: ps) ⟨at_.verbose, at_.names, rest⟩
    | _ => some (.ofAlternatives (p :: ps).reverse, at_)

end

end Reader

/-- How deep the parts of a pattern may be nested. -/
def maxDepth : Nat := 250

/-- The pattern that a text writes. -/
def Pattern.parse? (s : String) : Option Pattern := do
  let cs := s.toList
  let (p, end_) ← Reader.alternatives? (2 * cs.length + 2) [] ⟨false, [], cs⟩
  if end_.rest = [] ∧ p.depth ≤ maxDepth then some p else none

end Regex

end ClusterGateway

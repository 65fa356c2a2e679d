import ClusterGateway.Regex.Property
import ClusterGateway.Text.CaseFold

/-!
# Resolved patterns

A `Node` is a pattern in which flags are resolved, so that its parts are sets of characters and
tests of positions.  `Pattern.resolve?` makes it, and refuses unknown properties and whatever
could match a part of a character.
-/

namespace ClusterGateway

namespace Regex

open Text

/-- A test of a position. -/
inductive Test where
  /-- The text starts here. -/
  | textStart
  /-- The text ends here. -/
  | textEnd
  /-- A line starts here; the flag says whether a carriage return ends a line too. -/
  | lineStart (crlf : Bool)
  /-- A line ends here. -/
  | lineEnd (crlf : Bool)
  /-- A test of the characters around; the flag says whether words are those of Unicode. -/
  | word (unicode : Bool) (test : Bool → Bool → Bool)

/-- A resolved pattern. -/
inductive Node where
  /-- Nothing. -/
  | empty
  /-- One character of a set. -/
  | chars (set : CharSet)
  /-- A test of a position. -/
  | test (t : Test)
  /-- One after the other. -/
  | both (first second : Node)
  /-- One of two. -/
  | either (first second : Node)
  /-- A repetition, at least and at most so often. -/
  | repetition (low : Nat) (high : Option Nat) (n : Node)
  /-- A group that captures. -/
  | capture (n : Node)

/-- The flags at some point of a pattern. -/
structure Flags where
  /-- Letters match in either case. -/
  ignoreCase : Bool
  /-- Line anchors match at every line. -/
  multiLine : Bool
  /-- The dot matches line ends too. -/
  dotAll : Bool
  /-- Classes are those of Unicode. -/
  unicode : Bool
  /-- A carriage return belongs to the line end. -/
  crlf : Bool
  deriving Repr, DecidableEq

namespace Flags

/-- The flags at the start of a pattern. -/
def initial : Flags := ⟨false, false, false, true, false⟩

/-- Switches a flag. -/
def set (f : Flags) : Flag × Bool → Flags
  | (.ignoreCase, on) => { f with ignoreCase := on }
  | (.multiLine, on) => { f with multiLine := on }
  | (.dotAll, on) => { f with dotAll := on }
  | (.unicode, on) => { f with unicode := on }
  | (.crlf, on) => { f with crlf := on }
  | (.swapGreed, _) => f
  | (.verbose, _) => f

/-- Switches several flags. -/
def change (f : Flags) (changes : FlagChanges) : Flags := changes.foldl set f

end Flags

/-! ### Sets -/

/-- The octets. -/
def octets : CharSet := .range '\x00' '\xff'

/-- The set with the other case of its ASCII letters. -/
def asciiFoldClosure (s : CharSet) : CharSet :=
  let shift (low high : Char) (up : Bool) : List (Nat × Nat) :=
    (s.inter (.range low high)).ranges.toList.map fun (a, b) =>
      if up then (a + 32, b + 32) else (a - 32, b - 32)
  s.union (.ofRanges (shift 'A' 'Z' true ++ shift 'a' 'z' false))

/-- The set with both cases, where case does not count. -/
def foldFor (f : Flags) (s : CharSet) : CharSet :=
  if !f.ignoreCase then s
  else if f.unicode then s.foldClosure
  else asciiFoldClosure s

/-- A set or its complement.  Without Unicode the complement holds octets, and a set with octets
beyond ASCII is refused. -/
def negateFor? (f : Flags) (negated : Bool) (s : CharSet) : Option CharSet :=
  if f.unicode then some (if negated then s.complement else s)
  else
    let s := if negated then octets.diff s else s
    if s.ranges.all fun r => r.2 < 0x80 then some s else none

/-- Whether a character may be written under the flags: octets beyond ASCII are no characters
without Unicode. -/
def isWritable (f : Flags) (c : Char) (octet : Bool) : Bool :=
  f.unicode || !octet || c.toNat < 0x80

/-- Whether a character may be a member of a set under the flags. -/
def isMember (f : Flags) (c : Char) : Bool := f.unicode || c.toNat < 0x80

/-- The set of a class with a letter of its own. -/
def shortSet? (f : Flags) (negated : Bool) (cls : ShortClass) : Option CharSet :=
  negateFor? f negated (if f.unicode then cls.chars else cls.asciiChars)

/-- The set of a character property. -/
def propertySet? (f : Flags) (negated : Bool) (name : PropertyName) : Option CharSet :=
  if f.unicode then name.chars?.bind fun s => negateFor? f negated (foldFor f s) else none

/-- Two sets combined. -/
def SetOperator.apply : SetOperator → CharSet → CharSet → CharSet
  | intersection, s, t => s.inter t
  | difference, s, t => s.diff t
  | symmetricDifference, s, t => s.symmDiff t

mutual

/-- The characters between brackets, before case is considered for the whole. -/
def SetPattern.resolve? (f : Flags) : SetPattern → Option CharSet
  | .empty => some .empty
  | .literal c octet => if isWritable f c octet ∧ isMember f c then some (.single c) else none
  | .range low lowOctet high highOctet =>
    if isWritable f low lowOctet ∧ isMember f low ∧ isWritable f high highOctet ∧
        isMember f high then
      some (.range low high)
    else none
  | .ascii negated name => negateFor? f negated (foldFor f (asciiClassChars name))
  | .short negated cls => shortSet? f negated cls
  | .property negated name => propertySet? f negated name
  | .bracket negated set => do
    let s ← set.resolve? f
    negateFor? f negated (foldFor f s)
  | .union parts => (SetPattern.resolveAll? f parts).map .unionAll
  | .combine operator left right => do
    let s ← left.resolve? f
    let t ← right.resolve? f
    return operator.apply (foldFor f s) (foldFor f t)

/-- The characters of several sets. -/
def SetPattern.resolveAll? (f : Flags) : List SetPattern → Option (List CharSet)
  | [] => some []
  | p :: ps => do
    let s ← p.resolve? f
    let ss ← SetPattern.resolveAll? f ps
    return s :: ss

end

/-! ### Patterns -/

/-- The test of an anchor under the flags. -/
def Anchor.test (f : Flags) : Anchor → Test
  | lineStart => if f.multiLine then .lineStart f.crlf else .textStart
  | lineEnd => if f.multiLine then .lineEnd f.crlf else .textEnd
  | textStart => .textStart
  | textEnd => .textEnd
  | wordBoundary => .word f.unicode fun before after => before != after
  | notWordBoundary => .word f.unicode fun before after => before == after
  | wordStart => .word f.unicode fun before after => !before && after
  | wordEnd => .word f.unicode fun before after => before && !after
  | wordStartHalf => .word f.unicode fun before _ => !before
  | wordEndHalf => .word f.unicode fun _ after => !after

/-- The characters of the dot under the flags. -/
def dotSet? (f : Flags) : Option CharSet :=
  if !f.unicode then none
  else if f.dotAll then some .full
  else if f.crlf then some (CharSet.ofText "\r\n").complement
  else some (CharSet.single '\n').complement

/-- The characters that a literal matches under the flags. -/
def literalSet? (f : Flags) (c : Char) (octet : Bool) : Option CharSet :=
  if !isWritable f c octet then none
  else if f.unicode ∨ c.toNat < 0x80 then some (foldFor f (.single c))
  else some (.single c)

mutual

/-- The node of a pattern and the flags after it. -/
def Pattern.resolveWith? (f : Flags) : Pattern → Option (Node × Flags)
  | .empty => some (.empty, f)
  | .flags changes => some (.empty, f.change changes)
  | .literal c octet => (literalSet? f c octet).map fun s => (.chars s, f)
  | .dot => (dotSet? f).map fun s => (.chars s, f)
  | .anchor a => some (.test (a.test f), f)
  | .short negated cls => (shortSet? f negated cls).map fun s => (.chars s, f)
  | .property negated name => (propertySet? f negated name).map fun s => (.chars s, f)
  | .bracket negated set => do
    let s ← set.resolve? f
    let s ← negateFor? f negated (foldFor f s)
    return (.chars s, f)
  | .repetition low high p => do
    let (n, f) ← p.resolveWith? f
    return (.repetition low high n, f)
  | .capture p => do
    let (n, _) ← p.resolveWith? f
    return (.capture n, f)
  | .group changes p => do
    let (n, _) ← p.resolveWith? (f.change changes)
    return (n, f)
  | .alternation ps => Pattern.resolveAlternatives? f ps
  | .sequence ps => Pattern.resolveSequence? f ps

/-- The node of several patterns one after the other, and the flags after them. -/
def Pattern.resolveSequence? (f : Flags) : List Pattern → Option (Node × Flags)
  | [] => some (.empty, f)
  | [p] => p.resolveWith? f
  | p :: q :: ps => do
    let (n, f) ← p.resolveWith? f
    let (m, f) ← Pattern.resolveSequence? f (q :: ps)
    return (.both n m, f)

/-- The node of one of several patterns, and the flags after them. -/
def Pattern.resolveAlternatives? (f : Flags) : List Pattern → Option (Node × Flags)
  | [] => some (.empty, f)
  | [p] => p.resolveWith? f
  | p :: q :: ps => do
    let (n, f) ← p.resolveWith? f
    let (m, f) ← Pattern.resolveAlternatives? f (q :: ps)
    return (.either n m, f)

end

/-- The node of a whole pattern. -/
def Pattern.resolve? (p : Pattern) : Option Node :=
  (p.resolveWith? .initial).map Prod.fst

end Regex

end ClusterGateway

import ClusterGateway.Text.CharSet

/-!
# Patterns of regular expressions

A pattern as it is written, before flags and character sets are resolved.  `Pattern.depth` says
how deep its parts are nested.
-/

namespace ClusterGateway

namespace Regex

/-- What a flag letter switches. -/
inductive Flag where
  /-- Letters match in either case. -/
  | ignoreCase
  /-- Line anchors match at every line. -/
  | multiLine
  /-- The dot matches line ends too. -/
  | dotAll
  /-- Repetitions prefer fewer turns. -/
  | swapGreed
  /-- Classes are those of Unicode. -/
  | unicode
  /-- A carriage return belongs to the line end. -/
  | crlf
  /-- Blanks and comments in the pattern are skipped. -/
  | verbose
  deriving Repr, DecidableEq

/-- Flags to switch on or off, in order. -/
abbrev FlagChanges := List (Flag × Bool)

/-- What an anchor asks of the characters around a position. -/
inductive Anchor where
  /-- The text or line starts here. -/
  | lineStart
  /-- The text or line ends here. -/
  | lineEnd
  /-- The text starts here. -/
  | textStart
  /-- The text ends here. -/
  | textEnd
  /-- A word starts or ends here. -/
  | wordBoundary
  /-- No word starts or ends here. -/
  | notWordBoundary
  /-- A word starts here. -/
  | wordStart
  /-- A word ends here. -/
  | wordEnd
  /-- No word character stands before. -/
  | wordStartHalf
  /-- No word character follows. -/
  | wordEndHalf
  deriving Repr, DecidableEq

/-- A class with a letter of its own. -/
inductive ShortClass where
  /-- Decimal digits. -/
  | digit
  /-- White space. -/
  | space
  /-- Word characters. -/
  | word
  deriving Repr, DecidableEq

/-- How a character property is named. -/
inductive PropertyName where
  /-- A single name. -/
  | named (name : String)
  /-- A property and its value. -/
  | valued (property value : String)
  deriving Repr, DecidableEq

/-- How two sets in brackets are combined. -/
inductive SetOperator where
  /-- The members of both. -/
  | intersection
  /-- The members of the first only. -/
  | difference
  /-- The members of exactly one. -/
  | symmetricDifference
  deriving Repr, DecidableEq

/-- What stands between brackets. -/
inductive SetPattern where
  /-- Nothing. -/
  | empty
  /-- A character; the flag says that it is written as an octet. -/
  | literal (c : Char) (octet : Bool)
  /-- The characters from the first to the second, with the same flags. -/
  | range (low : Char) (lowOctet : Bool) (high : Char) (highOctet : Bool)
  /-- An ASCII class by its name. -/
  | ascii (negated : Bool) (name : String)
  /-- A class with a letter of its own. -/
  | short (negated : Bool) (cls : ShortClass)
  /-- A character property. -/
  | property (negated : Bool) (name : PropertyName)
  /-- Brackets within brackets. -/
  | bracket (negated : Bool) (set : SetPattern)
  /-- The members of any of the parts. -/
  | union (parts : List SetPattern)
  /-- Two sets combined. -/
  | combine (operator : SetOperator) (left right : SetPattern)
  deriving Repr

/-- A pattern as written. -/
inductive Pattern where
  /-- Nothing. -/
  | empty
  /-- Flags for what follows in the same group. -/
  | flags (changes : FlagChanges)
  /-- A character; the flag says that it is written as an octet. -/
  | literal (c : Char) (octet : Bool)
  /-- Any character. -/
  | dot
  /-- A test of a position. -/
  | anchor (a : Anchor)
  /-- A class with a letter of its own. -/
  | short (negated : Bool) (cls : ShortClass)
  /-- A character property. -/
  | property (negated : Bool) (name : PropertyName)
  /-- A set in brackets. -/
  | bracket (negated : Bool) (set : SetPattern)
  /-- A repetition, at least and at most so often. -/
  | repetition (low : Nat) (high : Option Nat) (p : Pattern)
  /-- A group that captures. -/
  | capture (p : Pattern)
  /-- A group that does not capture, with flags for its inside. -/
  | group (changes : FlagChanges) (p : Pattern)
  /-- One of several patterns. -/
  | alternation (ps : List Pattern)
  /-- Patterns one after the other. -/
  | sequence (ps : List Pattern)
  deriving Repr

mutual

/-- How deep the parts of a set are nested. -/
def SetPattern.depth : SetPattern → Nat
  | .bracket _ set => set.depth + 1
  | .union parts => SetPattern.depthOfAll parts + 1
  | .combine _ left right => max left.depth right.depth + 1
  | _ => 0

/-- The greatest depth of several sets. -/
def SetPattern.depthOfAll : List SetPattern → Nat
  | [] => 0
  | s :: ss => max s.depth (SetPattern.depthOfAll ss)

end

mutual

/-- How deep the parts of a pattern are nested. -/
def Pattern.depth : Pattern → Nat
  | .bracket _ set => set.depth + 1
  | .repetition _ _ p => p.depth + 1
  | .capture p => p.depth + 1
  | .group _ p => p.depth + 1
  | .alternation ps => Pattern.depthOfAll ps + 1
  | .sequence ps => Pattern.depthOfAll ps + 1
  | _ => 0

/-- The greatest depth of several patterns. -/
def Pattern.depthOfAll : List Pattern → Nat
  | [] => 0
  | p :: ps => max p.depth (Pattern.depthOfAll ps)

end

/-- The set of several parts. -/
def SetPattern.ofParts : List SetPattern → SetPattern
  | [] => .empty
  | [s] => s
  | ss => .union ss

/-- The pattern of several patterns one after the other. -/
def Pattern.ofSequence : List Pattern → Pattern
  | [] => .empty
  | [p] => p
  | ps => .sequence ps

/-- The pattern of one of several patterns. -/
def Pattern.ofAlternatives : List Pattern → Pattern
  | [] => .empty
  | [p] => p
  | ps => .alternation ps

end Regex

end ClusterGateway

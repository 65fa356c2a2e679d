import ClusterGateway.Regex.Parse
import ClusterGateway.Regex.Size

/-!
# Matching

`Regex.compile?` makes a regular expression from its text, and `Regex.isMatch` says whether it
matches some part of a subject.  A pattern is a function on sets of positions: from the positions
where a match may start to those where it may end.  A set of positions is a number, one bit for
each position.
-/

namespace ClusterGateway

/-- A regular expression. -/
structure Regex where
  /-- The resolved pattern. -/
  node : Regex.Node

namespace Regex

open Text

/-! ### The subject -/

/-- The positions where a property of the characters holds. -/
def positions {α : Type} (p : α → Bool) (items : List α) : Nat :=
  items.foldr (fun item bits => 2 * bits + (p item).toNat) 0

/-- What stands before and after every position. -/
def neighbours (before : Option Char) : List Char → List (Option Char × Option Char)
  | [] => [(before, none)]
  | c :: cs => (before, some c) :: neighbours (some c) cs

/-- The word characters of Unicode. -/
def wordChars : CharSet := ShortClass.word.chars

/-- The word characters of ASCII. -/
def asciiWordChars : CharSet := ShortClass.word.asciiChars

/-- Whether a test holds between two characters. -/
def Test.holds : Test → Option Char × Option Char → Bool
  | textStart, (before, _) => before.isNone
  | textEnd, (_, after) => after.isNone
  | lineStart false, (before, _) => before.isNone || before == some '\n'
  | lineStart true, (before, after) =>
    before.isNone || before == some '\n' || (before == some '\r' && after != some '\n')
  | lineEnd false, (_, after) => after.isNone || after == some '\n'
  | lineEnd true, (before, after) =>
    after.isNone || after == some '\r' || (after == some '\n' && before != some '\r')
  | word unicode test, (before, after) =>
    let words := if unicode then wordChars else asciiWordChars
    test (before.any words.contains) (after.any words.contains)

/-! ### Plans -/

/-- A pattern made ready for one subject. -/
inductive Plan where
  /-- Stays where it is. -/
  | stay
  /-- Goes one character on from these positions. -/
  | advance (places : Nat)
  /-- Stays at these positions. -/
  | pause (places : Nat)
  /-- One after the other. -/
  | both (first second : Plan)
  /-- One of two. -/
  | either (first second : Plan)
  /-- A repetition, at least and at most so often. -/
  | repetition (low : Nat) (high : Nat) (p : Plan)

/-- The plan of a node for a subject.  More turns than the subject has positions bring nothing
new, so every repetition gets a bound. -/
def Node.plan (cs : List Char) : Node → Plan
  | .empty => .stay
  | .chars set => .advance (positions set.contains cs)
  | .test t => .pause (positions t.holds (neighbours none cs))
  | .both n m => .both (n.plan cs) (m.plan cs)
  | .either n m => .either (n.plan cs) (m.plan cs)
  | .repetition low high n => .repetition low (high.getD (low + cs.length + 1)) (n.plan cs)
  | .capture n => n.plan cs

/-- Takes so many turns; a turn that changes nothing is the last. -/
def turns (f : Nat → Nat) : Nat → Nat → Nat
  | 0, places => places
  | count + 1, places =>
    let next := f places
    if next = places then places else turns f count next

/-- Takes up to so many turns and keeps what every one of them reaches. -/
def turnsUpTo (f : Nat → Nat) : Nat → Nat → Nat
  | 0, places => places
  | count + 1, places =>
    let next := places ||| f places
    if next = places then places else turnsUpTo f count next

/-- The positions where a match may end that starts at one of the given positions. -/
def Plan.run : Plan → Nat → Nat
  | .stay, places => places
  | .advance at_, places => (places &&& at_) <<< 1
  | .pause at_, places => places &&& at_
  | .both p q, places => q.run (p.run places)
  | .either p q, places => p.run places ||| q.run places
  | .repetition low high p, places => turnsUpTo p.run (high - low) (turns p.run low places)

/-- Whether some part of a subject matches. -/
def isMatchChars (r : Regex) (cs : List Char) : Bool :=
  (r.node.plan cs).run (Nat.pow 2 (cs.length + 1) - 1) != 0

/-- Whether some part of a subject matches. -/
def isMatch (r : Regex) (s : String) : Bool := r.isMatchChars s.toList

/-- The regular expression that a text writes; none when the text is no pattern, or one of too
great a size. -/
def compile? (s : String) : Option Regex := do
  let pattern ← Pattern.parse? s
  let node ← pattern.resolve?
  if node.isSmall then some ⟨node⟩ else none

end Regex

end ClusterGateway

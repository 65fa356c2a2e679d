import ClusterGateway.Regex.Node

/-!
# The size of a pattern

A pattern may not grow without bound when its repetitions are written out.  `Node.size` estimates
the size of the automaton that writes them all out, in octets, and `Node.isSmall` is its limit.

It is an estimate: the automaton itself, which shares what the octets of characters have in common,
is not built.  For a pattern whose size is near the limit the answer may therefore be another one.
-/

namespace ClusterGateway

namespace Regex

open Text

/-- The octets of one state. -/
def stateSize : Nat := 32

/-- The octets of one way out of a state. -/
def edgeSize : Nat := 8

/-- The octets that a character takes in UTF-8. -/
def charLength (n : Nat) : Nat :=
  if n < 0x80 then 1 else if n < 0x800 then 2 else if n < 0x10000 then 3 else 4

/-- The size of a set of characters.  Sets beyond ASCII need states for the octets of their
characters. -/
def setSize (s : CharSet) : Nat :=
  match s.ranges.toList with
  | [] => stateSize
  | [(low, high)] =>
    if low = high then charLength low * stateSize
    else if high < 0x80 then 2 * stateSize
    else 4 * charLength high * (stateSize + edgeSize)
  | ranges =>
    if ranges.all fun r => r.2 < 0x80 then 2 * stateSize + edgeSize * ranges.length
    else 2 * stateSize * ranges.length + 8 * stateSize

/-- The size of a pattern with all repetitions written out, as far as it is known without building
the automaton. -/
def Node.size : Node → Nat
  | .empty => stateSize
  | .chars s => setSize s
  | .test _ => stateSize
  | .both n m => n.size + m.size
  | .either n m => n.size + m.size + stateSize + edgeSize
  | .repetition low high n =>
    let branch := stateSize + edgeSize
    match high with
    | some high =>
      if high = 0 then stateSize
      else low * n.size + (high - low) * (n.size + branch) + if low < high then stateSize else 0
    | none => max low 1 * n.size + branch
  | .capture n => n.size + 2 * stateSize

/-- The largest size of a pattern. -/
def maxSize : Nat := 10 * Nat.pow 2 20

/-- Whether the size of a pattern is within the limit. -/
def Node.isSmall (n : Node) : Bool := n.size ≤ maxSize

end Regex

end ClusterGateway

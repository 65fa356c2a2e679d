/-!
# Sets of characters

A `CharSet` holds code points as ranges in ascending order that neither overlap nor touch, so
that membership is a binary search and the complement reads the gaps.  `CharSet.ofRanges` brings
any list of ranges into this form.
-/

namespace ClusterGateway

namespace Text

/-- A set of characters: ranges of code points, ends included, ascending and apart. -/
structure CharSet where
  /-- The ranges, first and last code point each. -/
  ranges : Array (Nat × Nat)
  deriving Repr, DecidableEq, Inhabited

namespace CharSet

/-- The largest code point. -/
def lastCode : Nat := 0x10FFFF

/-- No character. -/
def empty : CharSet := ⟨#[]⟩

/-- Every character. -/
def full : CharSet := ⟨#[(0, lastCode)]⟩

/-- Joins ascending ranges that overlap or touch. -/
def joinRanges : List (Nat × Nat) → List (Nat × Nat)
  | [] => []
  | r :: rs => go r rs
where
  go (r : Nat × Nat) : List (Nat × Nat) → List (Nat × Nat)
    | [] => [r]
    | s :: rs => if s.1 ≤ r.2 + 1 then go (r.1, max r.2 s.2) rs else r :: go s rs

/-- The set of the code points in any of the ranges; a range whose ends are in the wrong order
holds nothing. -/
def ofRanges (ranges : List (Nat × Nat)) : CharSet :=
  ⟨(joinRanges ((ranges.filter fun r => r.1 ≤ r.2).mergeSort fun r s => r.1 ≤ s.1)).toArray⟩

/-- The characters from `first` to `last`. -/
def range (first last : Char) : CharSet := ofRanges [(first.toNat, last.toNat)]

/-- A single character. -/
def single (c : Char) : CharSet := ⟨#[(c.toNat, c.toNat)]⟩

/-- The characters of a text. -/
def ofText (s : String) : CharSet := ofRanges (s.toList.map fun c => (c.toNat, c.toNat))

/-- Whether a code point is in one of the ranges from index `low` to before index `high`. -/
def search (ranges : Array (Nat × Nat)) (n low high : Nat) : Bool :=
  if low < high then
    let mid := (low + high) / 2
    match ranges[mid]? with
    | some (first, last) =>
      if n < first then search ranges n low mid
      else if last < n then search ranges n (mid + 1) high
      else true
    | none => false
  else false
termination_by high - low

/-- Whether a code point is in the set. -/
def containsCode (s : CharSet) (n : Nat) : Bool := search s.ranges n 0 s.ranges.size

/-- Whether a character is in the set. -/
def contains (s : CharSet) (c : Char) : Bool := s.containsCode c.toNat

/-- Whether the set has no member. -/
def isEmpty (s : CharSet) : Bool := s.ranges.isEmpty

/-- The characters in either set. -/
def union (s t : CharSet) : CharSet := ofRanges (s.ranges.toList ++ t.ranges.toList)

/-- The characters in one of the sets. -/
def unionAll (sets : List CharSet) : CharSet :=
  ofRanges (sets.flatMap fun s => s.ranges.toList)

/-- The gaps between ascending ranges, from code point `start` on. -/
def gaps (start : Nat) : List (Nat × Nat) → List (Nat × Nat)
  | [] => if start ≤ lastCode then [(start, lastCode)] else []
  | r :: rs => if start < r.1 then (start, r.1 - 1) :: gaps (r.2 + 1) rs else gaps (r.2 + 1) rs

/-- The characters not in the set. -/
def complement (s : CharSet) : CharSet := ⟨(gaps 0 s.ranges.toList).toArray⟩

/-- The characters in both sets. -/
def inter (s t : CharSet) : CharSet := (s.complement.union t.complement).complement

/-- The characters in the first set and not in the second. -/
def diff (s t : CharSet) : CharSet := s.inter t.complement

/-- The characters in exactly one of the sets. -/
def symmDiff (s t : CharSet) : CharSet := (s.diff t).union (t.diff s)

/-! ### Reading runs -/

/-- The value of an upper-case hexadecimal digit. -/
def hexValue (c : Char) : Nat := if c.isDigit then c.toNat - 48 else c.toNat - 55

/-- The hexadecimal numbers in a text, divided by blanks. -/
def hexNumbers (cs : List Char) : List Nat :=
  (cs.splitOn ' ').map fun digits => digits.foldl (fun n c => 16 * n + hexValue c) 0

/-- The ranges of runs of code points that are by turns outside and inside the set, the first
starting at `start`. -/
def rangesOfRuns (start : Nat) : List Nat → List (Nat × Nat)
  | outside :: inside :: rest =>
    (start + outside, start + outside + inside - 1) ::
      rangesOfRuns (start + outside + inside) rest
  | _ => []

/-- The set given by the lengths of its runs, in hexadecimal: so many code points outside, so
many inside, and so on from code point zero.  The lengths may be spread over several texts. -/
def ofRuns (lines : List String) : CharSet :=
  ⟨(rangesOfRuns 0 (lines.flatMap fun s => hexNumbers s.toList)).toArray⟩

end CharSet

end Text

end ClusterGateway

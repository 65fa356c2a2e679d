import ClusterGateway.Number.Shortest

/-!
# Numbers in JSON

A number is kept as it was written (`NumberLiteral`) until its value is asked for.  A number
without fraction and exponent that fits 64 bits is that integer; any other number is a double.
The double is computed from a significand of 64 bits: digits that no longer fit count as zeros
(`NumberLiteral.significand`).
-/

namespace ClusterGateway

namespace Json

/-- The value of a number. -/
inductive Number where
  /-- An integer of 64 bits, with or without sign. -/
  | int (n : Int)
  /-- Any other number. -/
  | double (d : Double)
  deriving Repr, DecidableEq, Inhabited

/-- A number as written. -/
structure NumberLiteral where
  /-- Whether a minus sign stands in front. -/
  negative : Bool
  /-- The digits before the point. -/
  integer : List Nat
  /-- The digits after the point; none when there is no point. -/
  fraction : List Nat
  /-- The exponent, if one is written. -/
  exponent : Option Int
  deriving Repr, DecidableEq, Inhabited

namespace NumberLiteral

/-- The largest natural number of 64 bits. -/
def maxSignificand : Nat := Nat.pow 2 64 - 1

/-- Appends digits to a significand as long as it fits, and counts the digits that are left. -/
def absorb (significand : Nat) : List Nat → Nat × Nat
  | [] => (significand, 0)
  | d :: ds =>
    if significand * 10 + d ≤ maxSignificand then absorb (significand * 10 + d) ds
    else (significand, ds.length + 1)

/-- The significand and the power of ten of a number. -/
def significand (l : NumberLiteral) : Nat × Int :=
  let (whole, skipped) := absorb 0 l.integer
  let (all, ignored) := absorb whole l.fraction
  (all, l.exponent.getD 0 + skipped - (l.fraction.length - ignored : Nat))

/-- The integer that the digits before the point denote, if the number has neither fraction nor
exponent and it fits 64 bits.  A zero with a sign is no integer. -/
def int? (l : NumberLiteral) : Option Int :=
  let (n, skipped) := absorb 0 l.integer
  if skipped ≠ 0 ∨ l.fraction ≠ [] ∨ l.exponent.isSome then none
  else if !l.negative then some n
  else if n = 0 ∨ Nat.pow 2 63 < n then none
  else some (-(n : Int))

/-- The value of a number; none when it is too large for a double. -/
def value? (l : NumberLiteral) : Option Number :=
  match l.int? with
  | some n => some (.int n)
  | none =>
    let (n, e) := l.significand
    (Double.ofDecimal? l.negative n e).map .double

/-- The literal of an integer. -/
def ofInt (n : Int) : NumberLiteral :=
  ⟨n < 0, (Nat.toDigits 10 n.natAbs).map fun c => c.toNat - 48, [], none⟩

end NumberLiteral

namespace Number

/-- The text of a double: positional from `1e-5` up to below `1e16`, with at least one digit
after the point, and with an exponent otherwise. -/
def doubleText (d : Double) : String :=
  let sign := if d.negative then "-" else ""
  if d.isZero then sign ++ "0.0"
  else
    let decimal := d.shortest
    let digits := Nat.toDigits 10 decimal.digits
    -- how many digits stand before the point
    let point : Int := digits.length + decimal.exponent
    if 0 ≤ decimal.exponent ∧ point ≤ 16 then
      sign ++ String.ofList (digits ++ List.replicate decimal.exponent.toNat '0') ++ ".0"
    else if 0 < point ∧ point ≤ 16 then
      sign ++ String.ofList (digits.take point.toNat ++ '.' :: digits.drop point.toNat)
    else if -5 < point ∧ point ≤ 0 then
      sign ++ "0." ++ String.ofList (List.replicate (-point).toNat '0' ++ digits)
    else
      let e := point - 1
      let mantissa := match digits with
        | [] => []
        | [c] => [c]
        | c :: cs => c :: '.' :: cs
      sign ++ String.ofList mantissa ++ "e" ++ (if e < 0 then "-" else "+") ++ toString e.natAbs

/-- The text of a number. -/
def render : Number → String
  | int n => toString n
  | double d => doubleText d

/-- The number as a double, rounded if it is an integer without one. -/
def toDouble : Number → Double
  | int n => .ofInt n
  | double d => d

/-- Whether two numbers are equal in value, integers exactly and anything else as doubles. -/
def sameValue : Number → Number → Bool
  | int m, int n => m == n
  | x, y => x.toDouble.sameValue y.toDouble

/-- Whether a number is less than another, integers exactly and anything else as doubles. -/
def lessThan : Number → Number → Bool
  | int m, int n => m < n
  | x, y => x.toDouble.lessThan y.toDouble

end Number

end Json

end ClusterGateway

import ClusterGateway.Number.Double

/-!
# The shortest digits of a double

`Double.shortest` finds the fewest decimal digits that read back as the same double, and of those
the ones nearest to it, a tie to the even last digit.  A decimal reads back as the double when it
lies between the midpoints to the two neighbours, the midpoints included when the mantissa is
even.  For one digit, two digits and so on, only the two decimals next to the value have to be
tried.
-/

namespace ClusterGateway

/-- A decimal: `digits * 10 ^ exponent`. -/
structure Decimal where
  /-- The digits as one number. -/
  digits : Nat
  /-- The exponent of ten. -/
  exponent : Int
  deriving Repr, DecidableEq, Inhabited

namespace Decimal

/-- The same value without zeros at the end of the digits; at most `count` of them. -/
def stripZeros : Nat → Decimal → Decimal
  | 0, d => d
  | count + 1, d =>
    if d.digits ≠ 0 ∧ d.digits % 10 = 0 then
      stripZeros count ⟨d.digits / 10, d.exponent + 1⟩
    else d

end Decimal

namespace Double

/-- The midpoints to the neighbours and the number itself, in units of a quarter of the last
place: below, value, above. -/
def neighbourhood (d : Double) : Nat × Nat × Nat :=
  let value := 4 * d.mantissa
  let below := if d.mantissa = Nat.pow 2 52 ∧ minExponent < d.exponent then 1 else 2
  (value - below, value, value + 2)

/-- The number of decimal digits of a natural number. -/
def digitCount (n : Nat) : Nat := (Nat.toDigits 10 n).length

/-- The exponent `p` of ten with `10 ^ p ≤ num / den < 10 ^ (p + 1)`. -/
def decimalExponent (num den : Nat) : Int :=
  if den ≤ num then (digitCount (num / den) : Int) - 1
  else
    let k := digitCount (den / num)
    if den ≤ num * Nat.pow 10 (k - 1) then 1 - (k : Int) else -(k : Int)

/-- The decimal with the last digit at `10 ^ unit` that is nearest to the value, if it reads back:
`below`, `value` and `above` are the neighbourhood, each to be multiplied by `2 ^ binary`. -/
def nearestOnGrid? (below value above : Nat) (binary unit : Int) (closed : Bool) :
    Option Decimal :=
  -- a decimal `g` is compared with `x` as `g * gridScale` with `x * valueScale`
  let gridScale := (if 0 ≤ unit then Nat.pow 10 unit.toNat else 1) *
    (if 0 ≤ binary then 1 else Nat.pow 2 (-binary).toNat)
  let valueScale := (if 0 ≤ unit then 1 else Nat.pow 10 (-unit).toNat) *
    (if 0 ≤ binary then Nat.pow 2 binary.toNat else 1)
  let readsBack (g : Nat) : Bool :=
    if closed then below * valueScale ≤ g * gridScale && g * gridScale ≤ above * valueScale
    else below * valueScale < g * gridScale && g * gridScale < above * valueScale
  let low := value * valueScale / gridScale
  let rest := value * valueScale % gridScale
  let lowFirst := 2 * rest < gridScale || (2 * rest == gridScale && low % 2 == 0)
  let order := if lowFirst then [low, low + 1] else [low + 1, low]
  (order.find? readsBack).map fun g => ⟨g, unit⟩

/-- The shortest decimal that reads back as the size of a number that is not zero. -/
def shortest (d : Double) : Decimal :=
  let (below, value, above) := d.neighbourhood
  let (n, q) := d.quotient
  let p := decimalExponent n q
  let closed := d.mantissa % 2 == 0
  let found := (List.range 17).findSome? fun (count : Nat) =>
    nearestOnGrid? below value above (d.exponent - 2) (p - count) closed
  (found.getD ⟨0, 0⟩).stripZeros 20

end Double

end ClusterGateway

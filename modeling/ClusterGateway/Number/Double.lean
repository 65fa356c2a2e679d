/-!
# Doubles

The finite binary floating-point numbers of 64 bits, as exact values: a sign, a mantissa below
`2 ^ 53` and the exponent of a power of two.  Every operation computes the exact result as a
quotient of natural numbers and rounds it once, to the nearest double, a tie to the even mantissa
(`Double.ofQuotient?`).  A result too large for a double is no result.
-/

namespace ClusterGateway

/-- A finite double: `mantissa * 2 ^ exponent`, with a sign that zero has too. -/
structure Double where
  /-- Whether the sign is minus. -/
  negative : Bool
  /-- The mantissa, below `2 ^ 53`. -/
  mantissa : Nat
  /-- The exponent of two, from `-1074` to `971`. -/
  exponent : Int
  deriving Repr, DecidableEq, Inhabited

namespace Double

/-- The least exponent of two. -/
def minExponent : Int := -1074

/-- The greatest exponent of two. -/
def maxExponent : Int := 971

/-- Zero with a sign. -/
def zero (negative : Bool) : Double := ⟨negative, 0, minExponent⟩

/-- Whether the number is zero, of either sign. -/
def isZero (d : Double) : Bool := d.mantissa == 0

/-- The number with the other sign. -/
def neg (d : Double) : Double := { d with negative := !d.negative }

/-- `num / den` divided by `2 ^ e`, as a numerator and a denominator. -/
def scale (num den : Nat) (e : Int) : Nat × Nat :=
  if 0 ≤ e then (num, den * Nat.pow 2 e.toNat) else (num * Nat.pow 2 (-e).toNat, den)

/-- The natural number nearest to `num / den`, a tie to the even one. -/
def roundHalfEven (num den : Nat) : Nat :=
  let q := num / den
  let r := num % den
  if 2 * r < den then q else if den < 2 * r then q + 1 else q + q % 2

/-- The exponent of two at which the mantissa of `num / den` has 53 bits, or the least exponent
where it would have to be smaller. -/
def exponentFor (num den : Nat) : Int :=
  let low := max minExponent ((num.log2 : Int) - den.log2 - 53)
  let (n, d) := scale num den low
  if Nat.pow 2 53 ≤ n / d then low + 1 else low

/-- The double nearest to `num / den`, a tie to the even mantissa; none where that is too large. -/
def ofQuotient? (negative : Bool) (num den : Nat) : Option Double :=
  if num = 0 then some (zero negative)
  else
    let e := exponentFor num den
    let (n, d) := scale num den e
    let m := roundHalfEven n d
    let (m, e) := if m = Nat.pow 2 53 then (Nat.pow 2 52, e + 1) else (m, e)
    if maxExponent < e then none else some ⟨negative, m, e⟩

/-- The size of the number as a quotient. -/
def quotient (d : Double) : Nat × Nat :=
  if 0 ≤ d.exponent then (d.mantissa * Nat.pow 2 d.exponent.toNat, 1)
  else (d.mantissa, Nat.pow 2 (-d.exponent).toNat)

/-- The double nearest to an integer; every integer of 64 bits has one. -/
def ofInt (i : Int) : Double := (ofQuotient? (i < 0) i.natAbs 1).getD (zero (i < 0))

/-- The double nearest to the power of ten. -/
def powerOfTen? (k : Nat) : Option Double := ofQuotient? false (Nat.pow 10 k) 1

/-- The product, rounded once. -/
def mul? (x y : Double) : Option Double :=
  let (n, d) := x.quotient
  let (n', d') := y.quotient
  ofQuotient? (x.negative != y.negative) (n * n') (d * d')

/-- The quotient, rounded once; the divisor is not zero. -/
def div? (x y : Double) : Option Double :=
  let (n, d) := x.quotient
  let (n', d') := y.quotient
  ofQuotient? (x.negative != y.negative) (n * d') (d * n')

/-- `x` times ten to the power `e`, in one multiplication by the double nearest to that power or
one division by the double nearest to its inverse. -/
def scaleOnce? (x : Double) (e : Int) : Option Double :=
  (powerOfTen? e.natAbs).bind fun p => if 0 ≤ e then x.mul? p else x.div? p

/-- `x` times ten to the power `e`, for a number `x` below `2 ^ 64`.  Powers of ten that are no
double are reached by a division by `1e308` before; two such divisions leave nothing of `x`. -/
def scaleByTen? (x : Double) (e : Int) : Option Double :=
  if x.isZero then some x
  else if 308 < e then none
  else if -308 ≤ e then x.scaleOnce? e
  else if -616 ≤ e then (x.scaleOnce? (-308)).bind (scaleOnce? · (e + 308))
  else some (zero x.negative)

/-- The double for a decimal, read as a significand and a power of ten. -/
def ofDecimal? (negative : Bool) (significand : Nat) (e : Int) : Option Double :=
  ((ofQuotient? false significand 1).bind (scaleByTen? · e)).map fun d =>
    if negative then d.neg else d

/-- The double nearest to a decimal, rounded once.  Decimals with more than four hundred digits
before the point are too large, those with more than four hundred zeros after it are zero. -/
def nearest? (negative : Bool) (digits : Nat) (e : Int) : Option Double :=
  let size : Int := (Nat.toDigits 10 digits).length + e
  if digits = 0 ∨ size < -400 then some (zero negative)
  else if 400 < size then none
  else if 0 ≤ e then ofQuotient? negative (digits * Nat.pow 10 e.toNat) 1
  else ofQuotient? negative digits (Nat.pow 10 (-e).toNat)

/-! ### Order -/

/-- The numerator with its sign, over the common denominator of both numbers. -/
def compareKeys (x y : Double) : Int × Int :=
  let (n, d) := x.quotient
  let (n', d') := y.quotient
  let signed (negative : Bool) (n : Nat) : Int := if negative then -(n : Int) else n
  (signed x.negative (n * d'), signed y.negative (n' * d))

/-- Whether the values are equal; zero equals zero of the other sign. -/
def sameValue (x y : Double) : Bool :=
  let (a, b) := compareKeys x y
  a == b

/-- Whether the value is less. -/
def lessThan (x y : Double) : Bool :=
  let (a, b) := compareKeys x y
  a < b

end Double

end ClusterGateway

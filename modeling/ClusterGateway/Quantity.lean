import ClusterGateway.Text.Blank
import ClusterGateway.Text.Split

/-!
# Resource quantities

Amounts of processor time and memory as Kubernetes writes them, such as `250m`, `128Mi` and
`1.5e3`.  `Quantity.parse?` reads an amount as an exact fraction; every number on the way has to
fit 127 bits.  `Quantity.value?` and `Quantity.milliValue?` round it up to whole units and to
thousandths, and `Quantity.cpu?` and `Quantity.memory?` write these for the columns of a table.
-/

namespace ClusterGateway

/-- An amount as an exact fraction. -/
structure Quantity where
  /-- The numerator. -/
  numer : Int
  /-- The denominator. -/
  denom : Nat
  deriving Repr, DecidableEq

namespace Quantity

/-- The largest number that the computation may reach. -/
def limit : Nat := Nat.pow 2 127 - 1

/-- A number that does not exceed the limit. -/
def within? (n : Nat) : Option Nat := if n ≤ limit then some n else none

/-- A power of ten that does not exceed the limit. -/
def powerOfTen? (e : Nat) : Option Nat := if e ≤ 38 then some (Nat.pow 10 e) else none

/-- Whether a character belongs to the number in front of the suffix. -/
def isNumeral (c : Char) : Bool := c.isDigit || c == '.'

/-- The number that decimal digits write. -/
def digitsValue (ds : List Char) : Nat := ds.foldl (fun n c => 10 * n + (c.toNat - 48)) 0

/-- A decimal exponent of 32 bits, with or without sign. -/
def exponent? (cs : List Char) : Option Int :=
  let (negative, ds) := match cs with
    | '-' :: ds => (true, ds)
    | '+' :: ds => (false, ds)
    | ds => (false, ds)
  if ds ≠ [] ∧ ds.all Char.isDigit then
    let e : Int := if negative then -(digitsValue ds : Int) else digitsValue ds
    if -Int.pow 2 31 ≤ e ∧ e < Int.pow 2 31 then some e else none
  else none

/-- The factors that a suffix puts on the numerator and on the denominator. -/
def suffixFactors? (suffix : List Char) : Option (Nat × Nat) :=
  match suffix with
  | [] => some (1, 1)
  | ['K', 'i'] => some (Nat.pow 2 10, 1)
  | ['M', 'i'] => some (Nat.pow 2 20, 1)
  | ['G', 'i'] => some (Nat.pow 2 30, 1)
  | ['T', 'i'] => some (Nat.pow 2 40, 1)
  | ['P', 'i'] => some (Nat.pow 2 50, 1)
  | ['E', 'i'] => some (Nat.pow 2 60, 1)
  | ['n'] => some (1, Nat.pow 10 9)
  | ['u'] => some (1, Nat.pow 10 6)
  | ['m'] => some (1, Nat.pow 10 3)
  | ['k'] => some (Nat.pow 10 3, 1)
  | ['M'] => some (Nat.pow 10 6, 1)
  | ['G'] => some (Nat.pow 10 9, 1)
  | ['T'] => some (Nat.pow 10 12, 1)
  | ['P'] => some (Nat.pow 10 15, 1)
  | ['E'] => some (Nat.pow 10 18, 1)
  | c :: rest =>
    if c = 'e' ∨ c = 'E' then do
      let e ← exponent? rest
      let scale ← powerOfTen? e.natAbs
      return if 0 ≤ e then (scale, 1) else (1, scale)
    else none

/-- The digits before and after the only point of a number. -/
def splitPoint? (number : List Char) : Option (List Char × List Char) :=
  let (whole, fraction) := (Text.cutChars? '.' number).getD (number, [])
  if '.' ∈ fraction ∨ (whole = [] ∧ fraction = []) then none else some (whole, fraction)

/-- The amount without its sign: numerator and denominator. -/
def parseUnsigned? (cs : List Char) : Option (Nat × Nat) := do
  let (whole, fraction) ← splitPoint? (cs.takeWhile isNumeral)
  let numer ← within? (digitsValue (whole ++ fraction))
  let denom ← powerOfTen? fraction.length
  let (up, down) ← suffixFactors? (cs.dropWhile isNumeral)
  let numer ← within? (numer * up)
  let denom ← within? (denom * down)
  return (numer, denom)

/-- The amount that a text denotes, blanks around it aside. -/
def parse? (s : String) : Option Quantity :=
  match Text.trimChars s.toList with
  | [] => none
  | '-' :: cs => (parseUnsigned? cs).map fun (n, d) => ⟨-(n : Int), d⟩
  | '+' :: cs => (parseUnsigned? cs).map fun (n, d) => ⟨n, d⟩
  | cs => (parseUnsigned? cs).map fun (n, d) => ⟨n, d⟩

/-- The least integer that is not below `n / d`. -/
def ceilDiv (n : Int) (d : Nat) : Int := -(-n / d)

/-- The amount in whole units, rounded up. -/
def value? (s : String) : Option Int := (parse? s).map fun q => ceilDiv q.numer q.denom

/-- The amount in thousandths, rounded up. -/
def milliValue? (s : String) : Option Int := do
  let q ← parse? s
  let _ ← within? (q.numer.natAbs * 1000)
  return ceilDiv (q.numer * 1000) q.denom

/-- Processor time in thousandths of a processor. -/
def cpu? (s : String) : Option String := (milliValue? s).map fun m => toString m ++ "m"

/-- Memory in whole mebibytes, towards zero. -/
def memory? (s : String) : Option String :=
  (value? s).map fun v => toString (v.tdiv (Int.pow 2 20)) ++ "Mi"

end Quantity

end ClusterGateway

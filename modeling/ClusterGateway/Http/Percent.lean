import ClusterGateway.Text.Utf8

/-!
# Escaping in addresses

Two ways to write a text inside an address.  `Percent.encode` keeps the unreserved characters and
writes every other octet as a percent sign and two digits.  `Percent.encodeForm` is the variant of
forms, in which a blank is a plus sign.  `Percent.decode` undoes escapes and leaves a percent sign
without two digits as it is.
-/

namespace ClusterGateway

namespace Http

namespace Percent

/-- Whether an octet is a letter or a digit. -/
def isAlphanumeric (b : UInt8) : Bool := (Char.ofNat b.toNat).isAlphanum

/-- Whether an octet never needs an escape. -/
def isUnreserved (b : UInt8) : Bool :=
  isAlphanumeric b || "-_.~".toList.contains (Char.ofNat b.toNat)

/-- The octets that stay as they are in a form. -/
def isFormOctet (b : UInt8) : Bool :=
  isAlphanumeric b || "*-._".toList.contains (Char.ofNat b.toNat)

/-- A hexadecimal digit in upper case. -/
def upperDigit (n : Nat) : Char := (Nat.digitChar n).toUpper

/-- The escape of an octet. -/
def escape (b : UInt8) : List Char := ['%', upperDigit (b.toNat / 16), upperDigit (b.toNat % 16)]

/-- The characters for one octet. -/
def encodeOctet (b : UInt8) : List Char :=
  if isUnreserved b then [Char.ofNat b.toNat] else escape b

/-- A text with escapes for all that is not unreserved. -/
def encode (s : String) : String := String.ofList ((Utf8.encode s).flatMap encodeOctet)

/-- The characters for one octet in a form. -/
def encodeFormOctet (b : UInt8) : List Char :=
  if b.toNat = 0x20 then ['+']
  else if isFormOctet b then [Char.ofNat b.toNat]
  else escape b

/-- A text as a form writes it. -/
def encodeForm (s : String) : String := String.ofList ((Utf8.encode s).flatMap encodeFormOctet)

/-- The value of an octet that is a hexadecimal digit. -/
def digit? (b : UInt8) : Option Nat :=
  let n := b.toNat
  if 0x30 ≤ n ∧ n ≤ 0x39 then some (n - 0x30)
  else if 0x41 ≤ n ∧ n ≤ 0x46 then some (n - 0x37)
  else if 0x61 ≤ n ∧ n ≤ 0x66 then some (n - 0x57)
  else none

/-- The octet of an escape, after its percent sign. -/
def unescape? (a b : UInt8) : Option UInt8 := do
  let high ← digit? a
  let low ← digit? b
  return UInt8.ofNat (high * 16 + low)

/-- The octets that octets with escapes stand for. -/
def decode : Bytes → Bytes
  | [] => []
  | p :: a :: b :: rest =>
    if p.toNat = 0x25 then
      match unescape? a b with
      | some octet => octet :: decode rest
      | none => p :: decode (a :: b :: rest)
    else p :: decode (a :: b :: rest)
  | p :: rest => p :: decode rest

end Percent

end Http

end ClusterGateway

/-!
# Socket addresses

An address of the internet protocol, version 4 or 6, with a port.  `SocketAddress.parse?` reads
the usual text form; names of hosts are not addresses.  `SocketAddress.render` writes an address
of version 6 with its longest run of zeros left out.
-/

namespace ClusterGateway

namespace Net

/-- An address with a port. -/
inductive SocketAddress where
  /-- Version 4: four octets. -/
  | v4 (octets : List Nat) (port : Nat)
  /-- Version 6: eight groups of 16 bits, and the scope. -/
  | v6 (groups : List Nat) (scope : Nat) (port : Nat)
  deriving Repr, DecidableEq, Inhabited

namespace SocketAddress

/-! ### Reading -/

/-- The value of a digit in any base up to sixteen. -/
def digit? (base : Nat) (c : Char) : Option Nat :=
  let value :=
    if c.isDigit then some (c.toNat - 48)
    else if 'a' ≤ c ∧ c ≤ 'f' then some (c.toNat - 87)
    else if 'A' ≤ c ∧ c ≤ 'F' then some (c.toNat - 55)
    else none
  value.filter fun d => d < base

/-- The digits at the start of a text, and what follows them. -/
def spanDigits (base : Nat) : List Char → List Nat × List Char
  | [] => ([], [])
  | c :: cs =>
    match digit? base c with
    | some d =>
      let (ds, rest) := spanDigits base cs
      (d :: ds, rest)
    | none => ([], c :: cs)

/-- A number below a limit, of a restricted count of digits if one is given. -/
def number? (base limit : Nat) (maxDigits : Option Nat) (cs : List Char) :
    Option (Nat × List Char) :=
  let (ds, rest) := spanDigits base cs
  let n := ds.foldl (fun n d => base * n + d) 0
  if ds = [] ∨ limit ≤ n ∨ maxDigits.any (· < ds.length) then none else some (n, rest)

/-- An octet in decimal, without leading zeros. -/
def octet? (cs : List Char) : Option (Nat × List Char) :=
  match cs with
  | '0' :: c :: _ => if c.isDigit then none else number? 10 256 (some 3) cs
  | cs => number? 10 256 (some 3) cs

/-- So many octets, each after a point but for the first. -/
def octets? : Nat → Bool → List Char → Option (List Nat × List Char)
  | 0, _, cs => some ([], cs)
  | count + 1, first, cs => do
    let cs ← if first then some cs else match cs with
      | '.' :: cs => some cs
      | _ => none
    let (n, rest) ← octet? cs
    let (ns, rest) ← octets? count false rest
    return (n :: ns, rest)

/-- Groups of an address of version 6 up to a count, and whether they end with an address of
version 4 in place of the last two. -/
def groups : Nat → Bool → List Char → List Nat × Bool × List Char
  | 0, _, cs => ([], false, cs)
  | count + 1, first, cs =>
    let after : Option (List Char) := if first then some cs else match cs with
      | ':' :: cs => some cs
      | _ => none
    match after with
    | none => ([], false, cs)
    | some after =>
      match (if 0 < count then octets? 4 true after else none) with
      | some ([a, b, c, d], rest) => ([256 * a + b, 256 * c + d], true, rest)
      | _ =>
        match number? 16 65536 (some 4) after with
        | some (n, rest) =>
          let (ns, mixed, rest) := groups count false rest
          (n :: ns, mixed, rest)
        | none => ([], false, cs)

/-- The eight groups of an address of version 6.  Two colons stand for as many zeros as are
missing, at least one. -/
def address6? (cs : List Char) : Option (List Nat × List Char) :=
  let (head, mixed, rest) := groups 8 true cs
  if head.length = 8 then some (head, rest)
  else if mixed then none
  else match rest with
    | ':' :: ':' :: rest =>
      let (tail, _, rest) := groups (8 - (head.length + 1)) true rest
      some (head ++ List.replicate (8 - head.length - tail.length) 0 ++ tail, rest)
    | _ => none

/-- A port after its colon, at the end of the text. -/
def port? : List Char → Option Nat
  | ':' :: cs =>
    match number? 10 65536 none cs with
    | some (n, []) => some n
    | _ => none
  | _ => none

/-- The address that a whole text writes. -/
def parse? (s : String) : Option SocketAddress :=
  match s.toList with
  | '[' :: cs => do
    let (address, rest) ← address6? cs
    let (scope, rest) ← match rest with
      | '%' :: rest => number? 10 (Nat.pow 2 32) none rest
      | rest => some (0, rest)
    match rest with
    | ']' :: rest => (port? rest).map (v6 address scope)
    | _ => none
  | cs => do
    let (address, rest) ← octets? 4 true cs
    (port? rest).map (v4 address)

/-! ### Writing -/

/-- Four octets between points. -/
def octetText (octets : List Nat) : String := ".".intercalate (octets.map toString)

/-- The groups in hexadecimal between colons. -/
def groupText (groups : List Nat) : String :=
  ":".intercalate (groups.map fun n => String.ofList (Nat.toDigits 16 n))

/-- How many zeros stand at the start. -/
def leadingZeros (groups : List Nat) : Nat := (groups.takeWhile (· = 0)).length

/-- The place and the length of the first longest run of zeros, from a place on. -/
def longestZeros (place : Nat) : List Nat → Nat × Nat
  | [] => (place, 0)
  | n :: ns =>
    let here := leadingZeros (n :: ns)
    let (place', length) := longestZeros (place + 1) ns
    if length ≤ here then (place, here) else (place', length)

/-- An address of version 6.  One that stands for an address of version 4 shows it. -/
def text6 (groups : List Nat) : String :=
  match groups with
  | [0, 0, 0, 0, 0, 0xffff, a, b] =>
    "::ffff:" ++ octetText [a / 256, a % 256, b / 256, b % 256]
  | _ =>
    let (place, length) := longestZeros 0 groups
    if 1 < length then
      groupText (groups.take place) ++ "::" ++ groupText (groups.drop (place + length))
    else groupText groups

/-- The text of an address with its port. -/
def render : SocketAddress → String
  | v4 octets port => octetText octets ++ ":" ++ toString port
  | v6 groups scope port =>
    let zone := if scope = 0 then "" else "%" ++ toString scope
    "[" ++ text6 groups ++ zone ++ "]:" ++ toString port

end SocketAddress

end Net

end ClusterGateway

import ClusterGateway.Text.Split
import ClusterGateway.Text.Utf8

/-!
# Addresses of requests

A `Uri` is the address that a request is sent to.  `Uri.parse?` reads it from octets: a path with
an optional query, a bare authority, or a scheme, an authority and a path.  A fragment is cut off.
-/

namespace ClusterGateway

namespace Http

/-- The address of a request. -/
structure Uri where
  /-- The scheme. -/
  scheme : Option String
  /-- The authority: a host, perhaps with user and port. -/
  authority : Option String
  /-- The path; empty in an address without one. -/
  path : String
  /-- The query, without its question mark. -/
  query : Option String
  deriving Repr, DecidableEq, Inhabited

namespace Uri

/-- The greatest length of an address. -/
def maxLength : Nat := 65534

/-! ### Path and query -/

/-- Whether an octet may be in a path.  Quotes and braces should be escaped but are let through,
as are all octets beyond ASCII. -/
def isPathOctet (b : Nat) : Bool :=
  b == 0x21 || (0x24 ≤ b && b ≤ 0x3B) || b == 0x3D || (0x40 ≤ b && b ≤ 0x5F) ||
    (0x61 ≤ b && b ≤ 0x7A) || b == 0x7C || 0x7E ≤ b || b == 0x22 || b == 0x7B || b == 0x7D

/-- Whether an octet may be in a query. -/
def isQueryOctet (b : Nat) : Bool :=
  b == 0x21 || (0x24 ≤ b && b ≤ 0x3B) || b == 0x3D || 0x3F ≤ b

/-- The octet of a character below 128. -/
def octet (c : Char) : UInt8 := UInt8.ofNat c.toNat

/-- The octets before a fragment. -/
def dropFragment (bs : Bytes) : Bytes := bs.takeWhile (· ≠ octet '#')

/-- The path and the query of octets. -/
def pathAndQuery? (bs : Bytes) : Option (String × Option String) := do
  let bs := dropFragment bs
  let path := bs.takeWhile (· ≠ octet '?')
  let rest := bs.dropWhile (· ≠ octet '?')
  if path.all (fun b => isPathOctet b.toNat) ∧
      (rest.drop 1).all (fun b => isQueryOctet b.toNat) then
    let path ← Utf8.decode? path
    let query ← Utf8.decode? (rest.drop 1)
    return (path, if rest = [] then none else some query)
  else none

/-! ### Scheme -/

/-- Whether an octet may be in a scheme. -/
def isSchemeOctet (b : UInt8) : Bool :=
  let c := Char.ofNat b.toNat
  c.isAlphanum || c == '+' || c == '-' || c == '.'

/-- The greatest length of a scheme. -/
def maxSchemeLength : Nat := 64

/-- The scheme of an address, if it has one, and what follows; nothing if the scheme is too
long. -/
def scheme? (bs : Bytes) : Option (Option Bytes × Bytes) :=
  let scheme := bs.takeWhile isSchemeOctet
  let rest := bs.dropWhile isSchemeOctet
  if 3 < bs.length ∧ (":".toList ++ "//".toList).map octet = rest.take 3 then
    if maxSchemeLength < scheme.length then none else some (some scheme, rest.drop 3)
  else some (none, bs)

/-! ### Authority -/

/-- Whether an octet may be in an authority, in front of a path. -/
def isAuthorityOctet (b : UInt8) : Bool :=
  let c := Char.ofNat b.toNat
  c.isAlphanum || "!$&'()*+,-.:;=@[]_~".toList.contains c

/-- What has been seen of an authority. -/
structure AuthorityState where
  /-- The colons that are neither of the user nor inside brackets. -/
  colons : Nat
  /-- Whether a bracket was opened. -/
  opened : Bool
  /-- Whether a bracket was closed. -/
  closed : Bool
  /-- Whether there was a percent sign that is neither of the user nor inside brackets. -/
  percent : Bool
  /-- Whether the last octet was an at sign. -/
  atSign : Bool

/-- One octet of an authority. -/
def AuthorityState.step? (s : AuthorityState) (b : UInt8) : Option AuthorityState :=
  let c := Char.ofNat b.toNat
  let s := { s with atSign := false }
  if c = ':' then if 8 ≤ s.colons then none else some { s with colons := s.colons + 1 }
  else if c = '[' then
    if s.percent ∨ s.opened then none else some { s with opened := true }
  else if c = ']' then
    if !s.opened ∨ s.closed then none
    else some { s with closed := true, colons := 0, percent := false }
  else if c = '@' then some { s with colons := 0, percent := false, atSign := true }
  else if c = '%' then some { s with percent := true }
  else if isAuthorityOctet b then some s
  else none

/-- Whether octets are an authority. -/
def isAuthority (bs : Bytes) : Bool :=
  match bs.foldlM AuthorityState.step? ⟨0, false, false, false, false⟩ with
  | some s => s.opened == s.closed && s.colons ≤ 1 && !s.atSign && !s.percent
  | none => false

/-- The octets before the path, query or fragment. -/
def spanAuthority (bs : Bytes) : Bytes × Bytes :=
  let ends (b : UInt8) : Bool := b = octet '/' || b = octet '?' || b = octet '#'
  (bs.takeWhile (!ends ·), bs.dropWhile (!ends ·))

/-! ### Whole addresses -/

/-- An address that does not start with a slash. -/
def parseFull? (bs : Bytes) : Option Uri := do
  let (scheme, rest) ← scheme? bs
  let (authority, rest) := spanAuthority rest
  if !isAuthority authority then none
  else
    let host ← Utf8.decode? authority
    match scheme with
    | none => if rest = [] then some ⟨none, some host, "", none⟩ else none
    | some scheme =>
      if authority = [] then none
      else
        let scheme ← Utf8.decode? scheme
        let (path, query) ← pathAndQuery? rest
        return ⟨some scheme, some host, path, query⟩

/-- The address that octets write. -/
def ofBytes? (bs : Bytes) : Option Uri :=
  if bs = [] ∨ maxLength < bs.length then none
  else if bs = [octet '*'] then some ⟨none, none, "*", none⟩
  else if bs.head? = some (octet '/') then
    (pathAndQuery? bs).map fun (path, query) => ⟨none, none, path, query⟩
  else parseFull? bs

/-- The address that a text writes. -/
def parse? (s : String) : Option Uri := ofBytes? (Utf8.encode s)

/-- The path and the query as they are sent. -/
def target (u : Uri) : String :=
  (if u.path = "" then "/" else u.path) ++ match u.query with
    | some query => "?" ++ query
    | none => ""

end Uri

end Http

end ClusterGateway

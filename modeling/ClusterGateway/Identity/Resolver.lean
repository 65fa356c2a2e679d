import ClusterGateway.Http.Headers
import ClusterGateway.Identity.Basic
import ClusterGateway.Json.Decode
import ClusterGateway.Text.Blank
import ClusterGateway.Text.Split

/-!
# Who is asking

A front proxy that the gateway trusts names the user and the groups in headers.
`IdentityPolicy.resolve` reads them.  A policy that asks for a user or for groups never lets a
request through that has neither.
-/

namespace ClusterGateway

/-- Why nobody could be made out. -/
inductive IdentityError where
  /-- The value of a header is not visible ASCII. -/
  | invalidHeader (name : String)
  /-- A header is missing or empty. -/
  | missing (name : String)
  deriving Repr, DecidableEq

namespace IdentityError

/-- The text of an error. -/
def message : IdentityError → String
  | invalidHeader name => "identity header " ++ name ++ " is not valid UTF-8"
  | missing name => "identity header " ++ name ++ " is missing"

/-- The HTTP status under which the error is answered. -/
def status : IdentityError → Nat
  | invalidHeader _ => 400
  | missing _ => 401

end IdentityError

/-- Which headers say who is asking. -/
structure IdentityPolicy where
  /-- Whether requests are made for the user. -/
  impersonateUser : Bool
  /-- Whether requests are made for the groups. -/
  impersonateGroups : Bool
  /-- The header of the user. -/
  userHeader : String
  /-- The header of the groups, which commas divide. -/
  groupsHeader : String
  deriving Repr, DecidableEq, Inhabited

namespace IdentityPolicy

open Http

/-- Nobody is impersonated. -/
def default : IdentityPolicy := ⟨false, false, "X-Kubegate-User", "X-Kubegate-Groups"⟩

open Json in
/-- Reads a policy. -/
def decode : Decoder IdentityPolicy := fun room d => do
  let m ← Members.read?
    ["impersonate_user", "impersonate_groups", "user_header", "groups_header"] room d
  let impersonateUser ← m.withDefault "impersonate_user" default.impersonateUser .bool
  let impersonateGroups ← m.withDefault "impersonate_groups" default.impersonateGroups .bool
  let userHeader ← m.withDefault "user_header" default.userHeader .string
  let groupsHeader ← m.withDefault "groups_header" default.groupsHeader .string
  return ⟨impersonateUser, impersonateGroups, userHeader, groupsHeader⟩

/-- Whether anybody is impersonated at all. -/
def isActive (p : IdentityPolicy) : Bool := p.impersonateUser || p.impersonateGroups

/-- The text of the first value of a header, if there is one. -/
def headerText (h : Headers) (name : String) : Except IdentityError (Option String) :=
  match h.first? name with
  | none => .ok none
  | some value =>
    match visibleText? value with
    | some text => .ok (some text)
    | none => .error (.invalidHeader name)

/-- The user: the trimmed value of the user's header. -/
def user (p : IdentityPolicy) (h : Headers) : Except IdentityError String :=
  if !p.impersonateUser then .ok ""
  else do
    let text ← headerText h p.userHeader
    let user := Text.trim (text.getD "")
    if user = "" then .error (.missing p.userHeader) else .ok user

/-- The names between the commas of a list. -/
def groupNames (list : String) : List String :=
  ((Text.pieces ',' list).map Text.trim).filter (· ≠ "")

/-- The groups: the names in the value of the groups' header. -/
def groups (p : IdentityPolicy) (h : Headers) : Except IdentityError (List String) :=
  if !p.impersonateGroups then .ok []
  else (headerText h p.groupsHeader).map fun text => groupNames (text.getD "")

/-- Who is asking. -/
def resolve (p : IdentityPolicy) (h : Headers) : Except IdentityError Identity := do
  let user ← p.user h
  let groups ← p.groups h
  let identity : Identity := ⟨user, groups⟩
  if identity.isEmpty ∧ p.isActive then .error (.missing p.groupsHeader) else .ok identity

end IdentityPolicy

end ClusterGateway

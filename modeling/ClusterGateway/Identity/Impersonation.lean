import ClusterGateway.Http.Headers
import ClusterGateway.Identity.Basic

/-!
# Impersonation headers

A request made for somebody carries the user and the groups in headers whose names start with
`impersonate-`.  `Impersonation.apply` first removes every such header that is there, so that none
of them ever comes from anybody else, and then writes those of the identity.
-/

namespace ClusterGateway

namespace Impersonation

open Http

/-- The start of the names of all impersonation headers. -/
def namePrefix : String := "impersonate-"

/-- The header of the user. -/
def userHeader : String := "impersonate-user"

/-- The header of the groups. -/
def groupHeader : String := "impersonate-group"

/-- Whether a name in lower case is that of an impersonation header. -/
def isHeader (name : String) : Bool := namePrefix.toList.isPrefixOf name.toList

/-- The headers without impersonation headers. -/
def strip (h : Headers) : Headers := h.keep fun name => !isHeader name

/-- Appends the groups up to the first that cannot be a header value; says whether all could. -/
def appendGroups (h : Headers) : List String → Headers × Bool
  | [] => (h, true)
  | group :: groups =>
    match valueOfText? group with
    | some value => appendGroups (h.append groupHeader value) groups
    | .none => (h, false)

/-- The headers of a request made for somebody, and whether the identity could be written.  When
it could not, the headers show how far it came. -/
def apply (h : Headers) (i : Identity) : Headers × Bool :=
  let h := strip h
  if i.user = "" then appendGroups h i.groups
  else match valueOfText? i.user with
    | some value => appendGroups (h.set userHeader value) i.groups
    | .none => (h, false)

/-- The headers of a request made for somebody. -/
def headersFor? (h : Headers) (i : Identity) : Option Headers :=
  match apply h i with
  | (h, true) => some h
  | (_, false) => .none

end Impersonation

end ClusterGateway

import ClusterGateway.Http.Headers

/-!
# Media types

What a `content-type` says: a type, a subtype with an optional suffix after a plus sign, and
parameters, which only have to be well formed.
-/

namespace ClusterGateway

namespace Http

/-- The type of the content of a message, in lower case. -/
structure MediaType where
  /-- The type. -/
  type : String
  /-- The subtype. -/
  subtype : String
  /-- What follows the last plus sign of the subtype. -/
  suffix : Option String
  deriving Repr, DecidableEq, Inhabited

namespace MediaType

/-- Whether a character may be in a name. -/
def isToken (c : Char) : Bool := c.isAlphanum || "!#$%&'*+-.^_`|~".toList.contains c

/-! ### Parameters -/

/-- Where a reader of parameters stands. -/
inductive ParameterState where
  /-- In front of a name. -/
  | start
  /-- Inside a name. -/
  | name
  /-- In front of a value. -/
  | value
  /-- Inside a value. -/
  | plain
  /-- Inside quotes. -/
  | quoted
  /-- Behind quotes. -/
  | behind
  deriving Repr, DecidableEq

namespace ParameterState

/-- Reads a character. -/
def step? (s : ParameterState) (c : Char) : Option ParameterState :=
  match s with
  | start => if c = ' ' then some start else if isToken c then some name else none
  | name => if c = '=' then some value else if isToken c then some name else none
  | value => if c = '"' then some quoted else if isToken c then some plain else none
  | plain => if c = ';' then some start else if isToken c then some plain else none
  | quoted => if c = '"' then some behind
    else if 31 < c.toNat ∧ c.toNat ≠ 127 then some quoted else none
  | behind => if c = ';' then some start else if c = ' ' then some behind else none

/-- Whether the parameters may end here. -/
def mayEnd (s : ParameterState) : Bool := s ≠ name && s ≠ quoted

end ParameterState

/-- Whether characters are parameters. -/
def areParameters (cs : List Char) : Bool :=
  (cs.foldlM ParameterState.step? .start).any ParameterState.mayEnd

/-! ### Whole types -/

/-- The subtype and the suffix of the text behind the slash. -/
def splitSuffix (cs : List Char) : List Char × Option (List Char) :=
  let tail := cs.reverse.takeWhile (· ≠ '+')
  if tail.length + 1 < cs.length then
    (cs.take (cs.length - tail.length - 1), some tail.reverse)
  else (cs, none)

/-- The type that characters write. -/
def parseChars? (cs : List Char) : Option MediaType :=
  let type := cs.takeWhile isToken
  match type, cs.dropWhile isToken with
  | _ :: _, '/' :: rest =>
    let full := rest.takeWhile isToken
    let (subtype, suffix) := splitSuffix full
    let result : MediaType :=
      ⟨lowerName (.ofList type), lowerName (.ofList subtype),
        suffix.map fun cs => lowerName (.ofList cs)⟩
    match full, rest.dropWhile isToken with
    | _, [] => some result
    | _ :: _, ';' :: parameters => if areParameters parameters then some result else none
    | _, _ => none
  | _, _ => none

/-- The type that a text writes. -/
def parse? (s : String) : Option MediaType := parseChars? s.toList

/-- Whether the content is JSON. -/
def isJson (t : MediaType) : Bool :=
  t.type = "application" && (t.subtype = "json" || t.suffix = some "json")

end MediaType

/-- The media type of the content of a message with such headers. -/
def Headers.mediaType? (h : Headers) : Option MediaType :=
  ((h.first? "content-type").bind visibleText?).bind MediaType.parse?

end Http

end ClusterGateway

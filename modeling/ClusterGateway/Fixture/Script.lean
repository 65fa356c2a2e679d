import ClusterGateway.Cluster.Dialogue
import ClusterGateway.Fixture.Reply
import ClusterGateway.Http.Percent
import ClusterGateway.Table.Fetch

/-!
# A scripted API server

An API server that answers by a list of rules.  A request is answered by the first rule that
matches it and has not been used up, else as discovery of a small cluster if the script has one,
else with a failure.
-/

namespace ClusterGateway

open Http

namespace Fixture

/-- A rule of a script. -/
structure Rule where
  /-- The path. -/
  path : Option String
  /-- The method. -/
  method : Option String
  /-- The user for whom the request is made. -/
  user : Option String
  /-- Whether the request asks for a table. -/
  asksTable : Option Bool
  /-- Parameters of the query with their values. -/
  parameters : List (String × String)
  /-- How often the rule can be used. -/
  times : Option Nat
  /-- The answer; none breaks the connection. -/
  reply : Option Response

namespace Rule

/-- The pairs of a query. -/
def pairs (query : String) : List (String × String) :=
  (Text.pieces '&' query).map fun pair => (Text.cut? '=' pair).getD (pair, "")

/-- The text that a value in a query stands for. -/
def decodeValue (value : String) : String :=
  let plain := String.ofList (value.toList.map fun c => if c = '+' then ' ' else c)
  (Utf8.decode? (Percent.decode (Utf8.encode plain))).getD ""

/-- The value of a parameter of a query. -/
def parameter? (query : Option String) (name : String) : Option String :=
  query.bind fun query => ((pairs query).lookup name).map decodeValue

/-- The values of a header that are visible. -/
def visibleValues (h : Headers) (name : String) : List String :=
  (h.values name).filterMap visibleText?

/-- Whether a request asks for a table. -/
def wantsTable (r : Request) : Bool :=
  visibleValues r.headers "accept" = [TableFetch.acceptedForms]

/-- Whether a rule is for a request. -/
def applies (rule : Rule) (r : Request) : Bool :=
  rule.path.all (· = r.uri.path) && rule.method.all (· = r.method) &&
    rule.user.all (fun user => visibleValues r.headers "impersonate-user" = [user]) &&
    rule.asksTable.all (· = wantsTable r) &&
    rule.parameters.all fun (name, value) => parameter? r.uri.query name = some value

end Rule

/-- A script. -/
structure Script where
  /-- Whether discovery is answered. -/
  discovery : Bool
  /-- Whether no connection ever comes about. -/
  unreachable : Bool
  /-- The rules. -/
  rules : List Rule

namespace Script

/-- The answer of the first rule for a request that is not used up, and how often each rule has
been used then.  The uses are in the order of the rules. -/
def answerBy (r : Request) : List Rule → List Nat → Option (Option Response × List Nat)
  | rule :: rules, used :: uses =>
    if rule.applies r ∧ rule.times.all (used < ·) then some (rule.reply, (used + 1) :: uses)
    else (answerBy r rules uses).map fun (reply, uses) => (reply, used :: uses)
  | _, _ => none

/-- The answer when no rule is for a request. -/
def fallback (s : Script) (r : Request) : Response :=
  (if s.discovery then discovery? r.uri.path else none).getD notFound

/-- The answer to a request after so many uses of the rules. -/
def answer (s : Script) (uses : List Nat) (r : Request) : Option Response × List Nat :=
  if s.unreachable then (none, uses)
  else (answerBy r s.rules uses).getD (some (s.fallback r), uses)

/-- No rule has been used. -/
def fresh (s : Script) : List Nat := s.rules.map fun _ => 0

/-- The world of a script, in which no time passes. -/
def world (s : Script) (moment : Moment) (instant : Instant) : World (List Nat) where
  answer := s.answer
  moment := fun _ => moment
  instant := fun _ => instant
  turn := fun uses => (true, uses)

end Script

end Fixture

end ClusterGateway

import ClusterGateway.Json.Document

/-!
# JSONPath expressions

The expressions of RFC 9535.  A query goes from the root or from the current node through
segments, each of which applies its selectors to the nodes it is given.
-/

namespace ClusterGateway

namespace JsonPath

open Json

/-- How two values are compared. -/
inductive Comparison where
  /-- Equal. -/
  | eq
  /-- Not equal. -/
  | ne
  /-- Less. -/
  | lt
  /-- Less or equal. -/
  | le
  /-- Greater. -/
  | gt
  /-- Greater or equal. -/
  | ge
  deriving Repr, DecidableEq

mutual

/-- A query: whether it starts at the root, and its segments. -/
inductive Query where
  /-- The only form of a query. -/
  | mk (fromRoot : Bool) (segments : List Segment)

/-- A segment: whether it looks at all descendants, and its selectors. -/
inductive Segment where
  /-- The only form of a segment. -/
  | mk (descends : Bool) (selectors : List Selector)

/-- What a segment selects in a node. -/
inductive Selector where
  /-- The member of an object with a name. -/
  | name (key : String)
  /-- All members or items. -/
  | wildcard
  /-- An item of an array, counted from the end if negative. -/
  | index (i : Int)
  /-- Items of an array at regular distances. -/
  | slice (start stop : Option Int) (step : Int)
  /-- The members or items for which a condition holds. -/
  | filter (c : Condition)

/-- A condition on the current node. -/
inductive Condition where
  /-- One of the conditions holds. -/
  | any (cs : List Condition)
  /-- All of the conditions hold. -/
  | all (cs : List Condition)
  /-- The condition does not hold. -/
  | not (c : Condition)
  /-- Two values compare. -/
  | compare (op : Comparison) (left right : Operand)
  /-- A query finds something. -/
  | finds (q : Query)
  /-- A text matches a regular expression, as a whole or in some part. -/
  | matching (whole : Bool) (subject pattern : Operand)

/-- A value, or nothing. -/
inductive Operand where
  /-- A literal. -/
  | literal (v : Value)
  /-- What a query finds that finds at most one node. -/
  | query (q : Query)
  /-- The length of a value. -/
  | length (a : Operand)
  /-- How many nodes a query finds. -/
  | count (q : Query)
  /-- The only node that a query finds. -/
  | only (q : Query)

end

/-- Whether a selector selects at most one node. -/
def Selector.isSingular : Selector → Bool
  | .name _ => true
  | .index _ => true
  | _ => false

/-- Whether a segment selects at most one node of each. -/
def Segment.isSingular : Segment → Bool
  | .mk false [s] => s.isSingular
  | _ => false

/-- Whether a query finds at most one node. -/
def Query.isSingular : Query → Bool
  | .mk _ segments => segments.all Segment.isSingular

end JsonPath

end ClusterGateway

import ClusterGateway.Error
import ClusterGateway.Json.Decode

/-!
# Label selectors

A workload selects its pods by their labels: by pairs that have to be there, and by expressions
about a key.  `LabelSelector.render` writes a selector in the form in which a list request takes
it, clauses between commas and in the order of their keys.
-/

namespace ClusterGateway

open Json

/-- What is asked of the values under one key. -/
structure LabelExpression where
  /-- The key. -/
  key : String
  /-- How the values are compared. -/
  operator : String
  /-- The values. -/
  values : List String
  deriving Repr, DecidableEq, Inhabited

/-- A choice of objects by their labels. -/
structure LabelSelector where
  /-- Keys with the value that each has to have, in the order of the keys. -/
  labels : List (String × String)
  /-- What else is asked. -/
  expressions : List LabelExpression
  deriving Repr, DecidableEq, Inhabited

namespace LabelExpression

/-- The values in order. -/
def sortedValues (e : LabelExpression) : List String := e.values.mergeSort fun a b => a ≤ b

/-- The clause of an expression; none for an operator that is not known or does not go with the
number of values. -/
def clause? (e : LabelExpression) : Option String :=
  let values := ",".intercalate e.sortedValues
  if e.operator = "In" ∧ e.values ≠ [] then some (e.key ++ " in (" ++ values ++ ")")
  else if e.operator = "NotIn" ∧ e.values ≠ [] then some (e.key ++ " notin (" ++ values ++ ")")
  else if e.operator = "Exists" ∧ e.values = [] then some e.key
  else if e.operator = "DoesNotExist" ∧ e.values = [] then some ("!" ++ e.key)
  else none

/-- What is wrong with an expression that has no clause. -/
def complaint (e : LabelExpression) : String :=
  "unsupported requirement " ++ e.key ++ " " ++ e.operator ++ " " ++
    Text.quotedList e.sortedValues

/-- The key and the clause of an expression. -/
def clause (e : LabelExpression) : Except GatewayError (String × String) :=
  match e.clause? with
  | some text => .ok (e.key, text)
  | none => .error (.invalidSelector e.complaint)

/-- Reads an expression. -/
def decode : Decoder LabelExpression := fun room d => do
  let m ← Members.readObject? room d
  let key ← m.orDefault "key" "" .string
  let operator ← m.orDefault "operator" "" .string
  let values ← m.orDefault "values" [] (.list .string)
  return ⟨key, operator, values⟩

end LabelExpression

namespace LabelSelector

/-- The clauses of the pairs, with their keys. -/
def labelClauses (s : LabelSelector) : List (String × String) :=
  s.labels.map fun (key, value) => (key, key ++ "=" ++ value)

/-- Clauses in the order of their keys; those of one key stay in their order. -/
def sortClauses (clauses : List (String × String)) : List (String × String) :=
  clauses.mergeSort fun a b => a.1 ≤ b.1

/-- The text of a selector.  The empty selector has the empty text and selects everything. -/
def render (s : LabelSelector) : Except GatewayError String :=
  (s.expressions.mapM LabelExpression.clause).map fun clauses =>
    ",".intercalate ((sortClauses (s.labelClauses ++ clauses)).map Prod.snd)

/-- Reads a selector. -/
def decode : Decoder LabelSelector := fun room d => do
  let m ← Members.readObject? room d
  let labels ← m.orDefault "matchLabels" [] (.map .string)
  let expressions ← m.orDefault "matchExpressions" [] (.list LabelExpression.decode)
  return ⟨labels, expressions⟩

end LabelSelector

end ClusterGateway

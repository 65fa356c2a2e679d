import ClusterGateway.Text.Split

/-!
# Narrowing a table

A query may name one parameter that narrows the table down.  `jsonPath` and `regex` are for the
gateway; every other name goes to the API server, once for each of the values between `||`.
-/

namespace ClusterGateway

/-- How the objects of a table are chosen. -/
inductive TableFilter where
  /-- All objects. -/
  | none
  /-- A parameter for the API server, with the values to ask for one after the other. -/
  | parameter (name : String) (values : List String)
  /-- A JSONPath over the listed objects. -/
  | jsonPath (path : String)
  /-- A regular expression for the names. -/
  | regex (pattern : String)
  deriving Repr, DecidableEq

namespace TableFilter

/-- The values between `||`. -/
def splitValues (value : String) : List String := Text.piecesAt '|' "|" value

/-- The filter that a parameter of a query asks for. -/
def ofParameter (name value : String) : TableFilter :=
  if name = "" then .none
  else if name = "jsonPath" then .jsonPath value
  else if name = "regex" then .regex value
  else .parameter name (splitValues value)

end TableFilter

end ClusterGateway

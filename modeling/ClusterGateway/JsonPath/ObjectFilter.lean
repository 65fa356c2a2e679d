import ClusterGateway.Error
import ClusterGateway.JsonPath.Parse
import ClusterGateway.JsonPath.Select
import ClusterGateway.Resource.Key
import ClusterGateway.Text.Blank

/-!
# Choosing objects by a JSONPath

Callers write paths in several ways: between braces, and with or without the `$` and the dot at
the start.  `ObjectFilter.normalize` brings all of them into one form.  The objects that a path
chooses are those among its nodes that have a name.
-/

namespace ClusterGateway

open Json JsonPath

/-- A choice of objects. -/
structure ObjectFilter where
  /-- The query that finds the objects. -/
  query : JsonPath.Query

namespace ObjectFilter

/-- What stands between braces, if they enclose the text. -/
def unbrace : List Char → List Char
  | '\x7b' :: rest => if rest.getLast? = some '\x7d' then rest.dropLast else '\x7b' :: rest
  | cs => cs

/-- A path with `$` in front. -/
def root : List Char → List Char
  | '$' :: cs => '$' :: cs
  | '.' :: cs => '$' :: '.' :: cs
  | '[' :: cs => '$' :: '[' :: cs
  | cs => '$' :: '.' :: cs

/-- A path in its only form: without braces and the blanks around them, starting with `$`. -/
def normalizeChars (cs : List Char) : List Char :=
  root (Text.trimChars (unbrace (Text.trimChars cs)))

/-- A path in its only form. -/
def normalize (s : String) : String := String.ofList (normalizeChars s.toList)

/-- The choice that a path makes. -/
def parse (s : String) : Except GatewayError ObjectFilter :=
  match JsonPath.Query.parse? (normalize s) with
  | some q => .ok ⟨q⟩
  | none => .error (.invalidJsonPath s)

/-- The key of a node that is an object with a name. -/
def keyOf? (node : Value) : Option ObjectKey := do
  let metadata ← node.get? "metadata"
  let name ← (metadata.get? "name").bind Value.asString?
  return ⟨metadata.stringMember "namespace", name⟩

/-- The keys of the chosen objects in a list. -/
def keys (f : ObjectFilter) (list : Value) : List ObjectKey :=
  (f.query.select list).filterMap keyOf?

end ObjectFilter

end ClusterGateway

import ClusterGateway.Http.Percent
import ClusterGateway.JsonPath.ObjectFilter
import ClusterGateway.Resource.Lookup
import ClusterGateway.Table.Filter
import ClusterGateway.Table.Merge
import ClusterGateway.Text.Blank

/-!
# Fetching tables

A query for a table becomes one list request for every namespace and every value of its parameter
(`TableFetch.plan`).  The requests go out at the same time.  The tables, in whatever order they
arrive, are merged in the order of the plan; only when none arrives is the answer an error, that of
the first request in the plan.
-/

namespace ClusterGateway

open Http Json

/-- One list request of a query. -/
structure ListCall where
  /-- The namespace; none for all of them. -/
  ns : Option String
  /-- The parameter that narrows the list down. -/
  parameter : Option (String × String)
  deriving Repr, DecidableEq, Inhabited

namespace ListCall

/-- The address of the list. -/
def address (d : Descriptor) (c : ListCall) : String :=
  let path := d.collectionPath c.ns
  match c.parameter with
  | some (name, value) => path ++ "?" ++ Percent.encode name ++ "=" ++ Percent.encode value
  | none => path

end ListCall

/-- A filter that is ready for use. -/
structure Selection where
  /-- Which rows stay. -/
  rows : RowFilter
  /-- The JSONPath that selects objects. -/
  path : Option ObjectFilter

namespace TableFilter

/-- Makes a filter ready for use. -/
def prepare : TableFilter → Except GatewayError Selection
  | jsonPath path => (ObjectFilter.parse path).map fun f => ⟨.selected, some f⟩
  | regex pattern => match Regex.compile? pattern with
    | some r => .ok ⟨.nameMatches r, Option.none⟩
    | Option.none => .error .invalidRegex
  | none | parameter .. => .ok ⟨.all, Option.none⟩

end TableFilter

namespace TableFetch

/-- The forms in which a list is accepted: a table, or plain JSON from a server without tables. -/
def acceptedForms : String :=
  "application/json;as=Table;v=v1;g=meta.k8s.io," ++
    "application/json;as=Table;v=v1beta1;g=meta.k8s.io,application/json"

/-! ### The plan -/

/-- The namespace that an entry of a list of namespaces means. -/
def namespaceOf (entry : String) : Option String :=
  let ns := Text.trim entry
  if ns = "" ∨ ns = "*" then none else some ns

/-- The namespaces to list. -/
def namespaces (d : Descriptor) (list : String) : List (Option String) :=
  if d.namespaced then (Text.pieces ',' list).map namespaceOf else [none]

/-- The parameters to list with. -/
def parameters : TableFilter → List (Option (String × String))
  | .parameter name values => values.map fun value => some (name, value)
  | _ => [none]

/-- The list requests of a query: all values of the parameter for the first namespace, then for
the next one. -/
def plan (d : Descriptor) (list : String) (filter : TableFilter) : List ListCall :=
  (namespaces d list).flatMap fun ns => (parameters filter).map fun p => ⟨ns, p⟩

/-! ### Requests -/

/-- The objects that a JSONPath selects in a list. -/
def selected (identity : Identity) (d : Descriptor) (c : ListCall) :
    Option ObjectFilter → Operation (Option (List ObjectKey))
  | none => return none
  | some filter => do
    let text ← Exchange.getText identity (d.collectionPath c.ns) none
    let list ← Operation.orElse .malformed (Value.parse? text)
    return some (filter.keys list)

/-- What one list request yields. -/
def fragment (identity : Identity) (d : Descriptor) (path : Option ObjectFilter)
    (c : ListCall) : Operation Fragment := do
  let text ← Exchange.getText identity (c.address d) (some acceptedForms)
  let table ← Operation.orElse .malformed (ServerTable.decode.parse? text)
  let keys ← selected identity d c path
  return ⟨table, keys⟩

/-! ### The answer -/

/-- What arrived. -/
def arrived : List (Except GatewayError Fragment) → List Fragment
  | [] => []
  | .ok f :: rest => f :: arrived rest
  | .error _ :: rest => arrived rest

/-- The first error. -/
def firstError? : List (Except GatewayError Fragment) → Option GatewayError
  | [] => none
  | .ok _ :: rest => firstError? rest
  | .error e :: _ => some e

/-- What arrived, or the first error if nothing did. -/
def survivors (results : List (Except GatewayError Fragment)) :
    Except GatewayError (List Fragment) :=
  match arrived results, firstError? results with
  | [], some e => .error e
  | fragments, _ => .ok fragments

/-- The table of a kind of objects. -/
def table (identity : Identity) (resource list : String) (filter : TableFilter) (wide : Bool) :
    Operation Table := do
  let d ← Lookup.find resource
  let selection ← Operation.ofExcept filter.prepare
  let calls := (plan d list filter).map fun c => (fragment identity d selection.path c).attempt
  let results ← Operation.ofDialogue (.collect calls)
  let fragments ← Operation.ofExcept (survivors results)
  Operation.ofExcept (mergeTables d wide selection.rows fragments)

end TableFetch

end ClusterGateway

import ClusterGateway.JsonPath.Path
import ClusterGateway.Regex.Match

/-!
# Evaluating JSONPath expressions

`Query.select` gives the nodes of a value that a query finds.  Only values of one kind are
ordered, and among values that have no order none is less than another, so of two different truth
values each is greater.  Nothing equals nothing.  Where a query stands for a value, its indices
count from the start only.
-/

namespace ClusterGateway

namespace Json

namespace Value

/-- The members or items of a value. -/
def children : Value → List Value
  | .array items => items
  | .object members => members.map Prod.snd
  | _ => []

mutual

/-- A value and all values inside it. -/
def descendants : Value → List Value
  | .array items => .array items :: itemDescendants items
  | .object members => .object members :: memberDescendants members
  | v => [v]

/-- The descendants of items. -/
def itemDescendants : List Value → List Value
  | [] => []
  | v :: vs => v.descendants ++ itemDescendants vs

/-- The descendants of members. -/
def memberDescendants : List (String × Value) → List Value
  | [] => []
  | (_, v) :: ms => v.descendants ++ memberDescendants ms

end

mutual

/-- Whether two values are equal, numbers by their value. -/
def same : Value → Value → Bool
  | .number m, .number n => m.sameValue n
  | .array vs, .array ws => sameItems vs ws
  | .object ms, .object ns => sameMembers ms ns
  | .null, .null => true
  | .bool a, .bool b => a == b
  | .string s, .string t => s == t
  | _, _ => false

/-- Whether the items of two arrays are equal. -/
def sameItems : List Value → List Value → Bool
  | [], [] => true
  | v :: vs, w :: ws => v.same w && sameItems vs ws
  | _, _ => false

/-- Whether the members of two objects are equal; both are in the order of their keys. -/
def sameMembers : List (String × Value) → List (String × Value) → Bool
  | [], [] => true
  | (k, v) :: ms, (l, w) :: ns => k == l && v.same w && sameMembers ms ns
  | _, _ => false

end

/-- Whether two values are of one kind. -/
def sameKind : Value → Value → Bool
  | .null, .null => true
  | .bool _, .bool _ => true
  | .number _, .number _ => true
  | .string _, .string _ => true
  | .array _, .array _ => true
  | .object _, .object _ => true
  | _, _ => false

/-- Whether a value is less than another: numbers by value, strings by code points. -/
def less : Value → Value → Bool
  | .number m, .number n => m.lessThan n
  | .string s, .string t => s < t
  | _, _ => false

end Value

end Json

namespace JsonPath

open Json

/-! ### Comparisons -/

/-- Whether two values, or their absence, are equal. -/
def sameOrAbsent : Option Value → Option Value → Bool
  | none, none => true
  | some v, some w => v.same w
  | _, _ => false

/-- Whether both values are there and the first is less. -/
def lessThan : Option Value → Option Value → Bool
  | some v, some w => v.less w
  | _, _ => false

/-- Whether both values are of one kind, or absent. -/
def sameKind : Option Value → Option Value → Bool
  | none, none => true
  | some v, some w => v.sameKind w
  | _, _ => false

/-- Whether a comparison holds. -/
def Comparison.holds : Comparison → Option Value → Option Value → Bool
  | eq, a, b => sameOrAbsent a b
  | ne, a, b => !sameOrAbsent a b
  | lt, a, b => lessThan a b
  | le, a, b => lessThan a b || sameOrAbsent a b
  | gt, a, b => sameKind a b && !lessThan a b && !sameOrAbsent a b
  | ge, a, b => sameKind a b && !lessThan a b

/-! ### Functions -/

/-- The length of a text in characters, or of an array or object in members. -/
def lengthOf : Option Value → Option Value
  | some (.string s) => some (.int s.length)
  | some (.array items) => some (.int items.length)
  | some (.object members) => some (.int members.length)
  | _ => none

/-- The pattern that matches a whole text, or some part of it.  Lines may end with a carriage
return, so the dot does not match one. -/
def patternText (whole : Bool) (pattern : String) : String :=
  if whole then "(?R)^(" ++ pattern ++ ")$" else "(?R)(" ++ pattern ++ ")"

/-- Whether a text matches a pattern; false for anything that is no text, and for a text that is
no pattern. -/
def matchesText (whole : Bool) : Option Value → Option Value → Bool
  | some (.string subject), some (.string pattern) =>
    (Regex.compile? (patternText whole pattern)).any fun r => r.isMatch subject
  | _, _ => false

/-! ### Slices -/

/-- An index counted from the start of an array of a length. -/
def fromStart (length : Nat) (i : Int) : Int := if 0 ≤ i then i else length + i

/-- The item at an index. -/
def itemAt? (items : List Value) (i : Int) : Option Value :=
  let i := fromStart items.length i
  if 0 ≤ i then items[i.toNat]? else none

/-- The items from index `low` to before `high` at distances of `step`. -/
def itemsUp (items : List Value) (low high step : Nat) : List Value :=
  (List.range (high - low)).filterMap fun k => if k % step = 0 then items[low + k]? else none

/-- The items from index `high` down to after `low` at distances of `step`. -/
def itemsDown (items : List Value) (high low : Int) (step : Nat) : List Value :=
  (List.range (high - low).toNat).filterMap fun k =>
    if k % step = 0 then items[(high - k).toNat]? else none

/-- The items of a slice. -/
def sliceItems (items : List Value) (start stop : Option Int) (step : Int) : List Value :=
  let length : Int := items.length
  if 0 < step then
    let low := min (max (fromStart items.length (start.getD 0)) 0) length
    let high := min (max (fromStart items.length (stop.getD length)) 0) length
    itemsUp items low.toNat high.toNat step.toNat
  else if step < 0 then
    let high := min (max (fromStart items.length (start.getD (length - 1))) (-1)) (length - 1)
    let low := match stop with
      | some stop => min (max (fromStart items.length stop) (-1)) (length - 1)
      | none => -1
    itemsDown items high low (-step).toNat
  else []

/-! ### Single nodes -/

/-- The node that a segment with one name or one index from the start selects. -/
def Segment.single? : Segment → Value → Option Value
  | .mk false [.name key], v => v.get? key
  | .mk false [.index i], .array items => if 0 ≤ i then items[i.toNat]? else none
  | _, _ => none

/-- The node after segments with one name or index each. -/
def followSingle? (v : Value) (segments : List Segment) : Option Value :=
  segments.foldl (fun found s => found.bind s.single?) (some v)

/-! ### Queries -/

mutual

/-- The nodes that a query finds, from the root and the current node. -/
def Query.nodes (root current : Value) : Query → List Value
  | .mk fromRoot segments => followAll root segments [if fromRoot then root else current]

/-- The nodes after several segments. -/
def followAll (root : Value) : List Segment → List Value → List Value
  | [], nodes => nodes
  | s :: ss, nodes => followAll root ss (s.follow root nodes)

/-- The nodes after a segment. -/
def Segment.follow (root : Value) : Segment → List Value → List Value
  | .mk descends selectors, nodes =>
    selectEach root selectors (if descends then nodes.flatMap Value.descendants else nodes)

/-- The nodes that any of the selectors selects in the given nodes. -/
def selectEach (root : Value) : List Selector → List Value → List Value
  | [], _ => []
  | s :: ss, nodes => nodes.flatMap (s.select root) ++ selectEach root ss nodes

/-- The nodes that a selector selects in a node. -/
def Selector.select (root : Value) : Selector → Value → List Value
  | .name key, v => (v.get? key).toList
  | .wildcard, v => v.children
  | .index i, .array items => (itemAt? items i).toList
  | .index _, _ => []
  | .slice start stop step, .array items => sliceItems items start stop step
  | .slice .., _ => []
  | .filter c, v => v.children.filter fun child => c.holds root child

/-- Whether a condition holds of the current node. -/
def Condition.holds (root current : Value) : Condition → Bool
  | .any cs => anyHolds root current cs
  | .all cs => allHold root current cs
  | .not c => !c.holds root current
  | .compare op a b => op.holds (a.value? root current) (b.value? root current)
  | .finds q => !(q.nodes root current).isEmpty
  | .matching whole a b => matchesText whole (a.value? root current) (b.value? root current)

/-- Whether one of the conditions holds. -/
def anyHolds (root current : Value) : List Condition → Bool
  | [] => false
  | c :: cs => c.holds root current || anyHolds root current cs

/-- Whether all conditions hold. -/
def allHold (root current : Value) : List Condition → Bool
  | [] => true
  | c :: cs => c.holds root current && allHold root current cs

/-- The nodes that a query finds where it stands for values. -/
def Query.operandNodes (root current : Value) : Query → List Value
  | .mk fromRoot segments =>
    let start := if fromRoot then root else current
    if segments.all Segment.isSingular then (followSingle? start segments).toList
    else followAll root segments [start]

/-- The value of an operand, if it has one. -/
def Operand.value? (root current : Value) : Operand → Option Value
  | .literal v => some v
  | .query q => (q.operandNodes root current).head?
  | .length a => lengthOf (a.value? root current)
  | .count q => some (.int (q.operandNodes root current).length)
  | .only q =>
    match q.operandNodes root current with
    | [v] => some v
    | _ => none

end

/-- The nodes of a value that a query finds. -/
def Query.select (q : Query) (root : Value) : List Value := q.nodes root root

end JsonPath

end ClusterGateway

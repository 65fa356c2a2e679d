import ClusterGateway.JsonPath.Path

/-!
# Reading JSONPath expressions

`Query.parse?` reads a whole expression.  Blanks may stand between the segments of a query and
inside brackets, but not between a dot and the name after it.
-/

namespace ClusterGateway

namespace JsonPath

open Json

namespace Reader

/-! ### Names and numbers -/

/-- Whether a name may start with a character. -/
def isNameStart (c : Char) : Bool := c.isAlpha || c = '_' || 0x80 ≤ c.toNat

/-- Whether a character may be in a name. -/
def isNameChar (c : Char) : Bool := isNameStart c || c.isDigit

/-- The name of a member after a dot. -/
def memberName? : List Char → Option (String × List Char)
  | [] => none
  | c :: cs =>
    if isNameStart c then
      some (String.ofList (c :: cs.takeWhile isNameChar), cs.dropWhile isNameChar)
    else none

/-- A natural number without leading zeros. -/
def natural? : List Char → Option (Nat × List Char)
  | '0' :: cs => some (0, cs)
  | cs =>
    match spanDigits cs with
    | ([], _) => none
    | (ds, rest) => some (ofDigits ds, rest)

/-- The greatest size of an index. -/
def maxIndex : Nat := Nat.pow 2 53 - 1

/-- An index or a bound of a slice. -/
def integer? : List Char → Option (Int × List Char)
  | '-' :: cs =>
    (natural? cs).bind fun (n, rest) =>
      if n = 0 ∨ maxIndex < n then none else some (-(n : Int), rest)
  | cs => (natural? cs).bind fun (n, rest) => if maxIndex < n then none else some ((n : Int), rest)

/-- The value of a number in a condition. -/
def numberValue? (l : NumberLiteral) : Option Number :=
  let n := ofDigits l.integer
  let signed : Int := if l.negative then -(n : Int) else n
  if l.fraction = [] ∧ l.exponent = none ∧ -Int.pow 2 63 ≤ signed ∧
      signed < Int.pow 2 63 then
    some (.int signed)
  else
    (Double.nearest? l.negative (ofDigits (l.integer ++ l.fraction))
      (l.exponent.getD 0 - l.fraction.length)).map .double

/-- The digits after a point, if there are any. -/
def fraction (cs : List Char) : List Nat × List Char := (parseFraction cs).getD ([], cs)

/-- The exponent, if there is one. -/
def exponent (cs : List Char) : Option Int × List Char := (parseExponent cs).getD (none, cs)

/-- A number in a condition, after its sign. -/
def unsigned? (negative : Bool) (cs : List Char) : Option (Number × List Char) :=
  let whole : Option (List Nat × List Char) := match cs with
    | '0' :: rest => some ([0], rest)
    | cs => match spanDigits cs with
      | ([], _) => none
      | (ds, rest) => some (ds, rest)
  whole.bind fun (ds, rest) =>
    let (fraction, rest) := fraction rest
    let (exponent, rest) := exponent rest
    (numberValue? ⟨negative, ds, fraction, exponent⟩).map (·, rest)

/-! ### Strings -/

/-- The rest of a string in quotes of one kind, and what follows the closing quote.  The quotes of
the other kind stand for themselves. -/
def stringBody? (quote : Char) : List Char → Option (List Nat × List Char)
  | [] => none
  | '\\' :: 'u' :: a :: b :: c :: d :: rest => do
    let n ← hexFour? a b c d
    let (ns, rest) ← stringBody? quote rest
    return (n :: ns, rest)
  | '\\' :: c :: rest => do
    let c ←
      if c = quote then some quote
      else if c = '"' then none
      else shortEscape? c
    let (ns, rest) ← stringBody? quote rest
    return (c.toNat :: ns, rest)
  | c :: rest =>
    if c = quote then some ([], rest)
    else if c.toNat < 0x20 ∨ c = '\\' then none
    else (stringBody? quote rest).map fun (ns, rest) => (c.toNat :: ns, rest)

/-- A string in quotes of either kind. -/
def string? : List Char → Option (String × List Char)
  | c :: rest =>
    if c = '"' ∨ c = '\'' then do
      let (codes, rest) ← stringBody? c rest
      let s ← text? codes
      return (s, rest)
    else none
  | [] => none

/-- A literal of a condition. -/
def literal? (cs : List Char) : Option (Value × List Char) :=
  match cs with
  | 'n' :: 'u' :: 'l' :: 'l' :: rest => some (.null, rest)
  | 't' :: 'r' :: 'u' :: 'e' :: rest => some (.bool true, rest)
  | 'f' :: 'a' :: 'l' :: 's' :: 'e' :: rest => some (.bool false, rest)
  | '-' :: rest => (unsigned? true rest).map fun (n, rest) => (.number n, rest)
  | c :: _ =>
    if c.isDigit then (unsigned? false cs).map fun (n, rest) => (.number n, rest)
    else (string? cs).map fun (s, rest) => (.string s, rest)
  | [] => none

/-! ### Selectors without conditions -/

/-- An integer, if there is one. -/
def optional (cs : List Char) : Option Int × List Char :=
  match integer? cs with
  | some (i, rest) => (some i, rest)
  | none => (none, cs)

/-- An integer after blanks, if there is one. -/
def optionalAfter (cs : List Char) : Option Int × List Char :=
  match integer? (skipSpace cs) with
  | some (i, rest) => (some i, rest)
  | none => (none, cs)

/-- A slice. -/
def slice? (cs : List Char) : Option (Selector × List Char) :=
  let (start, rest) := optional cs
  match (if start.isSome then skipSpace rest else rest) with
  | ':' :: rest =>
    let (stop, rest) := optionalAfter rest
    match skipSpace rest with
    | ':' :: rest =>
      let (step, rest) := optionalAfter rest
      some (.slice start stop (step.getD 1), rest)
    | _ => some (.slice start stop 1, rest)
  | _ => none

/-- A selector that is no filter. -/
def plainSelector? (cs : List Char) : Option (Selector × List Char) :=
  match cs with
  | '*' :: rest => some (.wildcard, rest)
  | '"' :: _ => (string? cs).map fun (s, rest) => (.name s, rest)
  | '\'' :: _ => (string? cs).map fun (s, rest) => (.name s, rest)
  | _ => (slice? cs).orElse fun _ => (integer? cs).map fun (i, rest) => (.index i, rest)

/-- A comparison. -/
def comparison? : List Char → Option (Comparison × List Char)
  | '=' :: '=' :: rest => some (.eq, rest)
  | '!' :: '=' :: rest => some (.ne, rest)
  | '<' :: '=' :: rest => some (.le, rest)
  | '>' :: '=' :: rest => some (.ge, rest)
  | '<' :: rest => some (.lt, rest)
  | '>' :: rest => some (.gt, rest)
  | _ => none

/-! ### Functions -/

/-- An argument of a function, or an operand whose use is not known yet. -/
inductive Argument where
  /-- A literal or the value of a function. -/
  | value (o : Operand)
  /-- A query. -/
  | query (q : Query)
  /-- The truth of a function. -/
  | truth (c : Condition)

/-- The value that an argument stands for, if it can be one. -/
def Argument.operand? : Argument → Option Operand
  | value o => some o
  | query q => if q.isSingular then some (.query q) else none
  | truth _ => none

/-- The condition that an argument stands for, if it can be one. -/
def Argument.condition? : Argument → Option Condition
  | value _ => none
  | query q => some (.finds q)
  | truth c => some c

/-- The function of a name with its arguments. -/
def call? (name : String) (arguments : List Argument) : Option Argument :=
  match name, arguments with
  | "length", [a] => a.operand?.map fun o => .value (.length o)
  | "count", [.query q] => some (.value (.count q))
  | "value", [.query q] => some (.value (.only q))
  | "match", [a, b] => do
    let subject ← a.operand?
    let pattern ← b.operand?
    return .truth (.matching true subject pattern)
  | "search", [a, b] => do
    let subject ← a.operand?
    let pattern ← b.operand?
    return .truth (.matching false subject pattern)
  | _, _ => none

/-- Whether a character may be in the name of a function. -/
def isFunctionChar (c : Char) : Bool := c.isLower || c.isDigit || c = '_'

/-- The name of a function with the opening parenthesis after it. -/
def functionName? : List Char → Option (String × List Char)
  | [] => none
  | c :: cs =>
    if c.isLower then
      match cs.dropWhile isFunctionChar with
      | '(' :: rest => some (String.ofList (c :: cs.takeWhile isFunctionChar), rest)
      | _ => none
    else none

/-! ### Queries and conditions -/

mutual

/-- The segments at the start of the text. -/
def segments : Nat → List Char → List Segment × List Char
  | 0, cs => ([], cs)
  | fuel + 1, cs =>
    match segment? fuel (skipSpace cs) with
    | none => ([], cs)
    | some (s, rest) =>
      let (ss, rest) := segments fuel rest
      (s :: ss, rest)

/-- A segment. -/
def segment? : Nat → List Char → Option (Segment × List Char)
  | 0, _ => none
  | fuel + 1, cs =>
    match cs with
    | '.' :: '.' :: '[' :: rest =>
      (selectors? fuel (skipSpace rest)).map fun (ss, rest) => (.mk true ss, rest)
    | '.' :: '.' :: '*' :: rest => some (.mk true [.wildcard], rest)
    | '.' :: '.' :: rest =>
      (memberName? rest).map fun (name, rest) => (.mk true [.name name], rest)
    | '.' :: '*' :: rest => some (.mk false [.wildcard], rest)
    | '.' :: rest => (memberName? rest).map fun (name, rest) => (.mk false [.name name], rest)
    | '[' :: rest => (selectors? fuel (skipSpace rest)).map fun (ss, rest) => (.mk false ss, rest)
    | _ => none

/-- The selectors up to the closing bracket. -/
def selectors? : Nat → List Char → Option (List Selector × List Char)
  | 0, _ => none
  | fuel + 1, cs => do
    let (s, rest) ← match cs with
      | '?' :: rest => (anyOf? fuel (skipSpace rest)).map fun (c, rest) => (Selector.filter c, rest)
      | cs => plainSelector? cs
    match skipSpace rest with
    | ',' :: rest => do
      let (ss, rest) ← selectors? fuel (skipSpace rest)
      return (s :: ss, rest)
    | ']' :: rest => some ([s], rest)
    | _ => none

/-- Conditions of which one has to hold. -/
def anyOf? : Nat → List Char → Option (Condition × List Char)
  | 0, _ => none
  | fuel + 1, cs => do
    let (c, rest) ← allOf? fuel cs
    match skipSpace rest with
    | '|' :: '|' :: after => do
      let (d, rest) ← anyOf? fuel (skipSpace after)
      return (.any [c, d], rest)
    | _ => some (c, rest)

/-- Conditions all of which have to hold. -/
def allOf? : Nat → List Char → Option (Condition × List Char)
  | 0, _ => none
  | fuel + 1, cs => do
    let (c, rest) ← basic? fuel cs
    match skipSpace rest with
    | '&' :: '&' :: after => do
      let (d, rest) ← allOf? fuel (skipSpace after)
      return (.all [c, d], rest)
    | _ => some (c, rest)

/-- A condition in parentheses, a comparison or a test. -/
def basic? : Nat → List Char → Option (Condition × List Char)
  | 0, _ => none
  | fuel + 1, cs =>
    match cs with
    | '!' :: rest =>
      match skipSpace rest with
      | '(' :: rest => (inParentheses? fuel rest).map fun (c, rest) => (.not c, rest)
      | rest => do
        let (a, rest) ← argument? fuel rest
        let c ← a.condition?
        return (.not c, rest)
    | '(' :: rest => inParentheses? fuel rest
    | cs => do
      let (a, rest) ← argument? fuel cs
      match comparison? (skipSpace rest) with
      | some (op, after) => do
        let left ← a.operand?
        let (b, rest) ← argument? fuel (skipSpace after)
        let right ← b.operand?
        return (.compare op left right, rest)
      | none => do
        let c ← a.condition?
        return (c, rest)

/-- A condition after an opening parenthesis. -/
def inParentheses? : Nat → List Char → Option (Condition × List Char)
  | 0, _ => none
  | fuel + 1, cs => do
    let (c, rest) ← anyOf? fuel (skipSpace cs)
    match skipSpace rest with
    | ')' :: rest => some (c, rest)
    | _ => none

/-- A literal, a query or a function. -/
def argument? : Nat → List Char → Option (Argument × List Char)
  | 0, _ => none
  | fuel + 1, cs =>
    match cs with
    | '$' :: rest =>
      let (ss, rest) := segments fuel rest
      some (.query (.mk true ss), rest)
    | '@' :: rest =>
      let (ss, rest) := segments fuel rest
      some (.query (.mk false ss), rest)
    | cs =>
      match literal? cs with
      | some (v, rest) => some (.value (.literal v), rest)
      | none => do
        let (name, rest) ← functionName? cs
        let (arguments, rest) ← match skipSpace rest with
          | ')' :: rest => some ([], rest)
          | rest => arguments? fuel rest
        let call ← call? name arguments
        return (call, rest)

/-- The arguments of a function up to the closing parenthesis. -/
def arguments? : Nat → List Char → Option (List Argument × List Char)
  | 0, _ => none
  | fuel + 1, cs => do
    let (a, rest) ← argument? fuel cs
    match skipSpace rest with
    | ',' :: rest => do
      let (as, rest) ← arguments? fuel (skipSpace rest)
      return (a :: as, rest)
    | ')' :: rest => some ([a], rest)
    | _ => none

end

end Reader

/-- The query that a whole text writes. -/
def Query.parse? (s : String) : Option Query :=
  match s.toList with
  | '$' :: rest =>
    match Reader.segments (8 * rest.length + 8) rest with
    | (ss, []) => some (.mk true ss)
    | _ => none
  | _ => none

end JsonPath

end ClusterGateway

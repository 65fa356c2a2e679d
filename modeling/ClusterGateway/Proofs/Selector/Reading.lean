import ClusterGateway.Proofs.Text.Pieces
import ClusterGateway.Resource.Selector

/-!
# Reading label selectors

The other side of a label selector: how its text is read, clause by clause between the commas
outside parentheses, and which labels an object must have to be selected.

* `LabelSelector.splitOutside_intercalate` : clauses that close their parentheses are recovered
  from the text in which they stand between commas.
* `Requirement.read?_pair` and its companions : each of the five forms of a clause is read as
  what it says, and as nothing else.
-/

namespace ClusterGateway

/-! ### What is asked of labels -/

/-- The labels of an object: a value for some of the keys. -/
abbrev Labels := String → Option String

/-- What labels must be like for an expression.  A key that is absent has none of the values. -/
def LabelExpression.Holds (e : LabelExpression) (labels : Labels) : Prop :=
  match e.operator with
  | "In" => ∃ v ∈ e.values, labels e.key = some v
  | "NotIn" => ∀ v ∈ e.values, labels e.key ≠ some v
  | "Exists" => labels e.key ≠ none
  | "DoesNotExist" => labels e.key = none
  | _ => False

/-- A single thing that a selector asks. -/
inductive Requirement where
  /-- The key has the value. -/
  | pair (key value : String)
  /-- The expression holds. -/
  | expression (e : LabelExpression)
  deriving Repr, DecidableEq, Inhabited

/-- What labels must be like for a requirement. -/
def Requirement.Holds (labels : Labels) : Requirement → Prop
  | .pair key value => labels key = some value
  | .expression e => e.Holds labels

/-- What a selector asks, thing by thing. -/
def LabelSelector.requirements (s : LabelSelector) : List Requirement :=
  (s.labels.map fun (key, value) => .pair key value) ++ s.expressions.map .expression

/-- Labels that a selector chooses. -/
def LabelSelector.Matches (s : LabelSelector) (labels : Labels) : Prop :=
  (∀ pair ∈ s.labels, labels pair.1 = some pair.2) ∧ ∀ e ∈ s.expressions, e.Holds labels

theorem LabelSelector.matches_iff {s : LabelSelector} {labels : Labels} :
    s.Matches labels ↔ ∀ r ∈ s.requirements, r.Holds labels := by
  simp only [Matches, requirements, List.forall_mem_append, List.forall_mem_map]
  rfl

/-! ### The reader -/

/-- A character that keys are made of. -/
def isKeyChar (c : Char) : Bool :=
  c.isAlphanum || c = '.' || c = '_' || c = '/' || c = '-'

/-- A character that values are made of. -/
def isValueChar (c : Char) : Bool := c.isAlphanum || c = '.' || c = '_' || c = '-'

namespace Requirement

/-- The values between the opening parenthesis and the closing one at the end. -/
def readValues? (cs : List Char) : Option (List String) :=
  if cs.getLast? = some ')' ∧
      (Text.piecesChars ',' cs.dropLast).all (·.all isValueChar) = true then
    some ((Text.piecesChars ',' cs.dropLast).map String.ofList)
  else none

/-- What is asked of a key, told by what follows it in the clause. -/
def readRest? (key : String) (cs : List Char) : Option Requirement :=
  match cs with
  | [] => some (.expression ⟨key, "Exists", []⟩)
  | '=' :: value => if value.all isValueChar then some (.pair key (String.ofList value)) else none
  | ' ' :: 'i' :: 'n' :: ' ' :: '(' :: rest =>
    (readValues? rest).map fun values => .expression ⟨key, "In", values⟩
  | ' ' :: 'n' :: 'o' :: 't' :: 'i' :: 'n' :: ' ' :: '(' :: rest =>
    (readValues? rest).map fun values => .expression ⟨key, "NotIn", values⟩
  | _ => none

/-- Reads a clause: `k=v`, `k in (..)`, `k notin (..)`, `k` or `!k`. -/
def read? (cs : List Char) : Option Requirement :=
  match cs with
  | '!' :: key =>
    if key ≠ [] ∧ key.all isKeyChar = true then
      some (.expression ⟨String.ofList key, "DoesNotExist", []⟩)
    else none
  | _ =>
    if cs.takeWhile isKeyChar = [] then none
    else readRest? (String.ofList (cs.takeWhile isKeyChar)) (cs.dropWhile isKeyChar)

end Requirement

namespace LabelSelector

/-- How many parentheses are open after a character. -/
def openAfter (depth : Nat) (c : Char) : Nat :=
  if c = '(' then depth + 1 else if c = ')' then depth - 1 else depth

/-- The pieces between the commas outside parentheses, so many of which are open at the start. -/
def splitOutside (depth : Nat) : List Char → List (List Char)
  | [] => [[]]
  | c :: cs =>
    if c = ',' ∧ depth = 0 then [] :: splitOutside 0 cs
    else (splitOutside (openAfter depth c) cs).modifyHead (c :: ·)

/-- Reads the text of a selector; the empty text asks nothing. -/
def read? (text : String) : Option (List Requirement) :=
  if text = "" then some [] else (splitOutside 0 text.toList).mapM Requirement.read?

/-- Labels that the text of a selector chooses: it can be read, and what it asks holds. -/
def Chooses (text : String) (labels : Labels) : Prop :=
  ∃ read, read? text = some read ∧ ∀ r ∈ read, r.Holds labels

end LabelSelector

/-! ### Splitting -/

namespace LabelSelector

/-- A piece that the split at the commas outside parentheses passes over. -/
def IsClosed (p : List Char) : Prop :=
  ∀ cs, splitOutside 0 (p ++ cs) = (splitOutside 0 cs).modifyHead (p ++ ·)

theorem splitOutside_append {depth : Nat} {p : List Char} (hopen : '(' ∉ p) (hclose : ')' ∉ p)
    (hcomma : depth = 0 → ',' ∉ p) (cs : List Char) :
    splitOutside depth (p ++ cs) = (splitOutside depth cs).modifyHead (p ++ ·) := by
  induction p with
  | nil => cases h : splitOutside depth cs <;> simp [h]
  | cons c p ih =>
    simp only [List.mem_cons, not_or] at hopen hclose hcomma
    have hc : ¬(c = ',' ∧ depth = 0) := fun h => (hcomma h.2).1 h.1.symm
    have hdepth : openAfter depth c = depth := by
      rw [openAfter, if_neg (Ne.symm hopen.1), if_neg (Ne.symm hclose.1)]
    rw [List.cons_append, splitOutside, if_neg hc, hdepth,
      ih hopen.2 hclose.2 fun h => (hcomma h).2]
    cases splitOutside depth cs <;> simp

theorem isClosed_of_plain {p : List Char} (hopen : '(' ∉ p) (hclose : ')' ∉ p) (hcomma : ',' ∉ p) :
    IsClosed p := splitOutside_append hopen hclose fun _ => hcomma

theorem IsClosed.append {p q : List Char} (hp : IsClosed p) (hq : IsClosed q) :
    IsClosed (p ++ q) := by
  intro cs
  rw [List.append_assoc, hp, hq]
  cases splitOutside 0 cs <;> simp

theorem isClosed_parentheses {p : List Char} (hopen : '(' ∉ p) (hclose : ')' ∉ p) :
    IsClosed ('(' :: p ++ [')']) := by
  intro cs
  have hinside : splitOutside 1 (p ++ ')' :: cs) =
      (splitOutside 1 (')' :: cs)).modifyHead (p ++ ·) :=
    splitOutside_append hopen hclose (by simp) _
  have hend : splitOutside 1 (')' :: cs) = (splitOutside 0 cs).modifyHead (')' :: ·) := rfl
  have hstart : splitOutside 0 ('(' :: p ++ [')'] ++ cs) =
      (splitOutside 1 (p ++ ')' :: cs)).modifyHead ('(' :: ·) := by
    simp [splitOutside, openAfter]
  rw [hstart, hinside, hend]
  cases splitOutside 0 cs <;> simp

/-- **Clauses are recovered** from the text in which they stand between commas. -/
theorem splitOutside_intercalate {clauses : List (List Char)} (h : ∀ p ∈ clauses, IsClosed p)
    (hne : clauses ≠ []) : splitOutside 0 ([','].intercalate clauses) = clauses :=
  Text.split_intercalate rfl (fun _ => rfl) h hne

end LabelSelector

/-! ### Keys and values -/

/-- A key that an API server admits. -/
def IsLabelKey (key : String) : Prop := key ≠ "" ∧ key.toList.all isKeyChar = true

/-- A value that an API server admits; it may be empty. -/
def IsLabelValue (value : String) : Prop := value.toList.all isValueChar = true

instance (key : String) : Decidable (IsLabelKey key) := inferInstanceAs (Decidable (_ ∧ _))

instance (value : String) : Decidable (IsLabelValue value) := inferInstanceAs (Decidable (_ = _))

theorem isKeyChar_of_isValueChar {c : Char} (h : isValueChar c = true) : isKeyChar c = true := by
  simp only [isValueChar, Bool.or_eq_true, decide_eq_true_eq] at h
  simp only [isKeyChar, Bool.or_eq_true, decide_eq_true_eq]
  exact h.imp_left .inl

theorem not_mem_of_isKeyChar {cs : List Char} (h : cs.all isKeyChar = true) {c : Char}
    (hc : isKeyChar c = false) : c ∉ cs := fun hmem => by
  simp [List.all_eq_true.1 h c hmem] at hc

namespace IsLabelKey

variable {key : String} (h : IsLabelKey key)
include h

theorem toList_ne_nil : key.toList ≠ [] := by simpa using h.1

theorem isClosed : LabelSelector.IsClosed key.toList :=
  LabelSelector.isClosed_of_plain (not_mem_of_isKeyChar h.2 rfl) (not_mem_of_isKeyChar h.2 rfl)
    (not_mem_of_isKeyChar h.2 rfl)

end IsLabelKey

theorem IsLabelValue.all_isKeyChar {value : String} (h : IsLabelValue value) :
    value.toList.all isKeyChar = true :=
  List.all_eq_true.2 fun c hc => isKeyChar_of_isValueChar (List.all_eq_true.1 h c hc)

/-! ### Reading clauses -/

namespace Requirement

variable {key : String}

theorem read?_key (h : IsLabelKey key) {rest : List Char}
    (hrest : ∀ c ∈ rest.head?, isKeyChar c = false) :
    read? (key.toList ++ rest) = readRest? key rest := by
  have hall := List.all_eq_true.1 h.2
  have htake : (key.toList ++ rest).takeWhile isKeyChar = key.toList := by
    rw [List.takeWhile_append_of_pos hall]
    cases rest with
    | nil => simp
    | cons c cs => simp [hrest c rfl]
  have hdrop : (key.toList ++ rest).dropWhile isKeyChar = rest := by
    rw [List.dropWhile_append_of_pos hall]
    cases rest with
    | nil => rfl
    | cons c cs => simp [hrest c rfl]
  -- an exclamation mark would start another kind of clause
  have hfirst (cs : List Char) : key.toList ++ rest ≠ '!' :: cs := by
    intro heq
    cases hk : key.toList with
    | nil => exact h.toList_ne_nil hk
    | cons c ks =>
      rw [hk, List.cons_append] at heq
      have hc : isKeyChar c = true := hall c (hk ▸ List.mem_cons_self)
      rw [(List.cons.inj heq).1] at hc
      exact absurd hc (by decide)
  rw [read?]
  · rw [htake, hdrop, if_neg h.toList_ne_nil, String.ofList_toList]
  · exact hfirst

theorem read?_exists (h : IsLabelKey key) :
    read? key.toList = some (.expression ⟨key, "Exists", []⟩) := by
  have hread : read? (key.toList ++ []) = readRest? key [] := read?_key h (by simp)
  rwa [List.append_nil] at hread

theorem read?_absent (h : IsLabelKey key) :
    read? ('!' :: key.toList) = some (.expression ⟨key, "DoesNotExist", []⟩) := by
  rw [read?, if_pos ⟨h.toList_ne_nil, h.2⟩, String.ofList_toList]

theorem read?_pair (h : IsLabelKey key) {value : String} (hv : IsLabelValue value) :
    read? (key.toList ++ '=' :: value.toList) = some (.pair key value) := by
  rw [IsLabelValue] at hv
  rw [read?_key h (by simp [show isKeyChar '=' = false from rfl]), readRest?, if_pos hv,
    String.ofList_toList]

theorem readValues?_intercalate {values : List String} (hv : ∀ v ∈ values, IsLabelValue v)
    (hne : values ≠ []) :
    readValues? ([','].intercalate (values.map String.toList) ++ [')']) = some values := by
  have hpieces : Text.piecesChars ',' ([','].intercalate (values.map String.toList)) =
      values.map String.toList := by
    refine Text.piecesChars_intercalate (fun p hp => ?_) (by simpa using hne)
    obtain ⟨v, hmem, rfl⟩ := List.mem_map.1 hp
    exact not_mem_of_isKeyChar (hv v hmem).all_isKeyChar rfl
  have hall : (values.map String.toList).all (·.all isValueChar) = true := by
    rw [List.all_map, List.all_eq_true]
    exact hv
  simp only [readValues?, List.getLast?_concat, List.dropLast_concat, hpieces, hall, and_self,
    if_true, List.map_map]
  simp [Function.comp_def]

/-- The two forms of a clause about a list of values: what stands between the key and the values,
and the operator that it means. -/
inductive IsListing : String → String → Prop
  /-- One of the values. -/
  | oneOf : IsListing " in (" "In"
  /-- None of the values. -/
  | noneOf : IsListing " notin (" "NotIn"

theorem read?_listed (h : IsLabelKey key) {word operator : String} (hword : IsListing word operator)
    {values : List String} (hv : ∀ v ∈ values, IsLabelValue v) (hne : values ≠ []) :
    read? (key.toList ++ word.toList ++
        ([','].intercalate (values.map String.toList) ++ [')'])) =
      some (.expression ⟨key, operator, values⟩) := by
  have hvalues := readValues?_intercalate hv hne
  cases hword with
  | oneOf =>
    rw [List.append_assoc, read?_key h (by simp [show isKeyChar ' ' = false from rfl])]
    simp [readRest?, hvalues]
  | noneOf =>
    rw [List.append_assoc, read?_key h (by simp [show isKeyChar ' ' = false from rfl])]
    simp [readRest?, hvalues]

end Requirement

end ClusterGateway

import ClusterGateway.Text.Utf8

/-!
# Header fields

The fields of an HTTP message: names without regard to case, each with any number of values in
their order.  `Headers.values` is the view of a field list that all statements about it use; what
every operation does to it is said by a lemma next to the operation.
-/

namespace ClusterGateway

namespace Http

/-- A name in lower case, as far as it is ASCII. -/
def lowerName (name : String) : String := String.ofList (name.toList.map Char.toLower)

/-- Whether an octet may stand in a field value. -/
def isValueOctet (b : UInt8) : Bool := (32 ≤ b.toNat && b.toNat ≠ 127) || b.toNat == 9

/-- Whether an octet is visible ASCII, a blank or a tab. -/
def isVisibleOctet (b : UInt8) : Bool := (32 ≤ b.toNat && b.toNat < 127) || b.toNat == 9

/-- The octets of a text, if it may be the value of a field. -/
def valueOfText? (s : String) : Option Bytes :=
  let bs := Utf8.encode s
  if bs.all isValueOctet then some bs else none

/-- The text of a value that is visible ASCII. -/
def visibleText? (value : Bytes) : Option String :=
  if value.all isVisibleOctet then
    some (String.ofList (value.map fun b => Char.ofNat b.toNat))
  else none

/-- The fields of a message: names in lower case, in the order in which they were added. -/
structure Headers where
  /-- The fields. -/
  fields : List (String × Bytes)
  deriving Repr, DecidableEq, Inhabited

namespace Headers

/-- No field. -/
def empty : Headers := ⟨[]⟩

/-- Fields with names in any case. -/
def ofList (fields : List (String × Bytes)) : Headers :=
  ⟨fields.map fun (name, value) => (lowerName name, value)⟩

/-- The values of a field, by its name in lower case. -/
def values (h : Headers) (name : String) : List Bytes :=
  (h.fields.filter fun f => f.1 = name).map Prod.snd

/-- The first value of a field, by its name in any case. -/
def first? (h : Headers) (name : String) : Option Bytes :=
  (h.values (lowerName name)).head?

/-- Whether there is a field of the name in lower case. -/
def has (h : Headers) (name : String) : Bool := h.fields.any fun f => f.1 = name

/-- Adds a value to a field. -/
def append (h : Headers) (name : String) (value : Bytes) : Headers :=
  ⟨h.fields ++ [(name, value)]⟩

/-- Keeps the fields with certain names. -/
def keep (h : Headers) (p : String → Bool) : Headers := ⟨h.fields.filter fun f => p f.1⟩

/-- Removes a field. -/
def remove (h : Headers) (name : String) : Headers := h.keep (· ≠ name)

/-- Gives a field a single value. -/
def set (h : Headers) (name : String) (value : Bytes) : Headers :=
  (h.remove name).append name value

variable (h : Headers) (name other : String) (value : Bytes)

@[simp] theorem values_append :
    (h.append name value).values other =
      h.values other ++ if name = other then [value] else [] := by
  by_cases e : name = other <;> simp [append, values, e]

theorem values_keep (p : String → Bool) :
    (h.keep p).values other = if p other then h.values other else [] := by
  simp only [keep, values, List.filter_filter]
  split
  · congr 1
    apply List.filter_congr
    intro f _
    by_cases e : f.1 = other <;> simp_all
  · rw [List.map_eq_nil_iff, List.filter_eq_nil_iff]
    intro f _
    by_cases e : f.1 = other <;> simp_all

@[simp] theorem values_remove :
    (h.remove name).values other = if other = name then [] else h.values other := by
  rw [remove, values_keep]
  by_cases e : other = name <;> simp [e]

@[simp] theorem values_set :
    (h.set name value).values other = if other = name then [value] else h.values other := by
  rw [set, values_append, values_remove]
  by_cases e : other = name
  · simp [e]
  · have e2 : ¬name = other := Ne.symm e
    simp [e, e2]

end Headers

end Http

end ClusterGateway

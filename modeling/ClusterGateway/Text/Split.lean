/-!
# Cutting a text at separators

`Text.cut?` divides a text at the first occurrence of a character, `Text.pieces` at every
occurrence of one, and `Text.piecesAt` at every occurrence of a longer separator, taken from the
left and not overlapping.  Pieces may be empty, and there is always at least one.
-/

namespace ClusterGateway

namespace Text

/-- The characters before and after the first `sep`; nothing when `sep` does not occur. -/
def cutChars? (sep : Char) : List Char → Option (List Char × List Char)
  | [] => none
  | c :: cs =>
    if c = sep then some ([], cs)
    else (cutChars? sep cs).map fun (before, after) => (c :: before, after)

/-- The texts before and after the first `sep`; nothing when `sep` does not occur. -/
def cut? (sep : Char) (s : String) : Option (String × String) :=
  (cutChars? sep s.toList).map fun (before, after) => (String.ofList before, String.ofList after)

/-- The pieces between the occurrences of `sep`. -/
def piecesChars (sep : Char) : List Char → List (List Char)
  | [] => [[]]
  | c :: cs =>
    if c = sep then [] :: piecesChars sep cs
    else match piecesChars sep cs with
      | [] => [[c]]
      | p :: ps => (c :: p) :: ps

/-- The pieces of a text between the occurrences of `sep`. -/
def pieces (sep : Char) (s : String) : List String :=
  (piecesChars sep s.toList).map String.ofList

/-- The pieces between the occurrences of the separator that starts with `first` and goes on with
`more`. -/
def piecesAtChars (first : Char) (more : List Char) : List Char → List (List Char)
  | [] => [[]]
  | c :: cs =>
    if c = first ∧ more.isPrefixOf cs = true then
      [] :: piecesAtChars first more (cs.drop more.length)
    else match piecesAtChars first more cs with
      | [] => [[c]]
      | p :: ps => (c :: p) :: ps
termination_by cs => cs.length
decreasing_by
  · simp only [List.length_drop, List.length_cons]; omega
  · simp

/-- The pieces of a text between the occurrences of the separator that starts with `first` and
goes on with `more`. -/
def piecesAt (first : Char) (more : String) (s : String) : List String :=
  (piecesAtChars first more.toList s.toList).map String.ofList

/-- What follows a start; nothing if the text does not start like that. -/
def after? (start s : String) : Option String :=
  if start.toList.isPrefixOf s.toList then some (String.ofList (s.toList.drop start.length))
  else none

theorem piecesChars_ne_nil (sep : Char) (cs : List Char) : piecesChars sep cs ≠ [] := by
  cases cs with
  | nil => simp [piecesChars]
  | cons c cs =>
    rw [piecesChars]
    split
    · simp
    · split <;> simp

end Text

end ClusterGateway

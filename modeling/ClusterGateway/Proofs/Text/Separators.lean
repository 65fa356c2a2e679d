import ClusterGateway.Proofs.Text.Pieces
import Mathlib.Data.List.Infix

/-!
# Separators of several characters

A text is cut at every occurrence of a separator, from the left and without overlap.  The pieces
joined by the separator are the text again, and none of them holds the separator; a separator of one
character is a special case (`Text.piecesAtChars_nil`).

* `Text.intercalate_piecesAt`, `Text.intercalate_pieces` : **the pieces joined are the text**.
* `Text.not_infix_of_mem_piecesAt`, `Text.not_mem_of_mem_pieces` : **no piece holds the
  separator**.
-/

namespace ClusterGateway

namespace Text

variable {first : Char} {more : List Char} {cs p : List Char}

theorem piecesAtChars_ne_nil (first : Char) (more cs : List Char) :
    piecesAtChars first more cs ≠ [] := by
  cases cs with
  | nil => simp [piecesAtChars]
  | cons c cs =>
    rw [piecesAtChars]
    split
    · simp
    · split <;> simp

theorem intercalate_piecesAtChars (first : Char) (more cs : List Char) :
    (first :: more).intercalate (piecesAtChars first more cs) = cs := by
  fun_induction piecesAtChars first more cs with
  | case1 => simp
  | case2 c cs h ih =>
    -- a separator: an empty piece in front of those of what follows
    obtain ⟨rfl, hmore⟩ := h
    obtain ⟨rest, rfl⟩ := List.isPrefixOf_iff_prefix.1 hmore
    rw [List.drop_left] at ih ⊢
    obtain ⟨q, qs, hq⟩ := List.exists_cons_of_ne_nil (piecesAtChars_ne_nil c more rest)
    rw [hq] at ih ⊢
    rw [List.intercalate_cons_cons, ih]
    rfl
  | case3 c cs h hnil ih => exact absurd hnil (piecesAtChars_ne_nil first more cs)
  | case4 c cs h q qs hq ih =>
    rw [hq] at ih
    rw [← ih]
    cases qs with
    | nil => simp
    | cons r rs => simp [List.intercalate_cons_cons]

theorem prefix_of_piecesAtChars {q : List Char} {qs : List (List Char)}
    (h : piecesAtChars first more cs = q :: qs) : q <+: cs := by
  have hjoined := intercalate_piecesAtChars first more cs
  rw [h] at hjoined
  rw [← hjoined]
  cases qs with
  | nil => simp
  | cons r rs =>
    rw [List.intercalate_cons_cons, List.append_assoc]
    exact List.prefix_append _ _

theorem not_infix_of_mem_piecesAtChars (h : p ∈ piecesAtChars first more cs) :
    ¬first :: more <:+: p := by
  fun_induction piecesAtChars first more cs generalizing p with
  | case1 =>
    rw [List.mem_singleton] at h
    simp [h]
  | case2 c cs hstands ih =>
    rcases List.mem_cons.1 h with rfl | h
    · simp
    · exact ih h
  | case3 c cs hstands hnil ih => exact absurd hnil (piecesAtChars_ne_nil first more cs)
  | case4 c cs hstands q qs hq ih =>
    rw [hq] at ih
    rcases List.mem_cons.1 h with rfl | h
    · -- the first piece starts like the text, so the separator does not start it either
      rw [List.infix_cons_iff, List.cons_prefix_cons]
      rintro (⟨rfl, hmore⟩ | hinfix)
      · exact hstands ⟨rfl, List.isPrefixOf_iff_prefix.2
          (hmore.trans (prefix_of_piecesAtChars hq))⟩
      · exact ih List.mem_cons_self hinfix
    · exact ih (List.mem_cons_of_mem q h)

/-- A separator of one character. -/
theorem piecesAtChars_nil (sep : Char) (cs : List Char) :
    piecesAtChars sep [] cs = piecesChars sep cs := by
  induction cs with
  | nil => rw [piecesAtChars, piecesChars]
  | cons c cs ih => simp [piecesAtChars, piecesChars, ih]

/-! ### Texts -/

variable {s t : String}

theorem piecesAt_ne_nil (first : Char) (more s : String) : piecesAt first more s ≠ [] := by
  rw [piecesAt, ne_eq, List.map_eq_nil_iff]
  exact piecesAtChars_ne_nil _ _ _

/-- **The pieces joined by the separator are the text.** -/
theorem intercalate_piecesAt (first : Char) (more s : String) :
    (String.ofList (first :: more.toList)).intercalate (piecesAt first more s) = s := by
  rw [← String.toList_inj, String.toList_intercalate, piecesAt, List.map_map]
  simp [Function.comp_def, intercalate_piecesAtChars]

/-- **No piece holds the separator.** -/
theorem not_infix_of_mem_piecesAt {more : String} (h : t ∈ piecesAt first more s) :
    ¬first :: more.toList <:+: t.toList := by
  obtain ⟨p, hp, rfl⟩ := List.mem_map.1 h
  rw [String.toList_ofList]
  exact not_infix_of_mem_piecesAtChars hp

theorem piecesAt_empty (sep : Char) (s : String) : piecesAt sep "" s = pieces sep s := by
  rw [piecesAt, pieces, String.toList_empty, piecesAtChars_nil]

theorem intercalate_pieces (sep : Char) (s : String) :
    (String.singleton sep).intercalate (pieces sep s) = s := by
  rw [← piecesAt_empty]
  exact intercalate_piecesAt sep "" s

theorem not_mem_of_mem_pieces {sep : Char} (h : t ∈ pieces sep s) : sep ∉ t.toList := by
  rw [← piecesAt_empty] at h
  have hnot := not_infix_of_mem_piecesAt h
  rwa [String.toList_empty, List.singleton_infix_iff] at hnot

end Text

end ClusterGateway

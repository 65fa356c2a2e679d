import ClusterGateway.Text.Split
import Mathlib.Data.List.Basic

/-!
# Parts of a text

What the pieces of a text between separators have to do with the text: they hold nothing but
characters of it, a text that is put together has the pieces of its parts, and pieces without the
separator are recovered from the text in which they stand between separators.
-/

namespace ClusterGateway

namespace Text

/-! ### The first separator -/

theorem cutChars?_of_not_mem {sep : Char} {cs : List Char} (h : sep ∉ cs) :
    cutChars? sep cs = none := by
  induction cs with
  | nil => rfl
  | cons c cs ih =>
    rw [List.mem_cons, not_or] at h
    rw [cutChars?, if_neg (Ne.symm h.1), ih h.2, Option.map_none]

theorem cutChars?_append {sep : Char} {before : List Char} (h : sep ∉ before)
    (after : List Char) : cutChars? sep (before ++ sep :: after) = some (before, after) := by
  induction before with
  | nil => simp [cutChars?]
  | cons c before ih =>
    rw [List.mem_cons, not_or] at h
    rw [List.cons_append, cutChars?, if_neg (Ne.symm h.1), ih h.2, Option.map_some]

theorem cutChars?_cases (sep : Char) (cs : List Char) :
    sep ∉ cs ∧ cutChars? sep cs = none ∨
      ∃ before after, sep ∉ before ∧ cs = before ++ sep :: after ∧
        cutChars? sep cs = some (before, after) := by
  by_cases hmem : sep ∈ cs
  · obtain ⟨before, after, rfl, hnot⟩ := List.eq_append_cons_of_mem hmem
    exact .inr ⟨before, after, hnot, rfl, cutChars?_append hnot after⟩
  · exact .inl ⟨hmem, cutChars?_of_not_mem hmem⟩

/-! ### Pieces -/

theorem subset_of_mem_piecesChars {sep : Char} {cs p : List Char} (h : p ∈ piecesChars sep cs) :
    p ⊆ cs := by
  induction cs generalizing p with
  | nil => simp_all [piecesChars]
  | cons c cs ih =>
    rw [piecesChars] at h
    split at h
    · -- the separator begins a new piece
      rcases List.mem_cons.1 h with rfl | h
      · exact List.nil_subset _
      · exact List.subset_cons_of_subset c (ih h)
    · split at h
      · rename_i hnil
        exact absurd hnil (piecesChars_ne_nil sep cs)
      · rename_i q qs hq
        rcases List.mem_cons.1 h with rfl | h
        · exact List.cons_subset_cons c (ih (hq ▸ List.mem_cons_self))
        · exact List.subset_cons_of_subset c (ih (hq ▸ List.mem_cons_of_mem q h))

theorem toList_subset_of_mem_pieces {sep : Char} {s p : String} (h : p ∈ pieces sep s) :
    p.toList ⊆ s.toList := by
  obtain ⟨cs, hcs, rfl⟩ := List.mem_map.1 h
  rw [String.toList_ofList]
  exact subset_of_mem_piecesChars hcs

theorem piecesChars_append_cons (sep : Char) (as bs : List Char) :
    piecesChars sep (as ++ sep :: bs) = piecesChars sep as ++ piecesChars sep bs := by
  induction as with
  | nil => simp [piecesChars]
  | cons c as ih =>
    by_cases hc : c = sep
    · simp [piecesChars, hc, ih]
    · obtain ⟨p, ps, hps⟩ := List.exists_cons_of_ne_nil (piecesChars_ne_nil sep as)
      simp [piecesChars, hc, ih, hps]

theorem piecesChars_append {sep : Char} {p : List Char} (hp : sep ∉ p) (cs : List Char) :
    piecesChars sep (p ++ cs) = (piecesChars sep cs).modifyHead (p ++ ·) := by
  induction p with
  | nil => cases h : piecesChars sep cs <;> simp [h]
  | cons c p ih =>
    simp only [List.mem_cons, not_or] at hp
    rw [List.cons_append, piecesChars, if_neg (Ne.symm hp.1), ih hp.2]
    cases h : piecesChars sep cs with
    | nil => exact absurd h (piecesChars_ne_nil sep cs)
    | cons q qs => rfl

theorem piecesChars_of_not_mem {sep : Char} {cs : List Char} (h : sep ∉ cs) :
    piecesChars sep cs = [cs] := by
  have hsingle := piecesChars_append h []
  rwa [List.append_nil, piecesChars, List.modifyHead_cons, List.append_nil] at hsingle

/-! ### Separators between pieces -/

theorem split_intercalate {f : List Char → List (List Char)} {sep : Char}
    {pieces : List (List Char)} (hnil : f [] = [[]]) (hsep : ∀ cs, f (sep :: cs) = [] :: f cs)
    (h : ∀ p ∈ pieces, ∀ cs, f (p ++ cs) = (f cs).modifyHead (p ++ ·)) (hne : pieces ≠ []) :
    f ([sep].intercalate pieces) = pieces := by
  induction pieces with
  | nil => exact absurd rfl hne
  | cons p ps ih =>
    have hp := h p List.mem_cons_self
    cases ps with
    | nil => simpa [hnil] using hp []
    | cons q qs =>
      have hrest := ih (fun q hq => h q (List.mem_cons_of_mem p hq)) (List.cons_ne_nil _ _)
      rw [List.intercalate_cons_cons, List.append_assoc, hp, List.singleton_append, hsep, hrest]
      simp

theorem piecesChars_intercalate {sep : Char} {pieces : List (List Char)}
    (h : ∀ p ∈ pieces, sep ∉ p) (hne : pieces ≠ []) :
    piecesChars sep ([sep].intercalate pieces) = pieces :=
  split_intercalate rfl (fun cs => by simp [piecesChars])
    (fun p hp cs => piecesChars_append (h p hp) cs) hne

theorem not_mem_intercalate {c sep : Char} {pieces : List (List Char)} (hc : c ≠ sep)
    (h : ∀ p ∈ pieces, c ∉ p) : c ∉ [sep].intercalate pieces := by
  induction pieces with
  | nil => exact List.not_mem_nil
  | cons p ps ih =>
    have hps := ih fun q hq => h q (List.mem_cons_of_mem p hq)
    cases ps with
    | nil => simpa using h p List.mem_cons_self
    | cons q qs =>
      rw [List.intercalate_cons_cons, List.append_assoc, List.mem_append, List.mem_append]
      rintro (hmem | hmem | hmem)
      · exact h p List.mem_cons_self hmem
      · exact hc (List.mem_singleton.1 hmem)
      · exact hps hmem

end Text

end ClusterGateway

import ClusterGateway.Proofs.Text.Digits
import ClusterGateway.Text.Blank
import Mathlib.Data.List.DropRight

/-!
# Blanks at the ends of a text

A text is trimmed if no blank stands at either end of it (`Text.IsTrimmed`).  Trimming makes every
text so and leaves such a text as it is.

* `Text.trimChars_surround` : **blanks that are put around a text are not seen** once it is trimmed.
-/

namespace ClusterGateway

namespace Text

variable {c : Char} {cs before after : List Char}

/-- There are blanks only. -/
def IsSpace (cs : List Char) : Prop := ∀ c ∈ cs, isBlank c = true

/-- The first character, if there is one, is no blank. -/
def StartsPlain (cs : List Char) : Prop := ∀ c ∈ cs.head?, isBlank c = false

/-- No blank stands at either end. -/
structure IsTrimmed (cs : List Char) : Prop where
  /-- Not at the start. -/
  start : StartsPlain cs
  /-- Not at the end. -/
  stop : ∀ c ∈ cs.getLast?, isBlank c = false

theorem isBlank_of_isDigit (h : c.isDigit = true) : isBlank c = false := by
  have hbounds := toNat_of_isDigit h
  simp only [isBlank, Bool.or_eq_false_iff, Bool.and_eq_false_iff, beq_eq_false_iff_ne,
    decide_eq_false_iff_not, ne_eq]
  omega

theorem trimStartChars_of_startsPlain (h : StartsPlain cs) : trimStartChars cs = cs := by
  cases cs with
  | nil => rfl
  | cons c cs => exact List.dropWhile_cons_of_neg (by simp [h c rfl])

theorem trimEndChars_eq (cs : List Char) : trimEndChars cs = cs.rdropWhile isBlank := rfl

theorem isPrefix_trimEndChars (cs : List Char) : trimEndChars cs <+: cs := List.rdropWhile_prefix _ _

theorem trimChars_sublist (cs : List Char) : List.Sublist (trimChars cs) cs :=
  (isPrefix_trimEndChars _).sublist.trans (List.dropWhile_sublist _)

theorem toList_trim (s : String) : (trim s).toList = trimChars s.toList := String.toList_ofList

theorem toList_trim_subset (s : String) : (trim s).toList ⊆ s.toList := by
  rw [toList_trim]
  exact (trimChars_sublist s.toList).subset

/-! ### Trimmed texts -/

theorem IsTrimmed.trimChars_eq (h : IsTrimmed cs) : trimChars cs = cs := by
  rw [trimChars, trimStartChars_of_startsPlain h.start, trimEndChars_eq, List.rdropWhile_eq_self_iff]
  intro hne
  simp [h.stop _ (List.getLast_mem_getLast? hne)]

theorem isTrimmed_trimChars (cs : List Char) : IsTrimmed (trimChars cs) where
  start c hc := by
    -- trimming the end leaves the first character where it was
    obtain ⟨rest, hrest⟩ : trimChars cs <+: trimStartChars cs := isPrefix_trimEndChars _
    have hhead : (cs.dropWhile isBlank).head? = some c := by
      rw [← trimStartChars, ← hrest, List.head?_append, hc, Option.some_or]
    have hnot := List.head?_dropWhile_not isBlank cs
    rwa [hhead] at hnot
  stop c hc := by
    obtain ⟨hne, rfl⟩ := List.mem_getLast?_eq_getLast hc
    exact Bool.eq_false_iff.2 (List.rdropWhile_last_not isBlank (trimStartChars cs) hne)

theorem trimChars_trimChars (cs : List Char) : trimChars (trimChars cs) = trimChars cs :=
  (isTrimmed_trimChars cs).trimChars_eq

theorem IsTrimmed.of_forall (h : ∀ c ∈ cs, isBlank c = false) : IsTrimmed cs where
  start c hc := h c (List.mem_of_mem_head? hc)
  stop c hc := h c (List.mem_of_mem_getLast? hc)

theorem IsTrimmed.cons (h : IsTrimmed cs) (hc : isBlank c = false) : IsTrimmed (c :: cs) where
  start d hd := Option.some.inj hd ▸ hc
  stop d hd := by
    rw [List.getLast?_cons, Option.mem_some] at hd
    subst hd
    cases hlast : cs.getLast? with
    | none => exact hc
    | some d => exact h.stop d hlast

theorem trimChars_of_startsPlain (h : StartsPlain cs) : trimChars cs = trimEndChars cs := by
  rw [trimChars, trimStartChars_of_startsPlain h]

theorem trimChars_cons (hc : isBlank c = false) (cs : List Char) :
    trimChars (c :: cs) = c :: trimEndChars cs := by
  have hstart : StartsPlain (c :: cs) := fun d hd => Option.some.inj hd ▸ hc
  rw [trimChars_of_startsPlain hstart, trimEndChars, trimEndChars, List.reverse_cons,
    List.dropWhile_append]
  split
  · rename_i hnil
    simp [hc, List.isEmpty_iff.1 hnil]
  · simp

/-- **Blanks around a text** are not seen once it is trimmed. -/
theorem trimChars_surround (hbefore : IsSpace before) (hafter : IsSpace after) :
    trimChars (before ++ cs ++ after) = trimChars cs := by
  have hend : IsSpace after.reverse := fun c hc => hafter c (List.mem_reverse.1 hc)
  rw [trimChars, trimStartChars, List.append_assoc, List.dropWhile_append_of_pos hbefore,
    List.dropWhile_append, trimChars]
  split
  · -- nothing but blanks is there
    rename_i hnil
    rw [trimStartChars, List.isEmpty_iff.1 hnil, List.dropWhile_eq_nil_iff.2 hafter]
  · rw [trimEndChars, List.reverse_append, List.dropWhile_append_of_pos hend]
    rfl

end Text

end ClusterGateway

import ClusterGateway.Proofs.Text.Blanks
import ClusterGateway.Proofs.Time.Timestamp

/-!
# Timestamps that are rendered

What `Rfc3339.render` writes for an instant whose year has four digits is a timestamp of this
instant, and the relaxed reader takes every timestamp for what it is.

* `Rfc3339.exists_text_eq_render` : **an instant is rendered as one of its timestamps**.
* `Rfc3339.parseRelaxed?_text` : **the relaxed reader reads every timestamp as its instant**, as
  the strict one does.
* `Rfc3339.parseRelaxed?_render` : an instant that is rendered is read back.
-/

namespace ClusterGateway

namespace Time

namespace Rfc3339

variable {rest : List Char}

/-! ### Rendering -/

theorem isFraction_padded {width n : Nat} (hpos : 0 < width) (hwidth : width ≤ 9)
    (h : n < 10 ^ width) : IsFraction (n * 10 ^ (9 - width)) (padded width n) where
  isDigit _ := isDigit_of_mem_padded
  decimal_eq := by
    rw [decimal_padded, length_padded hpos h, Nat.mul_assoc, ← Nat.pow_add,
      Nat.sub_add_cancel hwidth]

theorem exists_fractionText {nanos : Nat} (h : nanos < 10 ^ 9) :
    ∃ ds, fractionText ds = fractionChars nanos ∧ IsFraction nanos ds := by
  have hdigits {width n : Nat} (hpos : 0 < width) (hwidth : width ≤ 9) (hn : n < 10 ^ width)
      (hnanos : nanos = n * 10 ^ (9 - width)) :
      ∃ ds, fractionText ds = '.' :: padded width n ∧ IsFraction nanos ds := by
    have hne : padded width n ≠ [] :=
      List.ne_nil_of_length_pos (Nat.lt_of_lt_of_eq hpos (length_padded hpos hn).symm)
    exact ⟨_, if_neg hne, hnanos ▸ isFraction_padded hpos hwidth hn⟩
  rw [fractionChars]
  split
  · rename_i hzero
    exact ⟨[], rfl, hzero ▸ ⟨nofun, rfl⟩⟩
  split
  · exact hdigits (by omega) (by omega) (by omega) (by omega)
  split
  · exact hdigits (by omega) (by omega) (by omega) (by omega)
  · exact hdigits (by omega) (by omega) (by omega) (by omega)

/-- **An instant is rendered as one of its timestamps.** -/
theorem exists_text_eq_render {t : Instant} (hnanos : t.nanos < 10 ^ 9)
    (hyear : 0 ≤ (localDate t 0).year ∧ (localDate t 0).year ≤ 9999) :
    ∃ s : Timestamp, s.text = render t ∧ s.instant = t := by
  obtain ⟨fraction, htext, hfraction⟩ := exists_fractionText hnanos
  have hlocal : 0 ≤ (localDate t (Zone.utc true).offset).year ∧
      (localDate t (Zone.utc true).offset).year ≤ 9999 := hyear
  have hwrites := Timestamp.writes_ofInstant hlocal hfraction
  refine ⟨_, congrArg String.ofList ?_, Timestamp.instant_of_writes hwrites⟩
  have hleap : ¬Instant.nanosPerSecond ≤ t.nanos := Nat.not_le.2 hnanos
  have hfour : yearChars (localDate t 0).year = padded 4 (localDate t 0).year.toNat := if_pos hyear
  rw [localChars]
  simp only [if_neg hleap, Nat.zero_mul, Nat.sub_zero, Nat.add_zero, ← htext]
  rw [localDate] at hfour
  rw [hfour]
  simp only [List.append_assoc, List.cons_append]
  rfl

/-! ### The relaxed reader -/

theorem skipBlank_cons {c : Char} (h : Text.isBlank c = false) (cs : List Char) :
    skipBlank (c :: cs) = c :: cs := by
  rw [skipBlank, Text.trimStartChars, List.dropWhile_cons_of_neg (by simp [h])]

theorem number?_padded_of_le {low width n : Nat} (hlow : low ≤ width) (hpos : 0 < width)
    (h : n < 10 ^ width) (rest : List Char) :
    number? low width (padded width n ++ rest) = some (n, rest) := by
  have hlength := length_padded hpos h
  rw [number?, takeDigits_append (fun _ => isDigit_of_mem_padded) (.inl hlength)]
  dsimp only
  rw [if_pos (hlow.trans hlength.ge), digitsValue_eq, decimal_padded]

theorem exists_padded {width n : Nat} (hpos : 0 < width) (h : n < 10 ^ width) :
    ∃ c cs, padded width n = c :: cs ∧ c.isDigit = true := by
  obtain ⟨c, cs, hfront⟩ := List.exists_cons_of_length_pos
    (Nat.lt_of_lt_of_eq hpos (length_padded hpos h).symm)
  exact ⟨c, cs, hfront, isDigit_of_mem_padded (hfront ▸ List.mem_cons_self)⟩

theorem skipBlank_padded {width n : Nat} (hpos : 0 < width) (h : n < 10 ^ width)
    (rest : List Char) : skipBlank (padded width n ++ rest) = padded width n ++ rest := by
  obtain ⟨c, cs, hfront, hdigit⟩ := exists_padded hpos h
  rw [hfront, List.cons_append, skipBlank_cons (Text.isBlank_of_isDigit hdigit)]

theorem relaxedTwo?_padded {n : Nat} (h : n < 10 ^ 2) (rest : List Char) :
    relaxedTwo? (padded 2 n ++ rest) = some (n, rest) := by
  rw [relaxedTwo?, skipBlank_padded (by omega) h, number?_padded_of_le (by omega) (by omega) h]

theorem relaxedYear?_padded {n : Nat} (h : n < 10 ^ 4) (rest : List Char) :
    relaxedYear? (padded 4 n ++ rest) = some ((n : Int), rest) := by
  obtain ⟨c, cs, hfront, hdigit⟩ := exists_padded (by omega) h
  rw [relaxedYear?, skipBlank_padded (by omega) h]
  split
  · rename_i heq
    rw [hfront, List.cons_append, List.cons.injEq] at heq
    rw [heq.1] at hdigit
    cases hdigit
  · rename_i heq
    rw [hfront, List.cons_append, List.cons.injEq] at heq
    rw [heq.1] at hdigit
    cases hdigit
  · rw [number?_padded_of_le (by omega) (by omega) h]
    rfl

theorem expect_skipBlank {c : Char} (h : Text.isBlank c = false) (rest : List Char) :
    expect c (skipBlank (c :: rest)) = some rest := by
  rw [skipBlank_cons h, expect_eq_some_iff]

theorem offset?_chars {separator : List Char → Option (List Char)}
    (hseparator : ∀ n < 60, separator (':' :: (padded 2 n ++ rest)) = some (padded 2 n ++ rest))
    (z : Zone) : offset? separator (z.chars ++ rest) = some (z.offset, rest) := by
  cases z with
  | utc capital => cases capital <;> rfl
  | shifted sign hours minutes =>
    have hhours : (hours : Nat) < 10 ^ 2 := by omega
    have hminutes : (minutes : Nat) < 10 ^ 2 := by omega
    rw [Zone.chars, List.cons_append, List.append_assoc, List.cons_append]
    cases sign
    all_goals
      refine Option.bind_eq_some_iff.2 ⟨_, number?_padded (by omega) hhours _, ?_⟩
      refine Option.bind_eq_some_iff.2 ⟨_, hseparator _ minutes.isLt, ?_⟩
      refine Option.bind_eq_some_iff.2 ⟨_, number?_padded (by omega) hminutes _, ?_⟩
      exact if_pos ⟨minutes.isLt, hours.isLt⟩

theorem skipSeparators_colon {n : Nat} (h : n < 60) :
    relaxedOffset?.skipSeparators (':' :: (padded 2 n ++ rest)) = some (padded 2 n ++ rest) := by
  have htwo : n < 10 ^ 2 := by omega
  obtain ⟨c, cs, hfront, hdigit⟩ := exists_padded (by omega) htwo
  have hcolon : c ≠ ':' := by
    rintro rfl
    cases hdigit
  rw [relaxedOffset?.skipSeparators, hfront, List.dropWhile_cons_of_pos (by decide),
    List.cons_append, List.dropWhile_cons_of_neg (by simp [hcolon, Text.isBlank_of_isDigit hdigit])]

theorem relaxedOffset?_chars (z : Zone) :
    relaxedOffset? (skipBlank z.chars) = some (z.offset, []) := by
  have hread : offset? relaxedOffset?.skipSeparators (z.chars ++ []) = some (z.offset, []) :=
    offset?_chars (fun n hn => skipSeparators_colon hn) z
  rw [List.append_nil] at hread
  cases z with
  | utc capital => cases capital <;> rfl
  | shifted sign hours minutes =>
    have hfront : Text.isBlank sign.char = false ∧ sign.char.toUpper ≠ 'U' := by
      cases sign <;> decide
    rw [Zone.chars] at hread ⊢
    rw [skipBlank_cons hfront.1, relaxedOffset?.eq_def]
    split
    · rename_i heq
      rw [← (List.cons.inj heq).1, if_neg (fun h => hfront.2 h.1)]
      exact hread
    · exact hread

/-- **The relaxed reader reads every timestamp as its instant.** -/
theorem parseRelaxed?_text (s : Timestamp) : parseRelaxed? s.text = some s.instant := by
  obtain ⟨hmonth, hday⟩ : s.month ≤ 12 ∧ s.day ≤ 31 := Date.bounds_of_isValid s.isValid
  have hchars : s.text.toList = s.chars := String.toList_ofList
  rw [parseRelaxed?, hchars]
  refine Option.bind_eq_some_iff.2 ⟨_, relaxedYear?_padded s.year.isLt _, ?_⟩
  refine Option.bind_eq_some_iff.2 ⟨_, expect_skipBlank rfl _, ?_⟩
  refine Option.bind_eq_some_iff.2 ⟨_, relaxedTwo?_padded (by omega) _, ?_⟩
  refine Option.bind_eq_some_iff.2 ⟨_, expect_skipBlank rfl _, ?_⟩
  refine Option.bind_eq_some_iff.2 ⟨_, relaxedTwo?_padded (by omega) _, ?_⟩
  simp only [if_pos s.isDivider_divider, Option.bind_eq_bind, Option.bind_some]
  refine Option.bind_eq_some_iff.2 ⟨_, relaxedTwo?_padded (by omega) _, ?_⟩
  refine Option.bind_eq_some_iff.2 ⟨_, expect_skipBlank rfl _, ?_⟩
  refine Option.bind_eq_some_iff.2 ⟨_, relaxedTwo?_padded (by omega) _, ?_⟩
  refine Option.bind_eq_some_iff.2 ⟨_, expect_skipBlank rfl _, ?_⟩
  refine Option.bind_eq_some_iff.2 ⟨_, relaxedTwo?_padded (by omega) _, ?_⟩
  refine Option.bind_eq_some_iff.2
    ⟨_, fraction?_append s.isDigit_fraction (by simpa using s.zone.head_chars []), ?_⟩
  refine Option.bind_eq_some_iff.2 ⟨_, relaxedOffset?_chars s.zone, ?_⟩
  exact (if_pos rfl).trans s.instant?_parts

/-- **An instant that is rendered is read back.** -/
theorem parseRelaxed?_render {t : Instant} (hnanos : t.nanos < 10 ^ 9)
    (hyear : 0 ≤ (localDate t 0).year ∧ (localDate t 0).year ≤ 9999) :
    parseRelaxed? (render t) = some t := by
  obtain ⟨s, htext, hinstant⟩ := exists_text_eq_render hnanos hyear
  rw [← htext, parseRelaxed?_text, hinstant]

end Rfc3339

end Time

end ClusterGateway

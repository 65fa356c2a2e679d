import ClusterGateway.Proofs.Quantity.Words
import ClusterGateway.Proofs.Text.Utf8

/-!
# Rendered amounts are read back

What is written for processor time and memory is an integer with a suffix, and such a text is an
amount itself (`Quantity.Written.ofInt`).

* `Quantity.parse?_ofInt` : an integer with a suffix is read as what it says, as long as it fits.
* `Quantity.memory?_mebi` : **mebibytes are written as they were read** if they fit as bytes.
* `Quantity.cpu?_milli` : **thousandths are written as they were read** if their thousandfold fits,
  and are not read otherwise.
* `Quantity.renderings_read_back` : what is written for memory always fits, so that it is always
  read back, and the same holds in words of 128 bits.
-/

namespace ClusterGateway

namespace Quantity

/-! ### Blanks -/

section Blanks

variable {c : Char}

theorem Sign.isBlank_of_mem {sign : Sign} (h : c ∈ sign.chars) : Text.isBlank c = false := by
  cases sign with
  | none => cases h
  | plus | minus =>
    rw [List.mem_singleton.1 h]
    decide

theorem Suffix.isBlank_of_mem {suffix : Suffix} (h : c ∈ suffix.chars) :
    Text.isBlank c = false := by
  cases suffix with
  | exponent capital e =>
    simp only [Suffix.chars, Exponent.chars, List.mem_cons, List.mem_append] at h
    rcases h with rfl | h | h
    · cases capital <;> decide
    · exact Sign.isBlank_of_mem h
    · exact Text.isBlank_of_isDigit (e.isDigit c h)
  | none => cases h
  | _ =>
    simp only [Suffix.chars, List.mem_cons, List.not_mem_nil, or_false] at h
    rcases h with rfl | rfl <;> decide

theorem isBlank_of_isNumeral (h : isNumeral c = true) : Text.isBlank c = false := by
  rcases isNumeral_iff.1 h with hdigit | rfl
  · exact Text.isBlank_of_isDigit hdigit
  · decide

theorem Written.trimChars_chars (w : Written) : Text.trimChars w.chars = w.chars := by
  refine (Text.IsTrimmed.of_forall ?_).trimChars_eq
  intro c hc
  rw [chars, unsignedChars, List.mem_append, List.mem_append] at hc
  rcases hc with hc | hc | hc
  · exact Sign.isBlank_of_mem hc
  · exact isBlank_of_isNumeral (w.isNumeral c hc)
  · exact Suffix.isBlank_of_mem hc

end Blanks

/-! ### Integers with a suffix -/

namespace Written

variable {n : Int} {suffix : Suffix} {s : String}

/-- An integer as an amount: a minus if it is negative, its digits and a suffix. -/
def ofInt (n : Int) (suffix : Suffix) : Written where
  sign := if n < 0 then .minus else .none
  whole := Nat.toDigits 10 n.natAbs
  fraction := none
  suffix := suffix
  digits_ne_nil := by simp
  isDigit := by simpa using Text.isDigit_of_mem_toDigits

theorem chars_ofInt : (ofInt n suffix).chars = (toString n).toList ++ suffix.chars := by
  rw [Text.toList_toString_int]
  by_cases h : n < 0 <;> simp [ofInt, chars, unsignedChars, pointChars, Sign.chars, h]

theorem digits_ofInt : (ofInt n suffix).digits = n.natAbs := by
  simp [ofInt, digits, Text.decimal_toDigits]

theorem places_ofInt : (ofInt n suffix).places = 0 := rfl

theorem factor_ofInt : (ofInt n suffix).sign.factor * n.natAbs = n := by
  by_cases h : n < 0 <;> simp only [ofInt, h, if_true, if_false, Sign.factor] <;> omega

theorem isIn_ofInt (hs : s.toList = (toString n).toList ++ suffix.chars) :
    (ofInt n suffix).IsIn s := by
  rw [IsIn, hs, ← chars_ofInt, trimChars_chars]

end Written

/-- **An integer with a suffix is read as what it says**, as long as it fits. -/
theorem parse?_ofInt {s : String} (n : Int) (suffix : Suffix)
    (hs : s.toList = (toString n).toList ++ suffix.chars) (hpower : suffix.PowerFits)
    (hdown : suffix.down ≤ limit) : parse? s =
      if n.natAbs * suffix.up ≤ limit then some ⟨n * suffix.up, suffix.down⟩ else none := by
  have hone : powerOfTen? 0 = some 1 := rfl
  have hdenom : within? suffix.down = some suffix.down := within?_eq_some_iff.2 ⟨hdown, rfl⟩
  have hsmall : n.natAbs ≤ n.natAbs * suffix.up := Nat.le_mul_of_pos_right _ suffix.up_pos
  rw [parse?_of_isIn (Written.isIn_ofInt hs), parseUnsigned?_unsignedChars _ hpower,
    Written.digits_ofInt, Written.places_ofInt, hone]
  have hsuffix : (Written.ofInt n suffix).suffix = suffix := rfl
  simp only [Option.bind_eq_bind, Option.bind_some, hsuffix, Nat.one_mul, hdenom]
  split
  · rename_i hfits
    have hdigits : within? n.natAbs = some n.natAbs :=
      within?_eq_some_iff.2 ⟨hsmall.trans hfits, rfl⟩
    have hnumer : within? (n.natAbs * suffix.up) = some (n.natAbs * suffix.up) :=
      within?_eq_some_iff.2 ⟨hfits, rfl⟩
    have hsigned : (Written.ofInt n suffix).sign.factor * (n.natAbs * suffix.up : Nat) =
        n * suffix.up := by
      rw [Nat.cast_mul, ← Int.mul_assoc, Written.factor_ofInt]
    simp only [hdigits, hnumer, Option.bind_some, ← hsigned]
    rfl
  · rename_i hfits
    -- the digits may be out of bounds already, or only their product with the suffix is
    cases hdigits : within? n.natAbs with
    | none => rfl
    | some digits =>
      obtain ⟨-, rfl⟩ := within?_eq_some_iff.1 hdigits
      simp [within?, hfits]

/-! ### Rendered amounts -/

theorem ceilDiv_one (n : Int) : ceilDiv n 1 = n := by simp [ceilDiv]

theorem ceilDiv_mul_self (n : Int) {d : Nat} (hd : 0 < d) : ceilDiv (n * d) d = n := by
  rw [ceilDiv, ← Int.neg_mul, Int.mul_ediv_cancel _ (by omega), Int.neg_neg]

/-- **Mebibytes are written as they were read** if they fit as bytes. -/
theorem memory?_mebi (n : Int) : memory? (toString n ++ "Mi") =
    if n.natAbs * 2 ^ 20 ≤ limit then some (toString n ++ "Mi") else none := by
  have hread : parse? (toString n ++ "Mi") =
      if n.natAbs * 2 ^ 20 ≤ limit then some ⟨n * 2 ^ 20, 1⟩ else none :=
    parse?_ofInt n .mebi String.toList_append trivial (by decide)
  rw [memory?, value?, hread]
  split
  · simp only [Option.map_some, ceilDiv_one]
    rw [Int.pow_eq, Int.mul_tdiv_cancel n (by decide)]
  · rfl

/-- **Thousandths are written as they were read** if their thousandfold fits, and are not read
otherwise. -/
theorem cpu?_milli (m : Int) : cpu? (toString m ++ "m") =
    if 1000 * m.natAbs ≤ limit then some (toString m ++ "m") else none := by
  have hread : parse? (toString m ++ "m") =
      if m.natAbs * 1 ≤ limit then some ⟨m * 1, 1000⟩ else none :=
    parse?_ofInt m .milli String.toList_append trivial (by decide)
  rw [cpu?, milliValue?, hread, Nat.mul_one, Int.mul_one, Nat.mul_comm]
  by_cases hfits : m.natAbs * 1000 ≤ limit
  · have hsmall : m.natAbs ≤ limit := by omega
    have hwithin : within? (m.natAbs * 1000) = some (m.natAbs * 1000) :=
      within?_eq_some_iff.2 ⟨hfits, rfl⟩
    have hceil : ceilDiv (m * 1000) 1000 = m := ceilDiv_mul_self m (by decide)
    simp [hsmall, hfits, hwithin, hceil]
  · split <;> simp [within?, hfits]

theorem natAbs_ceilDiv_le (n : Int) (d : Nat) : (ceilDiv n d).natAbs ≤ n.natAbs := by
  rw [ceilDiv, Int.natAbs_neg, ← Int.natAbs_neg n]
  exact Int.natAbs_ediv_le_natAbs _ _

theorem natAbs_tdiv_mul_le (v : Int) : (v.tdiv (2 ^ 20)).natAbs * 2 ^ 20 ≤ v.natAbs := by
  rw [Int.natAbs_tdiv]
  exact Nat.div_mul_le_self _ _

theorem natAbs_le_limit_of_value? {s : String} {v : Int} (h : value? s = some v) :
    v.natAbs ≤ limit := by
  obtain ⟨q, hq, rfl⟩ := Option.map_eq_some_iff.1 h
  exact (natAbs_ceilDiv_le _ _).trans (Words.isFraction_of_parse? hq).1

theorem memory?_of_natAbs_le {v : Int} (h : v.natAbs ≤ limit) :
    memory? (toString (v.tdiv (2 ^ 20)) ++ "Mi") = some (toString (v.tdiv (2 ^ 20)) ++ "Mi") := by
  rw [memory?_mebi, if_pos ((natAbs_tdiv_mul_le v).trans h)]

/-! ### Rendered amounts in words -/

namespace Words

/-- Processor time in thousandths of a processor. -/
def cpu (s : String) : Run String := do
  let m ← milliValue s
  return toString m ++ "m"

/-- The value does not exceed the numerator, so that it is never the least word. -/
theorem yields_value_within (s : String) : Yields (fun v => v.natAbs ≤ limit) (value s) := by
  refine (yields_parse s).bind ?_
  rintro ⟨numer, _⟩ ⟨hnumer, d, hd, rfl⟩
  change Yields _ (ceilDiv numer d)
  rw [ceilDiv_eq (isWord_of_natAbs_le hnumer) hd]
  exact Yields.pure ((natAbs_ceilDiv_le numer d).trans hnumer)

theorem exists_of_memory {s t : String} (h : memory s = result (some t)) :
    ∃ v : Int, v.natAbs ≤ limit ∧ t = toString (v.tdiv (2 ^ 20)) ++ "Mi" := by
  obtain ⟨a, ha, hwithin⟩ := yields_value_within s
  rw [memory, ha] at h
  cases a with
  | none => cases Except.ok.inj h
  | some v =>
    have hv : v.natAbs ≤ limit := hwithin v rfl
    rw [result_some_bind, truncated_eq (isWord_of_natAbs_le hv), pure_bind] at h
    exact ⟨v, hv, (Option.some.inj (Except.ok.inj h)).symm⟩

theorem exists_of_cpu {s t : String} (h : cpu s = result (some t)) :
    ∃ m : Int, IsWord m ∧ t = toString m ++ "m" := by
  obtain ⟨a, ha, hword⟩ := yields_milliValue s
  rw [cpu, ha] at h
  cases a with
  | none => cases Except.ok.inj h
  | some m => exact ⟨m, hword m rfl, (Option.some.inj (Except.ok.inj h)).symm⟩

theorem cpu_eq {s : String} (h : (Utf8.encode s).length < 2 ^ 32) : cpu s = result (cpu? s) := by
  rw [cpu, milliValue_eq h, cpu?]
  cases milliValue? s <;> rfl

theorem length_encode_rendered {n : Int} (h : IsWord n) {suffix : String}
    (hsuffix : suffix.length ≤ 2) : (Utf8.encode (toString n ++ suffix)).length < 2 ^ 32 := by
  have hdigits : (Nat.toDigits 10 n.natAbs).length ≤ 39 := by
    rw [Nat.length_toDigits_le_iff (by omega) (by omega)]
    obtain ⟨hlow, hhigh⟩ := h
    omega
  have hsign : (if n < 0 then ['-'] else []).length ≤ 1 := by split <;> simp
  have hlength : (toString n ++ suffix).toList.length ≤ 42 := by
    rw [String.toList_append, Text.toList_toString_int, List.length_append, List.length_append,
      String.length_toList]
    omega
  have hfour := Utf8.length_encode_le (toString n ++ suffix)
  omega

end Words

/-! ### The round trip -/

/-- What holds of a text from which an amount is read and written again. -/
structure ReadsBack (s : String) : Prop where
  /-- What is written for memory is written again when it is read. -/
  memory (t : String) : memory? s = some t → memory? t = some t
  /-- For processor time an integer is written. -/
  cpu_form (t : String) : cpu? s = some t → ∃ m : Int, t = toString m ++ "m"
  /-- It is written again when it is read, if its thousandfold fits, and not read otherwise. -/
  cpu (m : Int) : cpu? s = some (toString m ++ "m") → cpu? (toString m ++ "m") =
    if 1000 * m.natAbs ≤ 2 ^ 127 - 1 then some (toString m ++ "m") else none
  /-- In words of 128 bits, however long the text is, memory is written again. -/
  memory_in_words (t : String) :
    Words.memory s = Words.result (some t) → Words.memory t = Words.result (some t)
  /-- The same for processor time. -/
  cpu_in_words (m : Int) : Words.cpu s = Words.result (some (toString m ++ "m")) →
    Words.cpu (toString m ++ "m") = Words.result
      (if 1000 * m.natAbs ≤ 2 ^ 127 - 1 then some (toString m ++ "m") else none)

/-- **Rendered amounts are read back.** -/
theorem renderings_read_back (s : String) : ReadsBack s where
  memory t h := by
    obtain ⟨v, hv, rfl⟩ := Option.map_eq_some_iff.1 h
    exact memory?_of_natAbs_le (natAbs_le_limit_of_value? hv)
  cpu_form t h := by
    obtain ⟨m, -, rfl⟩ := Option.map_eq_some_iff.1 h
    exact ⟨m, rfl⟩
  cpu m _ := cpu?_milli m
  memory_in_words t h := by
    obtain ⟨v, hv, rfl⟩ := Words.exists_of_memory h
    have hword : Words.IsWord (v.tdiv (2 ^ 20)) := by
      have hle := natAbs_tdiv_mul_le v
      exact Words.isWord_of_natAbs_le (by omega)
    rw [Words.memory_eq (Words.length_encode_rendered hword (by decide)), memory?_of_natAbs_le hv]
  cpu_in_words m h := by
    obtain ⟨word, hword, htext⟩ := Words.exists_of_cpu h
    have hshort : (Utf8.encode (toString m ++ "m")).length < 2 ^ 32 :=
      htext ▸ Words.length_encode_rendered hword (by decide)
    rw [Words.cpu_eq hshort, cpu?_milli, limit_eq]

/-- A negative amount of memory is read back, a negative amount of processor time too, and one
that is near the limit is not. -/
theorem renderings_read_back_nearLimit :
    memory? " -5242881 " = some "-5Mi" ∧ memory? "-5Mi" = some "-5Mi" ∧
      Words.memory " -5242881 " = Words.result (some "-5Mi") ∧
      Words.memory "-5Mi" = Words.result (some "-5Mi") ∧
      cpu? "-1500u" = some (toString (-1 : Int) ++ "m") ∧
      cpu? (toString (-1 : Int) ++ "m") = some (toString (-1 : Int) ++ "m") ∧
      cpu? "1e35" = some (toString (10 ^ 38 : Int) ++ "m") ∧
      cpu? (toString (10 ^ 38 : Int) ++ "m") = none ∧
      Words.cpu "1e35" = Words.result (some (toString (10 ^ 38 : Int) ++ "m")) ∧
      Words.cpu (toString (10 ^ 38 : Int) ++ "m") = Words.result none := by
  have hmemory : memory? " -5242881 " = some "-5Mi" := by decide
  have hsmall : cpu? "-1500u" = some (toString (-1 : Int) ++ "m") := by decide
  have hlarge : cpu? "1e35" = some (toString (10 ^ 38 : Int) ++ "m") := by decide +kernel
  have hmemoryWords : Words.memory " -5242881 " = Words.result (some "-5Mi") := by
    rw [Words.memory_eq (by decide), hmemory]
  have hlargeWords : Words.cpu "1e35" = Words.result (some (toString (10 ^ 38 : Int) ++ "m")) := by
    rw [Words.cpu_eq (by decide), hlarge]
  have hread := (renderings_read_back _).cpu _ hsmall
  have hunread := (renderings_read_back _).cpu _ hlarge
  have hunreadWords := (renderings_read_back _).cpu_in_words _ hlargeWords
  rw [if_pos (by decide)] at hread
  rw [if_neg (by decide)] at hunread hunreadWords
  exact ⟨hmemory, (renderings_read_back _).memory _ hmemory, hmemoryWords,
    (renderings_read_back _).memory_in_words _ hmemoryWords, hsmall, hread, hlarge, hunread,
    hlargeWords, hunreadWords⟩

end Quantity

end ClusterGateway

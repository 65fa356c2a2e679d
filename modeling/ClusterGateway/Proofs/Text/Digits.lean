import Mathlib.Data.Nat.Digits.Defs
import Mathlib.Tactic.Ring

/-!
# Decimal digits

The number that decimal digits write, the digit of least weight last, and how it is read from the
left.  Of so many digits only one sequence writes a number (`Text.decimal_injective`), and the text
of an integer is a sign, if it is negative, and digits that write its size
(`Text.toList_toString_int`, `Text.decimal_toDigits`).
-/

namespace ClusterGateway

namespace Text

/-- The number that decimal digits write. -/
def decimal (digits : List Char) : Nat :=
  Nat.ofDigits 10 (digits.reverse.map fun c => c.toNat - 48)

theorem foldl_digits (cs : List Char) (acc : Nat) :
    cs.foldl (fun n c => 10 * n + (c.toNat - 48)) acc =
      10 ^ cs.length * acc + Nat.ofDigits 10 (cs.reverse.map fun c => c.toNat - 48) := by
  induction cs generalizing acc with
  | nil => simp
  | cons c cs ih =>
    have hlength : (cs.reverse.map fun c => c.toNat - 48).length = cs.length := by simp
    rw [List.foldl_cons, ih, List.reverse_cons, List.map_append, Nat.ofDigits_append, hlength]
    simp only [List.map_singleton, Nat.ofDigits_singleton, List.length_cons, Nat.pow_succ]
    ring

theorem foldl_digits_zero (cs : List Char) :
    cs.foldl (fun n c => 10 * n + (c.toNat - 48)) 0 = decimal cs := by
  rw [foldl_digits, Nat.mul_zero, Nat.zero_add, decimal]

theorem decimal_append (cs ds : List Char) :
    decimal (cs ++ ds) = 10 ^ ds.length * decimal cs + decimal ds := by
  rw [← foldl_digits_zero, List.foldl_append, foldl_digits_zero, foldl_digits, decimal, decimal]

/-! ### Digits by their number -/

theorem toNat_of_isDigit {c : Char} (h : c.isDigit = true) : 48 ≤ c.toNat ∧ c.toNat ≤ 57 := by
  simp only [Char.isDigit, Bool.and_eq_true, decide_eq_true_eq, ge_iff_le] at h
  exact h

theorem digitChar_of_isDigit {c : Char} (h : c.isDigit = true) :
    Nat.digitChar (c.toNat - 48) = c := by
  have hbounds := toNat_of_isDigit h
  rw [← Char.toNat_inj, Nat.toNat_digitChar_of_lt_ten (by omega)]
  omega

theorem digits_lt {cs : List Char} (h : ∀ c ∈ cs, c.isDigit = true) :
    ∀ n ∈ cs.reverse.map fun c => c.toNat - 48, n < 10 := by
  intro n hn
  obtain ⟨c, hc, rfl⟩ := List.mem_map.1 hn
  have hbounds := toNat_of_isDigit (h c (List.mem_reverse.1 hc))
  omega

theorem decimal_lt {cs : List Char} (h : ∀ c ∈ cs, c.isDigit = true) :
    decimal cs < 10 ^ cs.length := by
  have hlength : (cs.reverse.map fun c => c.toNat - 48).length = cs.length := by simp
  rw [decimal, ← hlength]
  exact Nat.ofDigits_lt_base_pow_length (by omega) (digits_lt h)

/-- **A number is written by so many digits in one way only.** -/
theorem decimal_injective {cs ds : List Char} (hc : ∀ c ∈ cs, c.isDigit = true)
    (hd : ∀ c ∈ ds, c.isDigit = true) (hlength : cs.length = ds.length)
    (h : decimal cs = decimal ds) : cs = ds := by
  have hvalues : cs.reverse.map (fun c => c.toNat - 48) = ds.reverse.map fun c => c.toNat - 48 :=
    Nat.ofDigits_inj_of_len_eq (by omega) (by simpa using hlength) (digits_lt hc) (digits_lt hd) h
  rw [List.map_reverse, List.map_reverse, List.reverse_inj] at hvalues
  -- each digit is recovered from its value
  have hback {as : List Char} (ha : ∀ c ∈ as, c.isDigit = true) :
      (as.map fun c => c.toNat - 48).map Nat.digitChar = as := by
    rw [List.map_map]
    exact (List.map_congr_left fun c hc => digitChar_of_isDigit (ha c hc)).trans (List.map_id as)
  rw [← hback hc, ← hback hd, hvalues]

/-! ### The text of an integer -/

theorem isDigit_of_mem_toDigits {n : Nat} : ∀ c ∈ Nat.toDigits 10 n, c.isDigit = true :=
  fun _ hc => Nat.isDigit_of_mem_toDigits (by omega) (by omega) hc

theorem decimal_toDigits (n : Nat) : decimal (Nat.toDigits 10 n) = n :=
  (foldl_digits_zero _).symm.trans Nat.ofDigitChars_ten_toDigits

theorem toList_toString (n : Nat) : (toString n).toList = Nat.toDigits 10 n := by
  rw [Nat.toString_eq_ofList_toDigits, String.toList_ofList]

theorem toList_toString_int (n : Int) :
    (toString n).toList = (if n < 0 then ['-'] else []) ++ Nat.toDigits 10 n.natAbs := by
  cases n with
  | ofNat n => exact toList_toString n
  | negSucc n =>
    rw [if_pos (Int.negSucc_lt_zero n), Int.natAbs_negSucc, ← toList_toString]
    exact String.toList_append

end Text

end ClusterGateway

import ClusterGateway.Proofs.Quantity.Words
import Mathlib.Data.Rat.Floor
import Mathlib.Tactic.FieldSimp

/-!
# Amounts are exact

A written amount denotes a rational number (`Quantity.Written.amount`).  What is read from a text is
this number, rounded up once, with nothing lost before that.

* `Quantity.Written.amount_eq` : numerator and denominator make the number that is denoted.
* `Quantity.amounts_are_exact` : **which texts have an amount, that it is the least integer not
  below the number denoted, and that words of 128 bits suffice for it**.
-/

namespace ClusterGateway

namespace Quantity

/-! ### The number that is denoted -/

/-- The factor that a suffix means. -/
def Suffix.scale : Suffix → ℚ
  | none => 1
  | nano => 10 ^ (-9 : ℤ)
  | micro => 10 ^ (-6 : ℤ)
  | milli => 10 ^ (-3 : ℤ)
  | kilo => 10 ^ 3
  | mega => 10 ^ 6
  | giga => 10 ^ 9
  | tera => 10 ^ 12
  | peta => 10 ^ 15
  | exa => 10 ^ 18
  | kibi => 2 ^ 10
  | mebi => 2 ^ 20
  | gibi => 2 ^ 30
  | tebi => 2 ^ 40
  | pebi => 2 ^ 50
  | exbi => 2 ^ 60
  | exponent _ e => 10 ^ e.value

/-- The number that a written amount denotes. -/
def Written.amount (w : Written) : ℚ :=
  w.sign.factor * (Text.decimal w.whole + Text.decimal (w.fraction.getD []) / 10 ^ w.places) *
    w.suffix.scale

theorem Exponent.ten_zpow_value (e : Exponent) : (10 : ℚ) ^ e.value =
    if 0 ≤ e.value then (e.power : ℚ) else 1 / e.power := by
  rw [Exponent.power]
  push_cast
  split
  · rename_i h
    rw [← zpow_natCast, Int.natAbs_of_nonneg h]
  · rename_i h
    have hneg : e.value = -(e.value.natAbs : ℤ) := by omega
    rw [one_div, ← zpow_natCast, ← zpow_neg, ← hneg]

theorem Suffix.scale_eq (s : Suffix) : s.scale = s.up / s.down := by
  cases s with
  | exponent capital e =>
    rw [Suffix.scale, Suffix.up, Suffix.down, e.ten_zpow_value]
    split <;> simp
  | _ => norm_num [Suffix.scale, Suffix.up, Suffix.down]

/-- **Numerator and denominator make the number that is denoted.** -/
theorem Written.amount_eq (w : Written) :
    w.amount = ((w.sign.factor * w.numer : ℤ) : ℚ) / (w.denom : ℕ) := by
  have hdown : (w.suffix.down : ℚ) ≠ 0 := by
    have h := w.suffix.down_pos
    positivity
  have hplaces : (10 : ℚ) ^ w.places ≠ 0 := by positivity
  have hdigits : (w.digits : ℚ) =
      10 ^ w.places * Text.decimal w.whole + Text.decimal (w.fraction.getD []) := by
    rw [Written.digits, Text.decimal_append, Written.places]
    push_cast
    rfl
  rw [Written.amount, Suffix.scale_eq, Written.numer, Written.denom]
  push_cast
  rw [hdigits]
  field_simp

theorem ceilDiv_eq_ceil (n : Int) (d : Nat) : ceilDiv n d = ⌈(n : ℚ) / d⌉ :=
  (Rat.ceil_intCast_div_natCast n d).symm

/-! ### What is read -/

/-- What holds for a text whose length has 32 bits. -/
structure Exact (s : String) : Prop where
  /-- A text has a value just if it is a written amount whose numbers fit, and the value is the
  least integer not below the number that is denoted. -/
  value_iff (v : Int) :
    value? s = some v ↔ ∃ w : Written, w.IsIn s ∧ w.Fits ∧ v = ⌈w.amount⌉
  /-- In thousandths the numerator has to fit a thousandfold. -/
  milliValue_iff (m : Int) :
    milliValue? s = some m ↔
      ∃ w : Written, w.IsIn s ∧ w.Fits ∧ w.numer * 1000 ≤ limit ∧ m = ⌈1000 * w.amount⌉
  /-- Processor time is written in thousandths. -/
  cpu_iff (t : String) :
    cpu? s = some t ↔ ∃ m, milliValue? s = some m ∧ t = toString m ++ "m"
  /-- Memory is written in mebibytes, towards zero. -/
  memory_iff (t : String) :
    memory? s = some t ↔ ∃ v, value? s = some v ∧ t = toString (v.tdiv (2 ^ 20)) ++ "Mi"
  /-- In words of 128 bits no step fails, and the value is the same. -/
  value_in_words : Words.value s = Words.result (value? s)
  /-- The same for thousandths. -/
  milliValue_in_words : Words.milliValue s = Words.result (milliValue? s)
  /-- The same for memory. -/
  memory_in_words : Words.memory s = Words.result (memory? s)

theorem value?_eq_some_iff {s : String} {v : Int} :
    value? s = some v ↔ ∃ w : Written, w.IsIn s ∧ w.Fits ∧ v = ⌈w.amount⌉ := by
  rw [value?, Option.map_eq_some_iff]
  constructor
  · rintro ⟨q, hq, rfl⟩
    obtain ⟨w, hw, hfits, rfl⟩ := parse?_eq_some_iff.1 hq
    exact ⟨w, hw, hfits, by rw [ceilDiv_eq_ceil, w.amount_eq]⟩
  · rintro ⟨w, hw, hfits, rfl⟩
    exact ⟨_, parse?_eq_some_iff.2 ⟨w, hw, hfits, rfl⟩, by rw [ceilDiv_eq_ceil, w.amount_eq]⟩

theorem Written.ceil_thousand (w : Written) :
    ceilDiv (w.sign.factor * w.numer * 1000) w.denom = ⌈1000 * w.amount⌉ := by
  rw [ceilDiv_eq_ceil, w.amount_eq]
  congr 1
  push_cast
  ring

theorem milliValue?_eq_some_iff {s : String} {m : Int} :
    milliValue? s = some m ↔
      ∃ w : Written, w.IsIn s ∧ w.Fits ∧ w.numer * 1000 ≤ limit ∧ m = ⌈1000 * w.amount⌉ := by
  constructor
  · intro h
    obtain ⟨q, hq, h⟩ := Option.bind_eq_some_iff.1 h
    obtain ⟨n, hn, h⟩ := Option.bind_eq_some_iff.1 h
    obtain ⟨w, hw, hfits, rfl⟩ := parse?_eq_some_iff.1 hq
    rw [within?_eq_some_iff, Sign.natAbs_factor_mul] at hn
    cases h
    exact ⟨w, hw, hfits, hn.1, w.ceil_thousand⟩
  · rintro ⟨w, hw, hfits, hthousand, rfl⟩
    have hparse : parse? s = some ⟨w.sign.factor * w.numer, w.denom⟩ :=
      parse?_eq_some_iff.2 ⟨w, hw, hfits, rfl⟩
    have hwithin : within? ((w.sign.factor * w.numer).natAbs * 1000) = some (w.numer * 1000) := by
      rw [within?_eq_some_iff, Sign.natAbs_factor_mul]
      exact ⟨hthousand, rfl⟩
    simp [milliValue?, hparse, hwithin, w.ceil_thousand]

/-- **Amounts are exact.**  No text makes a step on words of 128 bits fail, and for a text whose
length has 32 bits it is said which amounts are read and what they are. -/
theorem amounts_are_exact (s : String) :
    (Words.Yields Words.IsWord (Words.value s) ∧ Words.Yields Words.IsWord (Words.milliValue s) ∧
      Words.Yields (fun _ => True) (Words.memory s)) ∧
      ((Utf8.encode s).length < 2 ^ 32 → Exact s) := by
  refine ⟨⟨Words.yields_value s, Words.yields_milliValue s, Words.yields_memory s⟩, fun h => ?_⟩
  refine ⟨fun v => value?_eq_some_iff, fun m => milliValue?_eq_some_iff, fun t => ?_, fun t => ?_,
    Words.value_eq h, Words.milliValue_eq h, Words.memory_eq h⟩
  · rw [cpu?, Option.map_eq_some_iff]
    simp only [eq_comm]
  · rw [memory?, Option.map_eq_some_iff]
    simp only [eq_comm]
    rfl

/-- A negative amount is rounded up, which is towards zero, and in words as without bounds. -/
theorem amounts_are_exact_negative :
    (Utf8.encode " -1.0005e3 ").length < 2 ^ 32 ∧
      (∃ w : Written, w.IsIn " -1.0005e3 " ∧ w.Fits ∧ -1000 = ⌈w.amount⌉) ∧
      Words.milliValue " -1.0005e3 " = Words.result (some (-1000500)) := by
  have hlength : (Utf8.encode " -1.0005e3 ").length < 2 ^ 32 := by decide
  have h := (amounts_are_exact " -1.0005e3 ").2 hlength
  refine ⟨hlength, (h.value_iff _).1 (by decide), ?_⟩
  rw [h.milliValue_in_words]
  exact congrArg Words.result (by decide)

end Quantity

end ClusterGateway

import ClusterGateway.Proofs.Quantity.Written
import ClusterGateway.Proofs.Text.Blanks
import ClusterGateway.Text.Utf8

/-!
# Amounts in words of 128 bits

The numbers of an amount have a bounded size when a machine computes with them.  Here every step is
one on signed words of 128 bits: a step that is checked ends the reading without a result when its
result does not fit, and any other step would stop the machine (`Quantity.Words.Trap`).

* `Quantity.Words.yields_value`, `Quantity.Words.yields_milliValue`,
  `Quantity.Words.yields_memory` : **no text stops the machine**.
* `Quantity.Words.value_eq`, `Quantity.Words.milliValue_eq`, `Quantity.Words.memory_eq` : on words
  the amounts come out as without bounds on the numbers, for every text whose length has 32 bits.
-/

namespace ClusterGateway

namespace Quantity

namespace Words

/-- What stops a machine. -/
inductive Trap where
  /-- A result that does not fit into a word. -/
  | overflow
  /-- A division by zero. -/
  | zeroDivisor
  deriving Repr, DecidableEq

/-- A computation that a trap may stop, and that may end without a result. -/
abbrev Run := OptionT (Except Trap)

/-- A number that fits into a signed word of 128 bits. -/
def IsWord (n : Int) : Prop := -2 ^ 127 ≤ n ∧ n < 2 ^ 127

instance (n : Int) : Decidable (IsWord n) := inferInstanceAs (Decidable (_ ∧ _))

variable {α β : Type}

/-- The computation that nothing stops, with its result if it has one. -/
def result (a : Option α) : Run α := OptionT.mk (.ok a)

/-! ### Steps on words -/

/-- A step that is checked. -/
def checked (n : Int) : Run Int := result (if IsWord n then some n else none)

/-- A step that is not checked. -/
def exact (n : Int) : Run Int :=
  if IsWord n then result (some n) else OptionT.mk (.error .overflow)

/-- The quotient that leaves a remainder which is not negative. -/
def quotient (a b : Int) : Run Int :=
  if b = 0 then OptionT.mk (.error .zeroDivisor) else exact (a / b)

/-- The remainder which is not negative; it is not there when the quotient does not fit. -/
def remainder (a b : Int) : Run Int := do
  let _ ← quotient a b
  return a % b

/-- The quotient towards zero. -/
def truncated (a b : Int) : Run Int :=
  if b = 0 then OptionT.mk (.error .zeroDivisor) else exact (a.tdiv b)

/-! ### Amounts -/

/-- The amount without its sign: numerator and denominator.  The number of places is cut to 32
bits. -/
def parseUnsigned (cs : List Char) : Run (Int × Int) := do
  let (whole, fraction) ← result (splitPoint? (cs.takeWhile isNumeral))
  let numer ← checked (digitsValue (whole ++ fraction))
  let denom ← result (powerOfTen? (fraction.length % 2 ^ 32))
  let (up, down) ← result (suffixFactors? (cs.dropWhile isNumeral))
  let numer ← checked (numer * up)
  let denom ← checked (denom * down)
  return (numer, denom)

/-- The numerator and the denominator of the amount that a text denotes. -/
def parse (s : String) : Run (Int × Int) :=
  match Text.trimChars s.toList with
  | [] => result none
  | '-' :: cs => do
    let (numer, denom) ← parseUnsigned cs
    let numer ← exact (-numer)
    return (numer, denom)
  | '+' :: cs => parseUnsigned cs
  | cs => parseUnsigned cs

/-- The least integer that is not below a fraction. -/
def ceilDiv (a b : Int) : Run Int := do
  let q ← quotient a b
  let r ← remainder a b
  if r ≠ 0 then exact (q + 1) else return q

/-- The amount in whole units, rounded up. -/
def value (s : String) : Run Int := do
  let (numer, denom) ← parse s
  ceilDiv numer denom

/-- The amount in thousandths, rounded up. -/
def milliValue (s : String) : Run Int := do
  let (numer, denom) ← parse s
  let numer ← checked (numer * 1000)
  ceilDiv numer denom

/-- Memory in whole mebibytes, towards zero. -/
def memory (s : String) : Run String := do
  let v ← value s
  let v ← truncated v (2 ^ 20)
  return toString v ++ "Mi"

/-! ### Computations that nothing stops -/

/-- Nothing stops the computation, and its result, if there is one, is as said. -/
def Yields (P : α → Prop) (run : Run α) : Prop :=
  ∃ a : Option α, run = result a ∧ ∀ x, a = some x → P x

@[simp] theorem result_some_bind (x : α) (f : α → Run β) : result (some x) >>= f = f x := rfl

@[simp] theorem result_none_bind (f : α → Run β) : result none >>= f = result none := rfl

theorem pure_eq_result (x : α) : (pure x : Run α) = result (some x) := rfl

theorem Yields.result {P : α → Prop} {a : Option α} (h : ∀ x, a = some x → P x) :
    Yields P (result a) := ⟨a, rfl, h⟩

theorem Yields.pure {P : α → Prop} {x : α} (h : P x) : Yields P (pure x : Run α) :=
  ⟨some x, rfl, fun _ hx => Option.some.inj hx ▸ h⟩

theorem Yields.bind {P : α → Prop} {Q : β → Prop} {run : Run α} {f : α → Run β}
    (h : Yields P run) (hf : ∀ x, P x → Yields Q (f x)) : Yields Q (run >>= f) := by
  obtain ⟨a, rfl, ha⟩ := h
  cases a with
  | none => exact ⟨none, rfl, fun x hx => by cases hx⟩
  | some x => exact hf x (ha x rfl)

theorem isWord_natCast_iff {n : Nat} : IsWord n ↔ n ≤ limit := by
  rw [IsWord, limit_eq]
  omega

theorem isWord_of_natAbs_le {n : Int} (h : n.natAbs ≤ limit) : IsWord n := by
  rw [limit_eq] at h
  constructor <;> omega

theorem checked_natCast (n : Nat) : checked n = result ((within? n).map Nat.cast) := by
  rw [checked, within?]
  simp only [isWord_natCast_iff]
  split <;> rfl

theorem checked_natCast_mul (n m : Nat) :
    checked (n * m) = result ((within? (n * m)).map Nat.cast) := by
  rw [← checked_natCast, Nat.cast_mul]

theorem yields_checked (n : Int) : Yields (fun m => m = n ∧ IsWord n) (checked n) := by
  refine Yields.result fun m hm => ?_
  rw [Option.ite_none_right_eq_some, Option.some.injEq] at hm
  exact ⟨hm.2.symm, hm.1⟩

theorem exact_of_isWord {n : Int} (h : IsWord n) : exact n = pure n := if_pos h

/-! ### Rounding -/

section Rounding

variable {a b : Int}

theorem IsWord.ediv (ha : IsWord a) (hb : 0 < b) : IsWord (a / b) := by
  obtain ⟨hlow, hhigh⟩ := ha
  constructor
  · rw [Int.le_ediv_iff_mul_le hb]
    omega
  · rw [Int.ediv_lt_iff_lt_mul hb]
    omega

/-- Only a divisor above one leaves a remainder, and then the quotient is far from the bound. -/
theorem IsWord.ediv_succ (ha : IsWord a) (hb : 0 < b) (hr : a % b ≠ 0) : IsWord (a / b + 1) := by
  have hq : IsWord (a / b) := ha.ediv hb
  have htwo : 2 ≤ b := by
    by_contra hb'
    obtain rfl : b = 1 := by omega
    exact hr (Int.emod_one a)
  have hbelow : a / b < 2 ^ 127 - 1 := by
    rw [Int.ediv_lt_iff_lt_mul hb]
    have ha' := ha.2
    omega
  exact ⟨by have := hq.1; omega, by omega⟩

theorem quotient_eq (ha : IsWord a) (hb : 0 < b) : quotient a b = pure (a / b) := by
  rw [quotient, if_neg hb.ne', exact_of_isWord (ha.ediv hb)]

theorem remainder_eq (ha : IsWord a) (hb : 0 < b) : remainder a b = pure (a % b) := by
  rw [remainder, quotient_eq ha hb, pure_bind]

theorem ceilDiv_eq_ediv_add {d : Nat} (hd : 0 < d) :
    Quantity.ceilDiv a d = a / d + if a % d = 0 then 0 else 1 := by
  have hb : (0 : Int) < d := by omega
  simp only [Quantity.ceilDiv, Int.neg_ediv, Int.dvd_iff_emod_eq_zero, Int.sign_eq_one_of_pos hb]
  split <;> omega

theorem isWord_ceilDiv {d : Nat} (ha : IsWord a) (hd : 0 < d) : IsWord (Quantity.ceilDiv a d) := by
  have hb : (0 : Int) < d := by omega
  rw [ceilDiv_eq_ediv_add hd]
  by_cases hr : a % d = 0
  · rw [if_pos hr, Int.add_zero]
    exact ha.ediv hb
  · rw [if_neg hr]
    exact ha.ediv_succ hb hr

/-- **Rounding up on words.** -/
theorem ceilDiv_eq {d : Nat} (ha : IsWord a) (hd : 0 < d) :
    ceilDiv a d = pure (Quantity.ceilDiv a d) := by
  have hb : (0 : Int) < d := by omega
  rw [ceilDiv, quotient_eq ha hb, remainder_eq ha hb, pure_bind, pure_bind, ceilDiv_eq_ediv_add hd]
  by_cases hr : a % d = 0
  · simp [hr]
  · rw [if_pos hr, if_neg hr, exact_of_isWord (ha.ediv_succ hb hr)]

theorem truncated_eq {v : Int} (hv : IsWord v) : truncated v (2 ^ 20) = pure (v.tdiv (2 ^ 20)) := by
  have hword : IsWord (v.tdiv (2 ^ 20)) := by
    obtain ⟨hlow, hhigh⟩ := hv
    rw [Int.tdiv_eq_ediv, Int.sign_eq_one_of_pos (by decide)]
    constructor <;> split <;> omega
  rw [truncated, if_neg (by decide), exact_of_isWord hword]

end Rounding

/-! ### No text stops the machine -/

/-- A fraction whose numerator can be negated, with a positive denominator. -/
def IsFraction (q : Int × Int) : Prop := q.1.natAbs ≤ limit ∧ ∃ d : Nat, 0 < d ∧ q.2 = d

theorem yields_parseUnsigned (cs : List Char) : Yields IsFraction (parseUnsigned cs) := by
  -- one bind a step: the digits, the places, the suffix and the two products
  refine Yields.bind (P := fun _ => True) (Yields.result fun _ _ => trivial) ?_
  rintro ⟨whole, fraction⟩ -
  refine (yields_checked _).bind ?_
  rintro _ ⟨rfl, -⟩
  refine Yields.bind (P := fun denom => 0 < denom) (Yields.result fun denom hdenom => ?_) ?_
  · rw [(powerOfTen?_eq_some_iff.1 hdenom).2]
    exact Nat.pow_pos (by decide)
  intro denom hdenom
  refine Yields.bind (P := fun factors => 0 < factors.2)
    (Yields.result fun factors hfactors => ?_) ?_
  · obtain ⟨suffix, -, -, -, hdown⟩ := suffixFactors?_eq_some_iff.1 hfactors
    rw [hdown]
    exact suffix.down_pos
  rintro ⟨up, down⟩ hdown
  refine (yields_checked _).bind ?_
  rintro _ ⟨rfl, hnumer⟩
  refine (yields_checked _).bind ?_
  rintro _ ⟨rfl, -⟩
  refine Yields.pure ⟨?_, denom * down, Nat.mul_pos hdenom hdown, by push_cast; rfl⟩
  rw [← Nat.cast_mul, isWord_natCast_iff] at hnumer
  rwa [← Nat.cast_mul, Int.natAbs_natCast]

theorem exact_neg {n : Int} (h : n.natAbs ≤ limit) : exact (-n) = pure (-n) :=
  exact_of_isWord (isWord_of_natAbs_le (by rwa [Int.natAbs_neg]))

theorem yields_parse (s : String) : Yields IsFraction (parse s) := by
  rw [parse]
  split
  · exact Yields.result fun _ h => by cases h
  · refine (yields_parseUnsigned _).bind ?_
    rintro ⟨numer, denom⟩ ⟨hnumer, hdenom⟩
    simp only [exact_neg hnumer, pure_bind]
    exact Yields.pure ⟨by rwa [Int.natAbs_neg], hdenom⟩
  · exact yields_parseUnsigned _
  · exact yields_parseUnsigned _

/-- **No text stops the machine** on the way to whole units. -/
theorem yields_value (s : String) : Yields IsWord (value s) := by
  refine (yields_parse s).bind ?_
  rintro ⟨numer, _⟩ ⟨hnumer, d, hd, rfl⟩
  have hword : IsWord numer := isWord_of_natAbs_le hnumer
  change Yields IsWord (ceilDiv numer d)
  rw [ceilDiv_eq hword hd]
  exact Yields.pure (isWord_ceilDiv hword hd)

/-- **No text stops the machine** on the way to thousandths. -/
theorem yields_milliValue (s : String) : Yields IsWord (milliValue s) := by
  refine (yields_parse s).bind ?_
  rintro ⟨numer, _⟩ ⟨-, d, hd, rfl⟩
  refine (yields_checked (numer * 1000)).bind ?_
  rintro _ ⟨rfl, hword⟩
  rw [ceilDiv_eq hword hd]
  exact Yields.pure (isWord_ceilDiv hword hd)

/-- **No text stops the machine** on the way to mebibytes. -/
theorem yields_memory (s : String) : Yields (fun _ => True) (memory s) := by
  refine (yields_value s).bind ?_
  intro v hv
  rw [truncated_eq hv, pure_bind]
  exact Yields.pure trivial

/-! ### Words change no amount -/

section Bind

variable {γ δ : Type} {f : β → Run γ} {g : α → Option δ} {out : δ → γ}

theorem result_map_bind {into : α → β} (a : Option α)
    (h : ∀ x, a = some x → f (into x) = result ((g x).map out)) :
    result (a.map into) >>= f = result ((a >>= g).map out) := by
  cases a with
  | none => rfl
  | some x => exact h x rfl

theorem result_bind {f : α → Run γ} (a : Option α)
    (h : ∀ x, a = some x → f x = result ((g x).map out)) :
    result a >>= f = result ((a >>= g).map out) := by
  cases a with
  | none => rfl
  | some x => exact h x rfl

end Bind

theorem parseUnsigned_eq {cs : List Char} (h : cs.length < 2 ^ 32) :
    parseUnsigned cs = result ((parseUnsigned? cs).map fun q => ((q.1 : Int), (q.2 : Int))) := by
  refine result_bind _ ?_
  rintro ⟨whole, fraction⟩ hsplit
  have hplaces : fraction.length < 2 ^ 32 := by
    have hnumeral : ∀ c ∈ cs.takeWhile isNumeral, isNumeral c = true :=
      fun c hc => List.mem_takeWhile_imp hc
    obtain ⟨point, hnumber, rfl, -, -⟩ := (splitPoint?_eq_some_iff hnumeral).1 hsplit
    have hlength : (cs.takeWhile isNumeral).length ≤ cs.length :=
      (List.takeWhile_sublist _).length_le
    rw [hnumber, List.length_append] at hlength
    refine Nat.lt_of_le_of_lt ?_ h
    cases point with
    | none => exact Nat.zero_le _
    | some fraction =>
      rw [pointChars, List.length_cons] at hlength
      rw [Option.getD_some]
      omega
  -- the places are counted in 32 bits, which is enough for them
  simp only [checked_natCast, Nat.mod_eq_of_lt hplaces]
  refine result_map_bind _ fun numer _ => result_bind _ fun denom _ => result_bind _ ?_
  rintro ⟨up, down⟩ -
  simp only [checked_natCast_mul]
  exact result_map_bind _ fun numer _ => result_map_bind _ fun denom _ => rfl

theorem length_trimChars_lt {s : String} (h : (Utf8.encode s).length < 2 ^ 32) :
    (Text.trimChars s.toList).length < 2 ^ 32 := by
  have hencode (cs : List Char) : cs.length ≤ (cs.flatMap String.utf8EncodeChar).length := by
    induction cs with
    | nil => exact Nat.le_refl 0
    | cons c cs ih =>
      have hc : 0 < c.utf8Size := c.utf8Size_pos
      rw [List.flatMap_cons, List.length_append, String.length_utf8EncodeChar, List.length_cons]
      omega
  have htrim : (Text.trimChars s.toList).length ≤ s.toList.length :=
    (Text.trimChars_sublist s.toList).length_le
  exact Nat.lt_of_le_of_lt (htrim.trans (hencode s.toList)) h

theorem isFraction_of_parse? {s : String} {q : Quantity} (h : parse? s = some q) :
    IsFraction (q.numer, q.denom) := by
  obtain ⟨w, -, hfits, rfl⟩ := parse?_eq_some_iff.1 h
  refine ⟨?_, w.denom, Nat.mul_pos (Nat.pow_pos (by decide)) w.suffix.down_pos, rfl⟩
  rw [Sign.natAbs_factor_mul]
  exact hfits.numer

theorem parse_eq {s : String} (h : (Utf8.encode s).length < 2 ^ 32) :
    parse s = result ((parse? s).map fun q => (q.numer, (q.denom : Int))) := by
  have hlength := length_trimChars_lt h
  rw [parse, parse?]
  -- the sign is looked at in both readings
  cases htrim : Text.trimChars s.toList with
  | nil => rfl
  | cons c cs =>
    rw [htrim, List.length_cons] at hlength
    by_cases hminus : c = '-'
    · subst hminus
      have hunsigned := parseUnsigned_eq (show cs.length < 2 ^ 32 by omega)
      cases hparse : parseUnsigned? cs with
      | none => simp [hunsigned, hparse]
      | some q =>
        obtain ⟨w, -, hfits, hnumer, -⟩ := parseUnsigned?_eq_some_iff.1 hparse
        have hneg : exact (-(q.1 : Int)) = pure (-(q.1 : Int)) := by
          refine exact_neg ?_
          rw [Int.natAbs_natCast, hnumer]
          exact hfits.numer
        simp [hunsigned, hparse, hneg, pure_eq_result]
    · by_cases hplus : c = '+'
      · subst hplus
        have hunsigned := parseUnsigned_eq (show cs.length < 2 ^ 32 by omega)
        simp [hunsigned, Function.comp_def]
      · have hunsigned : parseUnsigned (c :: cs) = _ := parseUnsigned_eq hlength
        simp [hminus, hplus, hunsigned, Function.comp_def]

/-- No numerator becomes the least word when it is multiplied: that is no multiple of 1000. -/
theorem checked_mul_thousand (n : Int) :
    checked (n * 1000) = result ((within? (n.natAbs * 1000)).map fun _ => n * 1000) := by
  have hfits : IsWord (n * 1000) ↔ n.natAbs * 1000 ≤ limit := by
    rw [IsWord, limit_eq]
    omega
  rw [checked, within?]
  simp only [hfits]
  split <;> rfl

section Equal

variable {s : String} (h : (Utf8.encode s).length < 2 ^ 32)

include h

/-- **Whole units come out the same in words.** -/
theorem value_eq : value s = result (value? s) := by
  rw [value, parse_eq h, value?]
  cases hparse : parse? s with
  | none => rfl
  | some q =>
    obtain ⟨hnumer, d, hd, hdenom⟩ := isFraction_of_parse? hparse
    obtain rfl : q.denom = d := Int.ofNat.inj hdenom
    simp only [Option.map_some, result_some_bind]
    rw [ceilDiv_eq (isWord_of_natAbs_le hnumer) hd, pure_eq_result]

/-- **Thousandths come out the same in words.** -/
theorem milliValue_eq : milliValue s = result (milliValue? s) := by
  rw [milliValue, parse_eq h, milliValue?]
  cases hparse : parse? s with
  | none => rfl
  | some q =>
    obtain ⟨-, d, hd, hdenom⟩ := isFraction_of_parse? hparse
    obtain rfl : q.denom = d := Int.ofNat.inj hdenom
    simp only [Option.map_some, result_some_bind, checked_mul_thousand]
    cases hwithin : within? (q.numer.natAbs * 1000) with
    | none => simp [hwithin]
    | some m =>
      have hword : IsWord (q.numer * 1000) := by
        obtain ⟨hle, -⟩ := within?_eq_some_iff.1 hwithin
        refine isWord_of_natAbs_le ?_
        rwa [Int.natAbs_mul]
      simp [hwithin, ceilDiv_eq hword hd, pure_eq_result]

/-- **Mebibytes come out the same in words.** -/
theorem memory_eq : memory s = result (memory? s) := by
  obtain ⟨a, ha, hword⟩ := yields_value s
  have hvalue : a = value? s := by
    have heq : result a = result (value? s) := ha.symm.trans (value_eq h)
    exact Except.ok.inj heq
  rw [memory, ha, memory?, ← hvalue]
  cases a with
  | none => rfl
  | some v =>
    rw [result_some_bind, truncated_eq (hword v rfl)]
    rfl

end Equal

end Words

end Quantity

end ClusterGateway

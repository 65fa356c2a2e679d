import ClusterGateway.Proofs.Text.Digits
import ClusterGateway.Proofs.Text.Pieces
import ClusterGateway.Quantity
import Mathlib.Data.List.TakeWhile

/-!
# Written amounts

An amount is written as a sign, decimal digits with at most one point, and a suffix: the sign of a
factor or an exponent of ten (`Quantity.Written`).  Such a text says which numerator and denominator
the amount has, and the numbers on the way to them are bounded (`Quantity.Written.Fits`).

* `Quantity.exponent?_eq_some_iff`, `Quantity.suffixFactors?_eq_some_iff`,
  `Quantity.splitPoint?_eq_some_iff` : each part of an amount is read as what it says.
* `Quantity.parse?_eq_some_iff` : **an amount is read just if it is written so and its numbers stay
  within the bounds**.
-/

namespace ClusterGateway

namespace Quantity

/-! ### How amounts are written -/

/-- A sign in front of a number. -/
inductive Sign where
  /-- No sign. -/
  | none
  /-- A plus. -/
  | plus
  /-- A minus. -/
  | minus
  deriving Repr, DecidableEq

namespace Sign

/-- The sign as text. -/
def chars : Sign → List Char
  | none => []
  | plus => ['+']
  | minus => ['-']

/-- The factor that the sign puts on a number. -/
def factor : Sign → Int
  | none | plus => 1
  | minus => -1

end Sign

/-- An exponent of ten: a sign and digits, of a value that has 32 bits. -/
structure Exponent where
  /-- The sign. -/
  sign : Sign
  /-- The digits. -/
  digits : List Char
  /-- There is a digit. -/
  digits_ne_nil : digits ≠ []
  /-- All of them are digits. -/
  isDigit : ∀ c ∈ digits, c.isDigit = true
  /-- The value has 32 bits. -/
  inRange : -2 ^ 31 ≤ sign.factor * Text.decimal digits ∧
    sign.factor * Text.decimal digits < (2 ^ 31 : Int)

namespace Exponent

/-- The exponent as text. -/
def chars (e : Exponent) : List Char := e.sign.chars ++ e.digits

/-- The value. -/
def value (e : Exponent) : Int := e.sign.factor * Text.decimal e.digits

/-- The power of ten that the exponent multiplies by or divides by. -/
def power (e : Exponent) : Nat := 10 ^ e.value.natAbs

end Exponent

/-- What stands behind the number: nothing, a letter for a power of ten, two for a power of two, or
an exponent of ten. -/
inductive Suffix where
  /-- Nothing. -/
  | none
  /-- Billionths. -/
  | nano
  /-- Millionths. -/
  | micro
  /-- Thousandths. -/
  | milli
  /-- Thousands. -/
  | kilo
  /-- Millions. -/
  | mega
  /-- Billions. -/
  | giga
  /-- `10 ^ 12`. -/
  | tera
  /-- `10 ^ 15`. -/
  | peta
  /-- `10 ^ 18`. -/
  | exa
  /-- `2 ^ 10`. -/
  | kibi
  /-- `2 ^ 20`. -/
  | mebi
  /-- `2 ^ 30`. -/
  | gibi
  /-- `2 ^ 40`. -/
  | tebi
  /-- `2 ^ 50`. -/
  | pebi
  /-- `2 ^ 60`. -/
  | exbi
  /-- An exponent of ten after a small or a capital letter. -/
  | exponent (capital : Bool) (e : Exponent)

namespace Suffix

/-- The suffix as text. -/
def chars : Suffix → List Char
  | none => []
  | nano => ['n']
  | micro => ['u']
  | milli => ['m']
  | kilo => ['k']
  | mega => ['M']
  | giga => ['G']
  | tera => ['T']
  | peta => ['P']
  | exa => ['E']
  | kibi => ['K', 'i']
  | mebi => ['M', 'i']
  | gibi => ['G', 'i']
  | tebi => ['T', 'i']
  | pebi => ['P', 'i']
  | exbi => ['E', 'i']
  | exponent capital e => (if capital then 'E' else 'e') :: e.chars

/-- The factor on the numerator. -/
def up : Suffix → Nat
  | none | nano | micro | milli => 1
  | kilo => 10 ^ 3
  | mega => 10 ^ 6
  | giga => 10 ^ 9
  | tera => 10 ^ 12
  | peta => 10 ^ 15
  | exa => 10 ^ 18
  | kibi => 2 ^ 10
  | mebi => 2 ^ 20
  | gibi => 2 ^ 30
  | tebi => 2 ^ 40
  | pebi => 2 ^ 50
  | exbi => 2 ^ 60
  | exponent _ e => if 0 ≤ e.value then e.power else 1

/-- The factor on the denominator. -/
def down : Suffix → Nat
  | nano => 10 ^ 9
  | micro => 10 ^ 6
  | milli => 10 ^ 3
  | exponent _ e => if 0 ≤ e.value then 1 else e.power
  | none | kilo | mega | giga | tera | peta | exa | kibi | mebi | gibi | tebi | pebi | exbi => 1

/-- The power of ten of an exponent is within the bound. -/
def PowerFits : Suffix → Prop
  | exponent _ e => e.power ≤ limit
  | _ => True

end Suffix

/-- A written amount: a sign, digits before and perhaps a point and digits behind it, at least one
digit in all, and a suffix. -/
structure Written where
  /-- The sign. -/
  sign : Sign
  /-- The digits before the point. -/
  whole : List Char
  /-- The digits behind the point, if there is a point. -/
  fraction : Option (List Char)
  /-- The suffix. -/
  suffix : Suffix
  /-- There is a digit. -/
  digits_ne_nil : whole ++ fraction.getD [] ≠ []
  /-- All of them are digits. -/
  isDigit : ∀ c ∈ whole ++ fraction.getD [], c.isDigit = true

/-- The point and the digits behind it. -/
def pointChars : Option (List Char) → List Char
  | none => []
  | some fraction => '.' :: fraction

namespace Written

variable (w : Written)

/-- The amount as text, without its sign. -/
def unsignedChars : List Char := w.whole ++ pointChars w.fraction ++ w.suffix.chars

/-- The amount as text. -/
def chars : List Char := w.sign.chars ++ w.unsignedChars

/-- All digits, read as one integer. -/
def digits : Nat := Text.decimal (w.whole ++ w.fraction.getD [])

/-- The number of digits behind the point. -/
def places : Nat := (w.fraction.getD []).length

/-- The numerator without the sign. -/
def numer : Nat := w.digits * w.suffix.up

/-- The denominator. -/
def denom : Nat := 10 ^ w.places * w.suffix.down

/-- The numbers on the way to the numerator and to the denominator are within the bounds. -/
structure Fits : Prop where
  /-- The digits. -/
  digits : w.digits ≤ limit
  /-- The power of ten for the point. -/
  places : 10 ^ w.places ≤ limit
  /-- The power of ten of an exponent. -/
  power : w.suffix.PowerFits
  /-- The numerator. -/
  numer : w.numer ≤ limit
  /-- The denominator. -/
  denom : w.denom ≤ limit

/-- The amount is what a text says, blanks around it aside. -/
def IsIn (s : String) : Prop := Text.trimChars s.toList = w.chars

end Written

theorem Sign.natAbs_factor_mul (sign : Sign) (n : Nat) : (sign.factor * n).natAbs = n := by
  cases sign <;> simp [Sign.factor]

theorem Suffix.down_pos (s : Suffix) : 0 < s.down := by
  cases s with
  | exponent capital e =>
    rw [Suffix.down]
    split
    · exact Nat.one_pos
    · exact Nat.pow_pos (by decide)
  | _ => decide

theorem Suffix.up_pos (s : Suffix) : 0 < s.up := by
  cases s with
  | exponent capital e =>
    rw [Suffix.up]
    split
    · exact Nat.pow_pos (by decide)
    · exact Nat.one_pos
  | _ => decide

/-! ### Bounds -/

theorem limit_eq : limit = 2 ^ 127 - 1 := rfl

theorem within?_eq_some_iff {n m : Nat} : within? n = some m ↔ n ≤ limit ∧ m = n := by
  rw [within?]
  split <;> simp_all [eq_comm]

theorem pow_ten_le_limit_iff {e : Nat} : 10 ^ e ≤ limit ↔ e ≤ 38 := by
  rw [limit_eq]
  constructor
  · intro h
    by_contra he
    have hle : 10 ^ 39 ≤ 10 ^ e := Nat.pow_le_pow_right (by omega) (by omega)
    omega
  · intro h
    have hle : 10 ^ e ≤ 10 ^ 38 := Nat.pow_le_pow_right (by omega) h
    omega

theorem powerOfTen?_eq_some_iff {e n : Nat} :
    powerOfTen? e = some n ↔ 10 ^ e ≤ limit ∧ n = 10 ^ e := by
  rw [powerOfTen?, pow_ten_le_limit_iff]
  split <;> simp_all [eq_comm]

theorem digitsValue_eq (ds : List Char) : digitsValue ds = Text.decimal ds :=
  Text.foldl_digits_zero ds

/-! ### Reading the parts -/

theorem exponent?_of_isDigit {ds : List Char} (hne : ds ≠ []) (hd : ∀ c ∈ ds, c.isDigit = true)
    (sign : Sign) : exponent? (sign.chars ++ ds) =
      if -2 ^ 31 ≤ sign.factor * Text.decimal ds ∧ sign.factor * Text.decimal ds < (2 ^ 31 : Int)
      then some (sign.factor * Text.decimal ds) else none := by
  have hall : ds.all Char.isDigit = true := List.all_eq_true.2 hd
  obtain ⟨c, cs, rfl⟩ := List.exists_cons_of_ne_nil hne
  have hc : c.isDigit = true := hd c List.mem_cons_self
  have hminus : c ≠ '-' := by rintro rfl; exact absurd hc (by decide)
  have hplus : c ≠ '+' := by rintro rfl; exact absurd hc (by decide)
  cases sign <;> simp [exponent?, Sign.chars, Sign.factor, hall, hminus, hplus, digitsValue_eq]

theorem exists_digits_of_exponent? {cs : List Char} {e : Int} (h : exponent? cs = some e) :
    ∃ (sign : Sign) (ds : List Char), cs = sign.chars ++ ds ∧ ds ≠ [] ∧
      ∀ c ∈ ds, c.isDigit = true := by
  cases cs with
  | nil => simp [exponent?] at h
  | cons c ds =>
    by_cases hminus : c = '-'
    · subst hminus
      refine ⟨.minus, ds, rfl, ?_⟩
      simp only [exponent?, Option.ite_none_right_eq_some] at h
      simpa using h.1
    by_cases hplus : c = '+'
    · subst hplus
      refine ⟨.plus, ds, rfl, ?_⟩
      simp only [exponent?, Option.ite_none_right_eq_some] at h
      simpa using h.1
    refine ⟨.none, c :: ds, rfl, ?_⟩
    simp only [exponent?, Option.ite_none_right_eq_some] at h
    simpa [hminus, hplus] using h.1

/-- **An exponent is read as its value.** -/
theorem exponent?_eq_some_iff {cs : List Char} {e : Int} :
    exponent? cs = some e ↔ ∃ x : Exponent, cs = x.chars ∧ e = x.value := by
  constructor
  · intro h
    obtain ⟨sign, ds, rfl, hne, hd⟩ := exists_digits_of_exponent? h
    rw [exponent?_of_isDigit hne hd] at h
    split at h
    · rename_i hrange
      exact ⟨⟨sign, ds, hne, hd, hrange⟩, rfl, (Option.some.inj h).symm⟩
    · cases h
  · rintro ⟨x, rfl, rfl⟩
    rw [Exponent.chars, exponent?_of_isDigit x.digits_ne_nil x.isDigit, if_pos x.inRange]
    rfl

/-- An exponent is told from the suffixes for `10 ^ 18` and `2 ^ 60` by what follows the letter. -/
theorem suffixFactors?_of_exponent {c : Char} {rest : List Char} (hc : c = 'e' ∨ c = 'E')
    (hne : rest ≠ []) (hi : rest ≠ ['i']) : suffixFactors? (c :: rest) =
      (exponent? rest).bind fun e => (powerOfTen? e.natAbs).bind fun scale =>
        some (if 0 ≤ e then (scale, 1) else (1, scale)) := by
  obtain rfl | rfl := hc
  all_goals
    unfold suffixFactors?
    split <;> rename_i heq <;> cases heq <;> first | rfl | contradiction

theorem Exponent.chars_ne (e : Exponent) : e.chars ≠ [] ∧ e.chars ≠ ['i'] := by
  obtain ⟨c, cs, hcs⟩ := List.exists_cons_of_ne_nil e.digits_ne_nil
  have hc : c.isDigit = true := e.isDigit c (hcs ▸ List.mem_cons_self)
  have hi : c ≠ 'i' := by rintro rfl; exact absurd hc (by decide)
  rw [Exponent.chars, hcs]
  cases e.sign <;> simp [Sign.chars, hi]

theorem suffixFactors?_cases (cs : List Char) :
    (∃ s : Suffix, cs = s.chars ∧ s.PowerFits ∧ suffixFactors? cs = some (s.up, s.down)) ∨
      ∃ c rest, cs = c :: rest ∧ suffixFactors? cs = if c = 'e' ∨ c = 'E' then
        (exponent? rest).bind fun e => (powerOfTen? e.natAbs).bind fun scale =>
          some (if 0 ≤ e then (scale, 1) else (1, scale)) else none := by
  unfold suffixFactors?
  split
  · exact .inl ⟨.none, rfl, trivial, rfl⟩
  · exact .inl ⟨.kibi, rfl, trivial, rfl⟩
  · exact .inl ⟨.mebi, rfl, trivial, rfl⟩
  · exact .inl ⟨.gibi, rfl, trivial, rfl⟩
  · exact .inl ⟨.tebi, rfl, trivial, rfl⟩
  · exact .inl ⟨.pebi, rfl, trivial, rfl⟩
  · exact .inl ⟨.exbi, rfl, trivial, rfl⟩
  · exact .inl ⟨.nano, rfl, trivial, rfl⟩
  · exact .inl ⟨.micro, rfl, trivial, rfl⟩
  · exact .inl ⟨.milli, rfl, trivial, rfl⟩
  · exact .inl ⟨.kilo, rfl, trivial, rfl⟩
  · exact .inl ⟨.mega, rfl, trivial, rfl⟩
  · exact .inl ⟨.giga, rfl, trivial, rfl⟩
  · exact .inl ⟨.tera, rfl, trivial, rfl⟩
  · exact .inl ⟨.peta, rfl, trivial, rfl⟩
  · exact .inl ⟨.exa, rfl, trivial, rfl⟩
  · exact .inr ⟨_, _, rfl, rfl⟩

/-- **A suffix is read as the factors that it means.** -/
theorem suffixFactors?_eq_some_iff {cs : List Char} {up down : Nat} :
    suffixFactors? cs = some (up, down) ↔
      ∃ s : Suffix, cs = s.chars ∧ s.PowerFits ∧ up = s.up ∧ down = s.down := by
  constructor
  · intro h
    obtain ⟨s, hs, hfits, heq⟩ | ⟨c, rest, rfl, heq⟩ := suffixFactors?_cases cs
    · rw [heq, Option.some.injEq, Prod.mk.injEq] at h
      exact ⟨s, hs, hfits, h.1.symm, h.2.symm⟩
    · rw [heq] at h
      split at h
      · rename_i hc
        obtain ⟨e, he, h⟩ := Option.bind_eq_some_iff.1 h
        obtain ⟨scale, hscale, h⟩ := Option.bind_eq_some_iff.1 h
        obtain ⟨x, rfl, rfl⟩ := exponent?_eq_some_iff.1 he
        obtain ⟨hpower, rfl⟩ := powerOfTen?_eq_some_iff.1 hscale
        refine ⟨.exponent (c == 'E') x, ?_, hpower, ?_⟩
        · obtain rfl | rfl := hc <;> rfl
        · simp only [Suffix.up, Suffix.down, Exponent.power]
          split at h <;> simp_all
      · cases h
  · rintro ⟨s, rfl, hfits, rfl, rfl⟩
    cases s with
    | exponent capital e =>
      have hletter :
          (if capital then 'E' else 'e') = 'e' ∨ (if capital then 'E' else 'e') = 'E' := by
        cases capital <;> simp
      have hpower : powerOfTen? e.value.natAbs = some e.power :=
        powerOfTen?_eq_some_iff.2 ⟨hfits, rfl⟩
      rw [Suffix.chars, suffixFactors?_of_exponent hletter e.chars_ne.1 e.chars_ne.2,
        exponent?_eq_some_iff.2 ⟨e, rfl, rfl⟩]
      simp only [Option.bind_some, hpower, Suffix.up, Suffix.down]
      split <;> rfl
    | _ => rfl

section Number

variable {number whole fraction : List Char}

theorem isNumeral_iff {c : Char} : isNumeral c = true ↔ c.isDigit = true ∨ c = '.' := by
  simp [isNumeral]

theorem point_not_mem {ds : List Char} (h : ∀ c ∈ ds, c.isDigit = true) : '.' ∉ ds :=
  fun hmem => absurd (h '.' hmem) (by decide)

/-- **The digits of a number are read as those before and those behind its only point.** -/
theorem splitPoint?_eq_some_iff (hnumber : ∀ c ∈ number, isNumeral c = true) :
    splitPoint? number = some (whole, fraction) ↔ ∃ point : Option (List Char),
      number = whole ++ pointChars point ∧ fraction = point.getD [] ∧ whole ++ fraction ≠ [] ∧
        ∀ c ∈ whole ++ fraction, c.isDigit = true := by
  -- of all that may stand in a number only the point is no digit
  have hdigits {ds : List Char} (hsub : ds ⊆ number) (hpoint : '.' ∉ ds) :
      ∀ c ∈ ds, c.isDigit = true := by
    intro c hc
    refine (isNumeral_iff.1 (hnumber c (hsub hc))).resolve_right ?_
    rintro rfl
    exact hpoint hc
  constructor
  · intro h
    rw [splitPoint?] at h
    obtain ⟨hnot, hcut⟩ | ⟨before, after, hnot, rfl, hcut⟩ := Text.cutChars?_cases '.' number
    · rw [hcut] at h
      simp only [Option.getD_none, List.not_mem_nil, false_or] at h
      split at h
      · cases h
      · rename_i hempty
        cases h
        refine ⟨none, by simp [pointChars], rfl, by simpa using hempty, ?_⟩
        simpa using hdigits (List.Subset.refl _) hnot
    · rw [hcut] at h
      simp only [Option.getD_some] at h
      split at h
      · cases h
      · rename_i hempty
        cases h
        rw [not_or] at hempty
        refine ⟨some fraction, rfl, rfl, by simpa using hempty.2, fun c hc => ?_⟩
        obtain hc | hc := List.mem_append.1 hc
        · exact hdigits (List.subset_append_left _ _) hnot c hc
        · refine hdigits ?_ hempty.1 c hc
          exact List.subset_append_of_subset_right _ (List.subset_cons_self _ _)
  · rintro ⟨point, rfl, rfl, hne, hd⟩
    have hwhole : '.' ∉ whole := point_not_mem fun c hc => hd c (List.mem_append_left _ hc)
    have hfraction : '.' ∉ point.getD [] :=
      point_not_mem fun c hc => hd c (List.mem_append_right _ hc)
    cases point with
    | none =>
      rw [splitPoint?, pointChars, List.append_nil, Text.cutChars?_of_not_mem hwhole]
      simpa using hne
    | some fraction =>
      rw [splitPoint?, pointChars, Text.cutChars?_append hwhole]
      simp_all

end Number

/-! ### Reading the whole -/

theorem Written.isNumeral (w : Written) : ∀ c ∈ w.whole ++ pointChars w.fraction,
    Quantity.isNumeral c = true := by
  intro c hc
  rw [isNumeral_iff]
  have hd := w.isDigit c
  cases hf : w.fraction with
  | none => simp_all [pointChars]
  | some fraction =>
    simp only [hf, pointChars, List.mem_append, List.mem_cons, Option.getD_some] at hc hd
    tauto

theorem Suffix.takeWhile_chars (s : Suffix) : s.chars.takeWhile isNumeral = [] ∧
    s.chars.dropWhile isNumeral = s.chars := by
  cases s with
  | exponent capital e => cases capital <;> exact ⟨rfl, rfl⟩
  | _ => exact ⟨rfl, rfl⟩

theorem Written.takeWhile_unsignedChars (w : Written) :
    w.unsignedChars.takeWhile Quantity.isNumeral = w.whole ++ pointChars w.fraction := by
  rw [unsignedChars, List.takeWhile_append_of_pos w.isNumeral, w.suffix.takeWhile_chars.1,
    List.append_nil]

theorem Written.dropWhile_unsignedChars (w : Written) :
    w.unsignedChars.dropWhile Quantity.isNumeral = w.suffix.chars := by
  rw [unsignedChars, List.dropWhile_append_of_pos w.isNumeral, w.suffix.takeWhile_chars.2]

theorem parseUnsigned?_unsignedChars (w : Written) (hpower : w.suffix.PowerFits) :
    parseUnsigned? w.unsignedChars = do
      let digits ← within? w.digits
      let places ← powerOfTen? w.places
      let numer ← within? (digits * w.suffix.up)
      let denom ← within? (places * w.suffix.down)
      return (numer, denom) := by
  have hsplit : splitPoint? (w.whole ++ pointChars w.fraction) =
      some (w.whole, w.fraction.getD []) :=
    (splitPoint?_eq_some_iff w.isNumeral).2 ⟨w.fraction, rfl, rfl, w.digits_ne_nil, w.isDigit⟩
  have hfactors : suffixFactors? w.suffix.chars = some (w.suffix.up, w.suffix.down) :=
    suffixFactors?_eq_some_iff.2 ⟨w.suffix, rfl, hpower, rfl, rfl⟩
  rw [parseUnsigned?, w.takeWhile_unsignedChars, w.dropWhile_unsignedChars, hsplit, hfactors]
  simp only [Option.bind_eq_bind, Option.bind_some, digitsValue_eq]
  rfl

/-- **An amount without a sign.** -/
theorem parseUnsigned?_eq_some_iff {cs : List Char} {n d : Nat} :
    parseUnsigned? cs = some (n, d) ↔
      ∃ w : Written, cs = w.unsignedChars ∧ w.Fits ∧ n = w.numer ∧ d = w.denom := by
  constructor
  · intro h
    obtain ⟨⟨whole, fraction⟩, hsplit, h⟩ := Option.bind_eq_some_iff.1 h
    obtain ⟨digits, hdigits, h⟩ := Option.bind_eq_some_iff.1 h
    obtain ⟨places, hplaces, h⟩ := Option.bind_eq_some_iff.1 h
    obtain ⟨⟨up, down⟩, hfactors, h⟩ := Option.bind_eq_some_iff.1 h
    obtain ⟨numer, hnumer, h⟩ := Option.bind_eq_some_iff.1 h
    obtain ⟨denom, hdenom, h⟩ := Option.bind_eq_some_iff.1 h
    cases h
    have hnumeral : ∀ c ∈ cs.takeWhile isNumeral, isNumeral c = true := by
      intro c hc
      exact List.mem_takeWhile_imp hc
    obtain ⟨point, hnumber, rfl, hne, hd⟩ := (splitPoint?_eq_some_iff hnumeral).1 hsplit
    obtain ⟨suffix, hsuffix, hpower, rfl, rfl⟩ := suffixFactors?_eq_some_iff.1 hfactors
    rw [digitsValue_eq, within?_eq_some_iff] at hdigits
    rw [powerOfTen?_eq_some_iff] at hplaces
    rw [within?_eq_some_iff] at hnumer hdenom
    obtain ⟨hdigits, rfl⟩ := hdigits
    obtain ⟨hplaces, rfl⟩ := hplaces
    -- the parts that were read make up an amount without a sign
    refine ⟨⟨.none, whole, point, suffix, hne, hd⟩, ?_, ?_, hnumer.2, hdenom.2⟩
    · rw [Written.unsignedChars, ← hnumber, ← hsuffix, List.takeWhile_append_dropWhile]
    · exact ⟨hdigits, hplaces, hpower, hnumer.1, hdenom.1⟩
  · rintro ⟨w, rfl, hfits, rfl, rfl⟩
    have hdigits : within? w.digits = some w.digits := within?_eq_some_iff.2 ⟨hfits.digits, rfl⟩
    have hplaces : powerOfTen? w.places = some (10 ^ w.places) :=
      powerOfTen?_eq_some_iff.2 ⟨hfits.places, rfl⟩
    have hnumer : within? (w.digits * w.suffix.up) = some w.numer :=
      within?_eq_some_iff.2 ⟨hfits.numer, rfl⟩
    have hdenom : within? (10 ^ w.places * w.suffix.down) = some w.denom :=
      within?_eq_some_iff.2 ⟨hfits.denom, rfl⟩
    simp [parseUnsigned?_unsignedChars w hfits.power, hdigits, hplaces, hnumer, hdenom]

theorem Written.exists_unsignedChars (w : Written) :
    ∃ c cs, w.unsignedChars = c :: cs ∧ c ≠ '-' ∧ c ≠ '+' := by
  have hnumeral {c : Char} (hc : c ∈ w.whole ++ pointChars w.fraction) : c ≠ '-' ∧ c ≠ '+' := by
    have h := w.isNumeral c hc
    constructor <;> rintro rfl <;> exact absurd h (by decide)
  have hne : w.whole ++ pointChars w.fraction ≠ [] := by
    have h := w.digits_ne_nil
    cases hf : w.fraction <;> simp_all [pointChars]
  obtain ⟨c, cs, hcs⟩ := List.exists_cons_of_ne_nil hne
  refine ⟨c, cs ++ w.suffix.chars, ?_, hnumeral (hcs ▸ List.mem_cons_self)⟩
  rw [Written.unsignedChars, hcs, List.cons_append]

theorem parse?_of_isIn {s : String} {w : Written} (h : w.IsIn s) :
    parse? s = (parseUnsigned? w.unsignedChars).map fun (n, d) => ⟨w.sign.factor * n, d⟩ := by
  rw [Written.IsIn, Written.chars] at h
  cases hsign : w.sign with
  | none =>
    obtain ⟨c, cs, hcs, hminus, hplus⟩ := w.exists_unsignedChars
    rw [hcs] at h ⊢
    simp [parse?, h, hsign, Sign.chars, Sign.factor, hminus, hplus]
  | plus => simp [parse?, h, hsign, Sign.chars, Sign.factor]
  | minus => simp [parse?, h, hsign, Sign.chars, Sign.factor]

/-- **An amount is read just if it is written so and its numbers stay within the bounds.** -/
theorem parse?_eq_some_iff {s : String} {q : Quantity} :
    parse? s = some q ↔
      ∃ w : Written, w.IsIn s ∧ w.Fits ∧ q = ⟨w.sign.factor * w.numer, w.denom⟩ := by
  constructor
  · intro h
    have hsigned {cs : List Char} {f : Nat × Nat → Quantity} (sign : Sign)
        (htrim : Text.trimChars s.toList = sign.chars ++ cs)
        (hf : ∀ n d, f (n, d) = ⟨sign.factor * n, d⟩)
        (h : (parseUnsigned? cs).map f = some q) :
        ∃ w : Written, w.IsIn s ∧ w.Fits ∧ q = ⟨w.sign.factor * w.numer, w.denom⟩ := by
      obtain ⟨⟨n, d⟩, hparse, rfl⟩ := Option.map_eq_some_iff.1 h
      obtain ⟨w, rfl, hfits, rfl, rfl⟩ := parseUnsigned?_eq_some_iff.1 hparse
      exact ⟨{ w with sign := sign }, htrim, ⟨hfits.1, hfits.2, hfits.3, hfits.4, hfits.5⟩, hf _ _⟩
    rw [parse?] at h
    split at h
    · cases h
    · rename_i htrim
      exact hsigned .minus htrim (fun n d => by simp [Sign.factor]) h
    · rename_i htrim
      exact hsigned .plus htrim (fun n d => by simp [Sign.factor]) h
    · rename_i htrim
      exact hsigned .none rfl (fun n d => by simp [Sign.factor]) h
  · rintro ⟨w, hw, hfits, rfl⟩
    have hparse : parseUnsigned? w.unsignedChars = some (w.numer, w.denom) :=
      parseUnsigned?_eq_some_iff.2 ⟨w, rfl, hfits, rfl, rfl⟩
    rw [parse?_of_isIn hw, hparse, Option.map_some]

end Quantity

end ClusterGateway

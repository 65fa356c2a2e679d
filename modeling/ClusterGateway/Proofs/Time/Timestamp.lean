import Mathlib.Data.List.Basic
import Mathlib.Data.List.TakeWhile
import Mathlib.Data.String.Basic
import ClusterGateway.Proofs.Text.Digits
import ClusterGateway.Proofs.Time.Calendar
import ClusterGateway.Time.Rfc3339

/-!
# Timestamps as they are written

A timestamp is a date, a time of day to any number of digits, and an offset from UTC
(`Rfc3339.Timestamp`, after RFC 3339).  The offset may be spelt in several ways.

* `Rfc3339.parseChars?_eq_some_iff` : **a text is read as an instant just if it is a timestamp of
  this instant**.
* `Rfc3339.Timestamp.exists_writes` : **every instant can be written at every offset** at which the
  year has four digits, with any number of digits that holds its fraction exactly.
* `Rfc3339.Timestamp.instant_of_writes` : **what is written at an offset is the instant itself.**
-/

namespace ClusterGateway

namespace Time

namespace Rfc3339

/-! ### Numbers -/

theorem digitsValue_eq (ds : List Char) : digitsValue ds = Text.decimal ds :=
  Text.foldl_digits_zero ds

section Padded

variable {width n : Nat}

theorem length_padded (hpos : 0 < width) (h : n < 10 ^ width) :
    (padded width n).length = width := by
  have hle := (Nat.length_toDigits_le_iff (b := 10) (by omega) hpos).2 h
  simp only [padded, List.length_append, List.length_replicate]
  omega

theorem isDigit_of_mem_padded {c : Char} (h : c ∈ padded width n) : c.isDigit = true := by
  rw [padded, List.mem_append] at h
  obtain h | h := h
  · rw [List.eq_of_mem_replicate h]
    rfl
  · exact Nat.isDigit_of_mem_toDigits (by omega) (by omega) h

theorem decimal_padded (width n : Nat) : Text.decimal (padded width n) = n := by
  have hfold : Text.decimal (padded width n) = Nat.ofDigitChars 10 (padded width n) 0 :=
    (Text.foldl_digits_zero _).symm
  simp only [padded] at hfold ⊢
  rw [hfold, Nat.ofDigitChars_append, Nat.ofDigitChars_replicate_zero, Nat.mul_zero,
    Nat.ofDigitChars_ten_toDigits]

theorem eq_padded {ds : List Char} (h : ∀ c ∈ ds, c.isDigit = true) (hpos : 0 < ds.length) :
    ds = padded ds.length (Text.decimal ds) :=
  Text.decimal_injective h (fun _ => isDigit_of_mem_padded)
    (length_padded hpos (Text.decimal_lt h)).symm (decimal_padded _ _).symm

end Padded

/-! ### The parts of the text -/

variable {cs rest : List Char} {n : Nat}

theorem takeDigits_spec (limit : Nat) (cs : List Char) :
    cs = (takeDigits limit cs).1 ++ (takeDigits limit cs).2 ∧
      (∀ c ∈ (takeDigits limit cs).1, c.isDigit = true) ∧
      ((takeDigits limit cs).1.length = limit ∨ (takeDigits limit cs).1.length < limit ∧
        ∀ c ∈ (takeDigits limit cs).2.head?, c.isDigit = false) := by
  induction limit generalizing cs with
  | zero => simp [takeDigits]
  | succ limit ih =>
    cases cs with
    | nil => simp [takeDigits]
    | cons c cs =>
      rw [takeDigits]
      by_cases hc : c.isDigit = true
      · obtain ⟨hcs, hdigits, hends⟩ := ih cs
        rw [if_pos hc]
        refine ⟨congrArg (c :: ·) hcs, List.forall_mem_cons.2 ⟨hc, hdigits⟩, ?_⟩
        simpa using hends
      · rw [if_neg hc]
        simpa using hc

theorem takeDigits_append {ds : List Char} (hd : ∀ c ∈ ds, c.isDigit = true) {limit : Nat}
    (h : ds.length = limit ∨ ds.length < limit ∧ ∀ c ∈ rest.head?, c.isDigit = false) :
    takeDigits limit (ds ++ rest) = (ds, rest) := by
  induction ds generalizing limit with
  | nil =>
    cases limit with
    | zero => rw [takeDigits, List.nil_append]
    | succ limit =>
      cases rest with
      | nil => rfl
      | cons c rest =>
        have hc : c.isDigit = false := by simpa using h
        simp [takeDigits, hc]
  | cons d ds ih =>
    obtain ⟨hfirst, hd⟩ := List.forall_mem_cons.1 hd
    cases limit with
    | zero => simp at h
    | succ limit =>
      have hends : ds.length = limit ∨ ds.length < limit ∧ ∀ c ∈ rest.head?, c.isDigit = false := by
        simpa using h
      rw [List.cons_append, takeDigits, if_pos hfirst, ih hd hends]

/-- **A number of so many digits.** -/
theorem number?_eq_some_iff {width : Nat} (hpos : 0 < width) :
    number? width width cs = some (n, rest) ↔ n < 10 ^ width ∧ cs = padded width n ++ rest := by
  obtain ⟨hcs, hdigits, hends⟩ := takeDigits_spec width cs
  rw [number?]
  dsimp only
  constructor
  · intro h
    split at h
    · rename_i hwidth
      obtain ⟨rfl, rfl⟩ := Prod.mk.inj (Option.some.inj h)
      have hlength : (takeDigits width cs).1.length = width := by omega
      have hlt := Text.decimal_lt hdigits
      have hpadded := eq_padded hdigits (by omega)
      rw [hlength] at hlt hpadded
      rw [digitsValue_eq, ← hpadded]
      exact ⟨hlt, hcs⟩
    · cases h
  · rintro ⟨hlt, rfl⟩
    have hlength := length_padded hpos hlt
    rw [takeDigits_append (fun _ => isDigit_of_mem_padded) (.inl hlength), if_pos hlength.ge,
      digitsValue_eq, decimal_padded]

theorem number?_padded {width : Nat} (hpos : 0 < width) (h : n < 10 ^ width) (rest : List Char) :
    number? width width (padded width n ++ rest) = some (n, rest) :=
  (number?_eq_some_iff hpos).2 ⟨h, rfl⟩

theorem expect_eq_some_iff {c : Char} : expect c cs = some rest ↔ cs = c :: rest := by
  cases cs with
  | nil => simp [expect]
  | cons d cs => simp [expect]

/-- The text of a fraction of a second. -/
def fractionText (ds : List Char) : List Char := if ds = [] then [] else '.' :: ds

/-- The nanoseconds that the digits of a fraction write; those after the ninth do not count. -/
def nanosOf (ds : List Char) : Nat := Text.decimal (ds.take 9) * 10 ^ (9 - (ds.take 9).length)

theorem exists_of_fraction? (h : fraction? cs = some (n, rest)) :
    ∃ ds, (∀ c ∈ ds, c.isDigit = true) ∧ cs = fractionText ds ++ rest ∧ nanosOf ds = n := by
  rw [fraction?.eq_def] at h
  split at h
  · rename_i cs
    obtain ⟨hcs, hdigits, hends⟩ := takeDigits_spec 9 cs
    dsimp only at h
    generalize (takeDigits 9 cs).1 = ds at *
    generalize (takeDigits 9 cs).2 = more at *
    split at h
    · cases h
    rename_i hne
    obtain ⟨rfl, rfl⟩ := Prod.mk.inj (Option.some.inj h)
    refine ⟨ds ++ more.takeWhile Char.isDigit, ?_, ?_, ?_⟩
    · rw [List.forall_mem_append]
      exact ⟨hdigits, fun c hc => List.mem_takeWhile_imp hc⟩
    · rw [fractionText, if_neg (by simp [hne]), hcs, List.cons_append, List.append_assoc,
        List.takeWhile_append_dropWhile]
    · -- digits behind the ninth do not count
      have htake : (ds ++ more.takeWhile Char.isDigit).take 9 = ds := by
        obtain hnine | ⟨hless, hhead⟩ := hends
        · rw [← hnine, List.take_left]
        · have hnone : more.takeWhile Char.isDigit = [] := by
            cases more with
            | nil => rfl
            | cons c more =>
              have hc : c.isDigit = false := by simpa using hhead
              rw [List.takeWhile_cons_of_neg (by simp [hc])]
          rw [hnone, List.append_nil, List.take_of_length_le hless.le]
      rw [nanosOf, htake, digitsValue_eq]
      rfl
  · obtain ⟨rfl, rfl⟩ := Prod.mk.inj (Option.some.inj h)
    exact ⟨[], fun c hc => absurd hc List.not_mem_nil, rfl, rfl⟩

theorem fraction?_append {ds : List Char} (hd : ∀ c ∈ ds, c.isDigit = true)
    (hrest : ∀ c ∈ rest.head?, c ≠ '.' ∧ c.isDigit = false) :
    fraction? (fractionText ds ++ rest) = some (nanosOf ds, rest) := by
  by_cases hds : ds = []
  · subst hds
    rw [fractionText, if_pos rfl, List.nil_append]
    cases rest with
    | nil => rfl
    | cons c rest =>
      have hpoint : c ≠ '.' := (hrest c rfl).1
      rw [fraction?.eq_def]
      split
      · rename_i heq
        exact absurd (List.cons.inj heq).1 hpoint
      · rfl
  · have hends : (ds.take 9).length = 9 ∨
        (ds.take 9).length < 9 ∧ ∀ c ∈ (ds.drop 9 ++ rest).head?, c.isDigit = false := by
      by_cases hnine : 9 ≤ ds.length
      · exact .inl (by simpa using hnine)
      · refine .inr ⟨by simp; omega, ?_⟩
        rw [List.drop_eq_nil_of_le (by omega), List.nil_append]
        exact fun c hc => (hrest c hc).2
    have htake := takeDigits_append (fun c hc => hd c (List.mem_of_mem_take hc)) hends
    rw [← List.append_assoc, List.take_append_drop] at htake
    have hdrop : (ds.drop 9 ++ rest).dropWhile Char.isDigit = rest := by
      rw [List.dropWhile_append_of_pos fun c hc => hd c (List.mem_of_mem_drop hc)]
      cases rest with
      | nil => rfl
      | cons c rest => rw [List.dropWhile_cons_of_neg (by simp [(hrest c rfl).2])]
    rw [fractionText, if_neg hds, List.cons_append, fraction?, htake]
    dsimp only
    rw [if_neg (by simpa using hds), hdrop, digitsValue_eq]
    rfl

/-! ### The offset -/

/-- The sign of an offset.  A minus may be a hyphen or the sign of arithmetic. -/
inductive Sign where
  /-- The plus. -/
  | plus
  /-- The hyphen that stands for the minus. -/
  | hyphen
  /-- The minus of arithmetic (U+2212). -/
  | minus
  deriving Repr, DecidableEq

namespace Sign

/-- The character. -/
def char : Sign → Char
  | plus => '+'
  | hyphen => '-'
  | minus => '−'

/-- A number with the sign. -/
def times : Sign → Int → Int
  | plus, n => n
  | hyphen, n => -n
  | minus, n => -n

end Sign

/-- An offset from UTC as it is written. -/
inductive Zone where
  /-- None, as a capital or as a small letter. -/
  | utc (capital : Bool)
  /-- Hours and minutes to the east or to the west. -/
  | shifted (sign : Sign) (hours : Fin 24) (minutes : Fin 60)
  deriving Repr, DecidableEq

namespace Zone

/-- The text. -/
def chars : Zone → List Char
  | utc capital => [if capital then 'Z' else 'z']
  | shifted sign hours minutes => sign.char :: (padded 2 hours ++ ':' :: padded 2 minutes)

/-- The minutes from UTC. -/
def offset : Zone → Int
  | utc _ => 0
  | shifted sign hours minutes => sign.times ((hours : Nat) * 60 + (minutes : Nat))

/-- Whether the offset is written after the letter of RFC 3339, which knows the hyphen only. -/
def IsStrict : Zone → Prop
  | shifted .minus _ _ => False
  | _ => True

/-- **Every offset of less than a day can be written.** -/
theorem exists_offset_eq {o : Int} (h : -1440 < o ∧ o < 1440) :
    ∃ z : Zone, z.offset = o ∧ z.IsStrict := by
  have hhours : o.natAbs / 60 < 24 := by omega
  have hminutes : o.natAbs % 60 < 60 := by omega
  by_cases hsign : 0 ≤ o
  · refine ⟨shifted .plus ⟨_, hhours⟩ ⟨_, hminutes⟩, ?_, trivial⟩
    simp only [offset, Sign.times]
    omega
  · refine ⟨shifted .hyphen ⟨_, hhours⟩ ⟨_, hminutes⟩, ?_, trivial⟩
    simp only [offset, Sign.times]
    omega

theorem offset_bounds (z : Zone) : -1440 < z.offset ∧ z.offset < 1440 := by
  cases z with
  | utc capital => decide +revert
  | shifted sign hours minutes =>
    rw [offset]
    cases sign <;> simp only [Sign.times] <;> omega

theorem head_chars (z : Zone) (rest : List Char) :
    ∀ c ∈ (z.chars ++ rest).head?, c ≠ '.' ∧ c.isDigit = false := by
  cases z with
  | utc capital => cases capital <;> simp [chars]
  | shifted sign hours minutes => cases sign <;> simp [chars, Sign.char]

theorem mem_chars {z : Zone} {c : Char} (h : c ∈ z.chars) :
    c.isDigit = true ∨ c ∈ [':', 'Z', 'z', '+', '-', '−'] := by
  cases z with
  | utc capital => cases capital <;> simp_all [chars]
  | shifted sign hours minutes =>
    rw [chars, List.mem_cons, List.mem_append, List.mem_cons] at h
    obtain rfl | h | rfl | h := h
    · cases sign <;> simp [Sign.char]
    · exact .inl (isDigit_of_mem_padded h)
    · simp
    · exact .inl (isDigit_of_mem_padded h)

theorem minus_notMem_chars {z : Zone} (h : z.IsStrict) : '−' ∉ z.chars := by
  cases z with
  | utc capital => cases capital <;> decide
  | shifted sign hours minutes =>
    have hdigits : ∀ n, '−' ∉ padded 2 n := fun n hminus =>
      absurd (isDigit_of_mem_padded hminus) (by decide)
    cases sign <;> simp_all [chars, Sign.char, IsStrict]

end Zone

/-- The offset whose hours and minutes follow a sign. -/
def shift? (sign : Sign) (cs : List Char) : Option (Int × List Char) := do
  let (hours, cs) ← number? 2 2 cs
  let cs ← expect ':' cs
  let (minutes, cs) ← number? 2 2 cs
  if minutes < 60 ∧ hours < 24 then return (sign.times (hours * 60 + minutes), cs) else none

theorem offset?_sign (sign : Sign) (cs : List Char) :
    offset? (expect ':') (sign.char :: cs) = shift? sign cs := by
  cases sign <;> rfl

theorem offset?_cases {o : Int × List Char} (h : offset? (expect ':') cs = some o) :
    (∃ capital rest, cs = (Zone.utc capital).chars ++ rest ∧ o = (0, rest)) ∨
      ∃ (sign : Sign) (rest : List Char), cs = sign.char :: rest ∧ shift? sign rest = some o := by
  rw [offset?.eq_def] at h
  split at h
  · exact .inl ⟨true, _, rfl, (Option.some.inj h).symm⟩
  · exact .inl ⟨false, _, rfl, (Option.some.inj h).symm⟩
  · rename_i sign rest _ _
    refine .inr ?_
    by_cases hplus : sign = '+'
    · subst hplus
      exact ⟨.plus, rest, rfl, h⟩
    by_cases hminus : sign = '-' ∨ sign = '−'
    · obtain rfl | rfl := hminus
      · exact ⟨.hyphen, rest, rfl, h⟩
      · exact ⟨.minus, rest, rfl, h⟩
    · -- The `if` stands below a local definition, where `rw` does not reach.
      simp only [if_neg hplus, if_neg hminus] at h
      cases h
  · cases h

theorem shift?_eq_some_iff {sign : Sign} {o : Int} : shift? sign cs = some (o, rest) ↔
    ∃ (hours : Fin 24) (minutes : Fin 60),
      cs = padded 2 hours ++ ':' :: (padded 2 minutes ++ rest) ∧
      (Zone.shifted sign hours minutes).offset = o := by
  constructor
  · intro h
    obtain ⟨⟨hours, more⟩, hhours, h⟩ := Option.bind_eq_some_iff.1 h
    obtain ⟨afterColon, hcolon, h⟩ := Option.bind_eq_some_iff.1 h
    obtain ⟨⟨minutes, afterMinutes⟩, hminutes, h⟩ := Option.bind_eq_some_iff.1 h
    dsimp only at h
    split at h
    case isFalse => cases h
    rename_i hrange
    obtain ⟨rfl, rfl⟩ := Prod.mk.inj (Option.some.inj h)
    obtain ⟨-, rfl⟩ := (number?_eq_some_iff (by omega)).1 hhours
    obtain rfl := expect_eq_some_iff.1 hcolon
    obtain ⟨-, rfl⟩ := (number?_eq_some_iff (by omega)).1 hminutes
    exact ⟨⟨hours, hrange.2⟩, ⟨minutes, hrange.1⟩, rfl, rfl⟩
  · rintro ⟨hours, minutes, rfl, rfl⟩
    have hhours : (hours : Nat) < 10 ^ 2 := by omega
    have hminutes : (minutes : Nat) < 10 ^ 2 := by omega
    refine Option.bind_eq_some_iff.2 ⟨_, number?_padded (by omega) hhours _, ?_⟩
    refine Option.bind_eq_some_iff.2 ⟨_, expect_eq_some_iff.2 rfl, ?_⟩
    refine Option.bind_eq_some_iff.2 ⟨_, number?_padded (by omega) hminutes _, ?_⟩
    exact if_pos ⟨minutes.isLt, hours.isLt⟩

theorem offset?_eq_some_iff {o : Int} : offset? (expect ':') cs = some (o, rest) ↔
    ∃ z : Zone, cs = z.chars ++ rest ∧ z.offset = o := by
  constructor
  · intro h
    obtain ⟨capital, more, rfl, ho⟩ | ⟨sign, more, rfl, hshift⟩ := offset?_cases h
    · obtain ⟨rfl, rfl⟩ := Prod.mk.inj ho
      exact ⟨.utc capital, rfl, rfl⟩
    · obtain ⟨hours, minutes, rfl, rfl⟩ := shift?_eq_some_iff.1 hshift
      exact ⟨.shifted sign hours minutes, by simp [Zone.chars], rfl⟩
  · rintro ⟨z, rfl, rfl⟩
    cases z with
    | utc capital => cases capital <;> rfl
    | shifted sign hours minutes =>
      rw [Zone.chars, List.cons_append, offset?_sign, shift?_eq_some_iff]
      exact ⟨hours, minutes, by simp, rfl⟩

/-! ### Whole timestamps -/

/-- A timestamp as it is written. -/
structure Timestamp where
  /-- The year. -/
  year : Fin 10000
  /-- The month, from 1. -/
  month : Nat
  /-- The day of the month, from 1. -/
  day : Nat
  /-- The calendar has the day. -/
  isValid : Date.isValid ⟨year, month, day⟩ = true
  /-- What stands between the date and the time of day. -/
  divider : Char
  /-- It may stand there. -/
  isDivider_divider : isDivider divider = true
  /-- The hour of the day. -/
  hour : Fin 24
  /-- The minute of the hour. -/
  minute : Fin 60
  /-- The second of the minute; 60 is a leap second. -/
  second : Fin 61
  /-- The digits of the fraction of a second; none where it is not written. -/
  fraction : List Char
  /-- They are digits. -/
  isDigit_fraction : ∀ c ∈ fraction, c.isDigit = true
  /-- The offset from UTC. -/
  zone : Zone

namespace Timestamp

/-- The characters of the text. -/
def chars (s : Timestamp) : List Char :=
  padded 4 s.year ++ '-' :: (padded 2 s.month ++ '-' :: (padded 2 s.day ++ s.divider ::
    (padded 2 s.hour ++ ':' :: (padded 2 s.minute ++ ':' :: (padded 2 s.second ++
      (fractionText s.fraction ++ s.zone.chars))))))

/-- The text. -/
def text (s : Timestamp) : String := String.ofList s.chars

/-- The calendar day. -/
def date (s : Timestamp) : Date := ⟨s.year, s.month, s.day⟩

/-- The instant.  A leap second prolongs the second before it. -/
def instant (s : Timestamp) : Instant :=
  ⟨s.date.toDays * 86400 + s.hour.val * 3600 + s.minute.val * 60 + (min s.second.val 59 : Nat) -
      60 * s.zone.offset,
    nanosOf s.fraction + (s.second.val - min s.second.val 59) * Instant.nanosPerSecond⟩

/-- The offset leads out of no year that the calendar may have. -/
theorem instantIsInRange_instant (s : Timestamp) : instantIsInRange s.instant = true := by
  have hoffset := s.zone.offset_bounds
  have hdate := Date.toDays_bounds s.isValid
  dsimp only at hdate
  generalize hday : s.instant.seconds / 86400 + epochDay = day
  have hseconds : s.instant.seconds = s.date.toDays * 86400 + s.hour.val * 3600 +
    s.minute.val * 60 + (min s.second.val 59 : Nat) - 60 * s.zone.offset := rfl
  have hyear := Date.yearStart_yearOf day
  -- years are of the mean length up to some days, so that it is enough to count the days
  have hlow := Date.yearStart_bounds s.year
  have hhigh := Date.yearStart_bounds (s.year + 1)
  have hstart := Date.yearStart_bounds (Date.yearOf day)
  have hend := Date.yearStart_bounds (Date.yearOf day + 1)
  have hofDays : (Date.ofDays (s.instant.seconds / 86400)).year = Date.yearOf day := by
    rw [← hday]
    rfl
  rw [instantIsInRange, hofDays, yearIsInRange, Bool.and_eq_true, decide_eq_true_eq,
    decide_eq_true_eq]
  rw [date] at hseconds
  omega

theorem mem_chars {s : Timestamp} {c : Char} (h : c ∈ s.chars) :
    c.isDigit = true ∨ c ∈ ['-', ':', '.'] ∨ c = s.divider ∨ c ∈ s.zone.chars := by
  have hpadded : ∀ {width n}, c ∈ padded width n → c.isDigit = true := isDigit_of_mem_padded
  have hfraction : c ∈ fractionText s.fraction → c = '.' ∨ c.isDigit = true := by
    intro hc
    rw [fractionText] at hc
    split at hc
    · cases hc
    · exact (List.mem_cons.1 hc).imp_right (s.isDigit_fraction c)
  simp only [chars, List.mem_append, List.mem_cons] at h
  grind

theorem blank_notMem_chars {s : Timestamp} (h : s.divider ≠ ' ') : ' ' ∉ s.chars := by
  intro hblank
  obtain hdigit | hmark | hdivider | hzone := mem_chars hblank
  · cases hdigit
  · simp at hmark
  · exact h hdivider.symm
  · simpa using Zone.mem_chars hzone

/-- A timestamp after the letter of RFC 3339. -/
structure IsStrict (s : Timestamp) : Prop where
  /-- No blank divides the date and the time of day. -/
  divider_ne : s.divider ≠ ' '
  /-- So is the offset. -/
  zone : s.zone.IsStrict

theorem minus_notMem_chars {s : Timestamp} (h : s.IsStrict) : '−' ∉ s.chars := by
  intro hminus
  obtain hdigit | hmark | hdivider | hzone := mem_chars hminus
  · cases hdigit
  · simp at hmark
  · have hmay := s.isDivider_divider
    rw [← hdivider] at hmay
    cases hmay
  · exact Zone.minus_notMem_chars h.zone hzone

end Timestamp

theorem instant?_eq_some_iff {p : Parts} {t : Instant} : p.instant? = some t ↔
    (p.date.isValid = true ∧ yearIsInRange p.date.year = true ∧ p.hour < 24 ∧ p.minute < 60 ∧
      p.second ≤ 60) ∧
    instantIsInRange t = true ∧
    ⟨p.date.toDays * 86400 + p.hour * 3600 + p.minute * 60 + (min p.second 59 : Nat) -
      60 * p.offset, p.nanos + (p.second - min p.second 59) * Instant.nanosPerSecond⟩ = t := by
  rw [Parts.instant?]
  split
  · rename_i hparts
    dsimp only
    split
    · rename_i hrange
      simp only [Option.some.injEq, hparts, true_and]
      exact ⟨fun h => ⟨h ▸ hrange, h⟩, And.right⟩
    · rename_i hrange
      simp only [reduceCtorEq, false_iff]
      rintro ⟨-, ht, rfl⟩
      exact hrange ht
  · rename_i hparts
    simp only [reduceCtorEq, false_iff]
    exact fun h => hparts h.1

theorem Timestamp.instant?_parts (s : Timestamp) :
    (Parts.mk s.date s.hour s.minute s.second (nanosOf s.fraction) s.zone.offset).instant? =
      some s.instant := by
  have hyear : yearIsInRange s.year = true := by
    simp only [yearIsInRange, Bool.and_eq_true, decide_eq_true_eq]
    omega
  exact instant?_eq_some_iff.2 ⟨⟨s.isValid, hyear, s.hour.isLt, s.minute.isLt,
    Nat.le_of_lt_succ s.second.isLt⟩, s.instantIsInRange_instant, rfl⟩

theorem exists_of_parseChars? {t : Instant} (h : parseChars? cs = some t) :
    ∃ s : Timestamp, s.chars = cs ∧ s.instant = t := by
  -- The parts in the order of the text, each with what it leaves.
  obtain ⟨⟨year, afterYear⟩, hyear, h⟩ := Option.bind_eq_some_iff.1 h
  obtain ⟨fromMonth, hdash₁, h⟩ := Option.bind_eq_some_iff.1 h
  obtain ⟨⟨month, afterMonth⟩, hmonth, h⟩ := Option.bind_eq_some_iff.1 h
  obtain ⟨fromDay, hdash₂, h⟩ := Option.bind_eq_some_iff.1 h
  obtain ⟨⟨day, afterDay⟩, hday, h⟩ := Option.bind_eq_some_iff.1 h
  obtain _ | ⟨divider, fromHour⟩ := afterDay
  · cases h
  by_cases hdivider : isDivider divider = true
  case neg =>
    simp only [if_neg hdivider] at h
    cases h
  simp only [if_pos hdivider, Option.bind_eq_bind, Option.bind_some] at h
  obtain ⟨⟨hour, afterHour⟩, hhour, h⟩ := Option.bind_eq_some_iff.1 h
  obtain ⟨fromMinute, hcolon₁, h⟩ := Option.bind_eq_some_iff.1 h
  obtain ⟨⟨minute, afterMinute⟩, hminute, h⟩ := Option.bind_eq_some_iff.1 h
  obtain ⟨fromSecond, hcolon₂, h⟩ := Option.bind_eq_some_iff.1 h
  obtain ⟨⟨second, afterSecond⟩, hsecond, h⟩ := Option.bind_eq_some_iff.1 h
  obtain ⟨⟨nanos, afterFraction⟩, hnanos, h⟩ := Option.bind_eq_some_iff.1 h
  obtain ⟨⟨offset, afterZone⟩, hoffset, h⟩ := Option.bind_eq_some_iff.1 h
  dsimp only at h
  split at h
  case isFalse => cases h
  rename_i hend
  subst hend
  obtain ⟨⟨hvalid, -, hhour', hminute', hsecond'⟩, -, hinstant⟩ := instant?_eq_some_iff.1 h
  obtain ⟨hyear', rfl⟩ := (number?_eq_some_iff (by omega)).1 hyear
  obtain rfl := expect_eq_some_iff.1 hdash₁
  obtain ⟨-, rfl⟩ := (number?_eq_some_iff (by omega)).1 hmonth
  obtain rfl := expect_eq_some_iff.1 hdash₂
  obtain ⟨-, rfl⟩ := (number?_eq_some_iff (by omega)).1 hday
  obtain ⟨-, rfl⟩ := (number?_eq_some_iff (by omega)).1 hhour
  obtain rfl := expect_eq_some_iff.1 hcolon₁
  obtain ⟨-, rfl⟩ := (number?_eq_some_iff (by omega)).1 hminute
  obtain rfl := expect_eq_some_iff.1 hcolon₂
  obtain ⟨-, rfl⟩ := (number?_eq_some_iff (by omega)).1 hsecond
  obtain ⟨fraction, hdigits, rfl, rfl⟩ := exists_of_fraction? hnanos
  obtain ⟨zone, rfl, rfl⟩ := offset?_eq_some_iff.1 hoffset
  refine ⟨⟨⟨year, hyear'⟩, month, day, hvalid, divider, hdivider, ⟨hour, hhour'⟩,
    ⟨minute, hminute'⟩, ⟨second, Nat.lt_succ_of_le hsecond'⟩, fraction, hdigits, zone⟩, ?_, ?_⟩
  · rw [Timestamp.chars, List.append_nil]
  · exact hinstant

theorem parseChars?_chars (s : Timestamp) : parseChars? s.chars = some s.instant := by
  obtain ⟨hmonth, hday⟩ : s.month ≤ 12 ∧ s.day ≤ 31 := Date.bounds_of_isValid s.isValid
  refine Option.bind_eq_some_iff.2 ⟨_, number?_padded (by omega) s.year.isLt _, ?_⟩
  refine Option.bind_eq_some_iff.2 ⟨_, expect_eq_some_iff.2 rfl, ?_⟩
  refine Option.bind_eq_some_iff.2 ⟨_, number?_padded (by omega) (by omega) _, ?_⟩
  refine Option.bind_eq_some_iff.2 ⟨_, expect_eq_some_iff.2 rfl, ?_⟩
  refine Option.bind_eq_some_iff.2 ⟨_, number?_padded (by omega) (by omega) _, ?_⟩
  simp only [if_pos s.isDivider_divider, Option.bind_eq_bind, Option.bind_some]
  refine Option.bind_eq_some_iff.2 ⟨_, number?_padded (by omega) (by omega) _, ?_⟩
  refine Option.bind_eq_some_iff.2 ⟨_, expect_eq_some_iff.2 rfl, ?_⟩
  refine Option.bind_eq_some_iff.2 ⟨_, number?_padded (by omega) (by omega) _, ?_⟩
  refine Option.bind_eq_some_iff.2 ⟨_, expect_eq_some_iff.2 rfl, ?_⟩
  refine Option.bind_eq_some_iff.2 ⟨_, number?_padded (by omega) (by omega) _, ?_⟩
  refine Option.bind_eq_some_iff.2
    ⟨_, fraction?_append s.isDigit_fraction (by simpa using s.zone.head_chars []), ?_⟩
  refine Option.bind_eq_some_iff.2
    ⟨_, offset?_eq_some_iff.2 ⟨s.zone, (List.append_nil _).symm, rfl⟩, ?_⟩
  exact (if_pos rfl).trans s.instant?_parts

/-- **What is read.**  A text is read as an instant just if it is a timestamp of this instant. -/
theorem parseChars?_eq_some_iff {t : Instant} : parseChars? cs = some t ↔
    ∃ s : Timestamp, s.chars = cs ∧ s.instant = t := by
  constructor
  · exact exists_of_parseChars?
  · rintro ⟨s, rfl, rfl⟩
    exact parseChars?_chars s

theorem parse?_eq_some_iff {stamp : String} {t : Instant} : parse? stamp = some t ↔
    ∃ s : Timestamp, s.text = stamp ∧ s.instant = t := by
  simp only [parse?, parseChars?_eq_some_iff, Timestamp.text, String.ofList_eq]

theorem parse?_eq_none_iff {stamp : String} :
    parse? stamp = none ↔ ∀ s : Timestamp, s.text ≠ stamp := by
  rw [Option.eq_none_iff_forall_ne_some]
  constructor
  · intro hnone s hs
    exact hnone s.instant (parse?_eq_some_iff.2 ⟨s, hs, rfl⟩)
  · intro hnot t ht
    obtain ⟨s, hs, -⟩ := parse?_eq_some_iff.1 ht
    exact hnot s hs

/-! ### Timestamps of an instant -/

/-- Digits write a fraction of a second exactly. -/
structure IsFraction (nanos : Nat) (ds : List Char) : Prop where
  /-- They are digits. -/
  isDigit : ∀ c ∈ ds, c.isDigit = true
  /-- The last one counts `10 ^ -ds.length` seconds. -/
  decimal_eq : Text.decimal ds * 10 ^ 9 = nanos * 10 ^ ds.length

namespace IsFraction

variable {nanos : Nat} {ds : List Char}

theorem nanosOf_eq (h : IsFraction nanos ds) : nanosOf ds = nanos := by
  have hvalue := h.decimal_eq
  rw [nanosOf]
  -- fewer digits are filled up with zeros, and of more than nine the last ones are zeros
  obtain hshort | hlong := Nat.le_or_ge ds.length 9
  · have hpow : 10 ^ 9 = 10 ^ (9 - ds.length) * 10 ^ ds.length := by
      rw [← Nat.pow_add, Nat.sub_add_cancel hshort]
    rw [List.take_of_length_le hshort]
    rw [hpow, ← Nat.mul_assoc] at hvalue
    exact Nat.eq_of_mul_eq_mul_right (Nat.pow_pos (by omega)) hvalue
  · have hpow : 10 ^ ds.length = 10 ^ (ds.length - 9) * 10 ^ 9 := by
      rw [← Nat.pow_add, Nat.sub_add_cancel hlong]
    have hlast := Text.decimal_lt fun c hc => h.isDigit c (List.mem_of_mem_drop (i := 9) hc)
    have hsplit := Text.decimal_append (ds.take 9) (ds.drop 9)
    rw [List.take_append_drop, List.length_drop] at hsplit
    rw [List.length_drop] at hlast
    rw [hpow, ← Nat.mul_assoc] at hvalue
    have hall := Nat.eq_of_mul_eq_mul_right (by omega) hvalue
    rw [List.length_take, Nat.min_eq_left hlong, Nat.sub_self, Nat.pow_zero, Nat.mul_one]
    calc Text.decimal (ds.take 9)
        = Text.decimal ds / 10 ^ (ds.length - 9) := by
          rw [hsplit, Nat.mul_add_div (Nat.pow_pos (by omega)), Nat.div_eq_of_lt hlast,
            Nat.add_zero]
      _ = nanos := by rw [hall, Nat.mul_div_cancel _ (Nat.pow_pos (by omega))]

/-- **The numbers of digits that hold a fraction exactly.** -/
theorem exists_length_iff {k : Nat} (hnanos : nanos < 10 ^ 9) :
    (∃ ds, IsFraction nanos ds ∧ ds.length = k) ↔ 10 ^ 9 ∣ nanos * 10 ^ k := by
  constructor
  · rintro ⟨ds, h, rfl⟩
    exact ⟨Text.decimal ds, by rw [← h.decimal_eq, Nat.mul_comm]⟩
  · rintro ⟨n, hn⟩
    obtain rfl | hpos := Nat.eq_zero_or_pos k
    · have hzero : nanos = 0 := by omega
      exact ⟨[], ⟨fun c hc => absurd hc List.not_mem_nil, by simp [hzero, Text.decimal]⟩, rfl⟩
    · have hlt : n < 10 ^ k := by
        refine Nat.lt_of_mul_lt_mul_left (a := 10 ^ 9) ?_
        rw [← hn]
        exact Nat.mul_lt_mul_of_pos_right hnanos (Nat.pow_pos (by omega))
      have hlength := length_padded hpos hlt
      refine ⟨padded k n, ⟨fun _ => isDigit_of_mem_padded, ?_⟩, hlength⟩
      rw [decimal_padded, hlength, hn, Nat.mul_comm]

end IsFraction

/-- The day of an instant at an offset of minutes. -/
def localDate (t : Instant) (offset : Int) : Date :=
  Date.ofDays ((t.seconds + 60 * offset) / 86400)

namespace Timestamp

variable {s : Timestamp} {t : Instant} {offset : Int} {digits : Nat}

/-- A timestamp writes an instant at an offset of minutes, with so many digits for the fraction of
the second. -/
structure Writes (s : Timestamp) (t : Instant) (offset : Int) (digits : Nat) : Prop where
  /-- The date and the time of day are those of the instant, moved by the offset. -/
  local_eq : s.date.toDays * 86400 + s.hour.val * 3600 + s.minute.val * 60 + s.second.val =
    t.seconds + 60 * offset
  /-- The second is no leap second. -/
  second_lt : s.second.val < 60
  /-- The fraction holds the nanoseconds exactly. -/
  isFraction : IsFraction t.nanos s.fraction
  /-- It has so many digits. -/
  length_fraction : s.fraction.length = digits
  /-- The offset is written behind. -/
  offset_eq : s.zone.offset = offset

/-- **A timestamp that writes an instant is one of this instant.** -/
theorem instant_of_writes (h : s.Writes t offset digits) : s.instant = t := by
  have hlocal := h.local_eq
  have hsecond := Nat.min_eq_left (Nat.le_of_lt_succ h.second_lt)
  rw [instant, hsecond, h.isFraction.nanosOf_eq, h.offset_eq, Nat.sub_self, Nat.zero_mul,
    Nat.add_zero, hlocal, Int.add_sub_cancel]

/-- The timestamp of an instant in a zone in which its year has four digits. -/
def ofInstant (t : Instant) (zone : Zone)
    (hyear : 0 ≤ (localDate t zone.offset).year ∧ (localDate t zone.offset).year ≤ 9999)
    (fraction : List Char) (hfraction : ∀ c ∈ fraction, c.isDigit = true) : Timestamp :=
  let ofDay := ((t.seconds + 60 * zone.offset) % 86400).toNat
  { year := ⟨(localDate t zone.offset).year.toNat, by omega⟩
    month := (localDate t zone.offset).month
    day := (localDate t zone.offset).day
    isValid := by
      rw [Int.toNat_of_nonneg hyear.1]
      exact Date.isValid_ofDays _
    divider := 'T'
    isDivider_divider := rfl
    hour := ⟨ofDay / 3600, by omega⟩
    minute := ⟨ofDay / 60 % 60, by omega⟩
    second := ⟨ofDay % 60, by omega⟩
    fraction := fraction
    isDigit_fraction := hfraction
    zone := zone }

theorem writes_ofInstant {zone : Zone} {fraction : List Char}
    (hyear : 0 ≤ (localDate t zone.offset).year ∧ (localDate t zone.offset).year ≤ 9999)
    (hfraction : IsFraction t.nanos fraction) :
    (ofInstant t zone hyear fraction hfraction.isDigit).Writes t zone.offset fraction.length := by
  have hdays : (ofInstant t zone hyear fraction hfraction.isDigit).date.toDays =
      (t.seconds + 60 * zone.offset) / 86400 := by
    refine Eq.trans ?_ (Date.toDays_ofDays _)
    rw [date, ofInstant, Int.toNat_of_nonneg hyear.1]
    rfl
  refine ⟨?_, ?_, hfraction, rfl, rfl⟩
  · rw [hdays]
    dsimp only [ofInstant]
    omega
  · exact Nat.mod_lt _ (by omega)

/-- **An instant is written at every offset at which its year has four digits**, with as many
digits for the fraction of its second as hold it exactly. -/
theorem exists_writes (hnanos : t.nanos < 10 ^ 9) (hoffset : -1440 < offset ∧ offset < 1440)
    (hyear : 0 ≤ (localDate t offset).year ∧ (localDate t offset).year ≤ 9999)
    (hdigits : 10 ^ 9 ∣ t.nanos * 10 ^ digits) :
    ∃ s : Timestamp, s.IsStrict ∧ s.Writes t offset digits := by
  obtain ⟨zone, rfl, hstrict⟩ := Zone.exists_offset_eq hoffset
  obtain ⟨fraction, hfraction, rfl⟩ := (IsFraction.exists_length_iff hnanos).2 hdigits
  have hdivider : 'T' ≠ ' ' := by decide
  exact ⟨_, ⟨hdivider, hstrict⟩, writes_ofInstant hyear hfraction⟩

end Timestamp

end Rfc3339

end Time

end ClusterGateway

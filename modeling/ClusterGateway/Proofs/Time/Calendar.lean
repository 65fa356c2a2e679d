import ClusterGateway.Time.Calendar
import Mathlib.Data.List.Basic
import Mathlib.Algebra.Order.BigOperators.Group.List
import Mathlib.Algebra.Ring.Nat

/-!
# Days and dates

The days of the calendar are numbered without gaps: a valid date has the number from which it comes
back, and the day after it has the next number.

* `yearStart_succ` : a year is as long as its months, 366 days just if it is a leap year.
* `Date.yearStart_yearOf` : the estimate of the year is corrected by one at most.
* `Date.isValid_ofDays`, `Date.toDays_ofDays` : **every day has a date, and its number is the day**.
* `Date.toDays_bounds` : a valid date lies between the start of its year and that of the next one.
* `Date.toDays_epoch`, `Date.toDays_next` : **the days are counted from the first one of 1970, and
  the day after a date has the next number**.
-/

namespace ClusterGateway

namespace Time

/-! ### Years -/

theorem isLeapYear_iff {year : Int} : isLeapYear year = true ↔
    year % 4 = 0 ∧ (year % 100 ≠ 0 ∨ year % 400 = 0) := by
  simp [isLeapYear]

theorem length_monthLengths (year : Int) : (monthLengths year).length = 12 := rfl

theorem sum_monthLengths (year : Int) :
    (monthLengths year).sum = if isLeapYear year then 366 else 365 := by
  by_cases h : isLeapYear year = true <;> simp [monthLengths, h]

/-- **A year ends after its months.** -/
theorem yearStart_succ (year : Int) :
    yearStart (year + 1) = yearStart year + (monthLengths year).sum := by
  rw [sum_monthLengths, yearStart, yearStart]
  by_cases h : isLeapYear year = true
  · rw [if_pos h]
    rw [isLeapYear_iff] at h
    omega
  · rw [if_neg h]
    rw [isLeapYear_iff] at h
    omega

namespace Date

theorem yearStart_bounds (year : Int) :
    146097 * year - 400 ≤ 400 * yearStart year ∧ 400 * yearStart year ≤ 146097 * year + 700 := by
  rw [yearStart]
  omega

/-- **A day lies in its year.** -/
theorem yearStart_yearOf (day : Int) :
    yearStart (yearOf day) ≤ day ∧ day < yearStart (yearOf day + 1) := by
  rw [yearOf]
  generalize hyear : day * 400 / 146097 = year
  -- the estimate is the year, the one after it or the one before it
  by_cases hearly : day < yearStart year
  · have hbefore := yearStart_bounds (year - 1)
    rw [if_pos hearly, Int.sub_add_cancel]
    omega
  · rw [if_neg hearly]
    by_cases hlate : yearStart (year + 1) ≤ day
    · have hafter := yearStart_bounds (year + 1 + 1)
      rw [if_pos hlate]
      omega
    · rw [if_neg hlate]
      omega

/-! ### Months -/

theorem daysBefore_eq (year : Int) (month : Nat) :
    daysBefore year month = ((monthLengths year).take (month - 1)).sum := by
  rw [daysBefore, List.sum_eq_foldl]

theorem exists_monthAndDay (month : Nat) {lengths : List Nat} {n : Nat} (h : n < lengths.sum) :
    ∃ i length, lengths[i]? = some length ∧ (lengths.take i).sum ≤ n ∧
      n - (lengths.take i).sum < length ∧
      monthAndDay month lengths n = (month + i, n - (lengths.take i).sum + 1) := by
  induction lengths generalizing month n with
  | nil => simp at h
  | cons first lengths ih =>
    rw [monthAndDay]
    by_cases hfirst : n < first
    · exact ⟨0, first, rfl, by simp, by simpa using hfirst, by simp [hfirst]⟩
    · rw [List.sum_cons] at h
      obtain ⟨i, length, hi, hle, hlt, heq⟩ := ih (month + 1) (n := n - first) (by omega)
      refine ⟨i + 1, length, by simpa using hi, ?_, ?_, ?_⟩
      · rw [List.take_succ_cons, List.sum_cons]
        omega
      · rw [List.take_succ_cons, List.sum_cons]
        omega
      · rw [if_neg hfirst, heq, List.take_succ_cons, List.sum_cons]
        simp only [Prod.mk.injEq]
        omega

theorem isValid_iff {d : Date} : d.isValid = true ↔ ∃ length,
    (monthLengths d.year)[d.month - 1]? = some length ∧ 1 ≤ d.month ∧ 1 ≤ d.day ∧
      d.day ≤ length := by
  rw [isValid]
  cases (monthLengths d.year)[d.month - 1]? with
  | none => simp
  | some length => simp [and_assoc]

theorem bounds_of_mem_monthLengths {year : Int} {n : Nat} (h : n ∈ monthLengths year) :
    1 ≤ n ∧ n ≤ 31 := by
  have hall : ∀ n ∈ monthLengths year, 1 ≤ n ∧ n ≤ 31 := by
    simp only [monthLengths, List.forall_mem_cons]
    split <;> simp
  exact hall n h

theorem bounds_of_isValid {d : Date} (h : d.isValid = true) : d.month ≤ 12 ∧ d.day ≤ 31 := by
  obtain ⟨length, hlength, -, -, hday⟩ := isValid_iff.1 h
  obtain ⟨hmonth, -⟩ := List.getElem?_eq_some_iff.1 hlength
  rw [length_monthLengths] at hmonth
  have hbounds := bounds_of_mem_monthLengths (List.mem_of_getElem? hlength)
  omega

/-- **Every day has a date, and the number of the date is the day.** -/
theorem isValid_and_toDays_ofDays (days : Int) :
    (ofDays days).isValid = true ∧ (ofDays days).toDays = days := by
  obtain ⟨hstart, hend⟩ := yearStart_yearOf (days + epochDay)
  rw [yearStart_succ] at hend
  generalize hyear : yearOf (days + epochDay) = year at hstart hend
  have hday : (days + epochDay - yearStart year).toNat < (monthLengths year).sum := by omega
  obtain ⟨i, length, hi, hle, hlt, heq⟩ := exists_monthAndDay 1 hday
  have hdate : ofDays days = ⟨year, 1 + i, (days + epochDay - yearStart year).toNat -
      ((monthLengths year).take i).sum + 1⟩ := by
    simp only [ofDays, hyear, heq]
  have hmonth : 1 + i - 1 = i := by omega
  rw [hdate, isValid_iff, toDays, daysBefore_eq]
  simp only [hmonth]
  refine ⟨⟨length, hi, by omega, by omega, by omega⟩, ?_⟩
  omega

theorem isValid_ofDays (days : Int) : (ofDays days).isValid = true :=
  (isValid_and_toDays_ofDays days).1

theorem toDays_ofDays (days : Int) : (ofDays days).toDays = days :=
  (isValid_and_toDays_ofDays days).2

/-- **A valid date lies in its year.** -/
theorem toDays_bounds {d : Date} (h : d.isValid = true) :
    yearStart d.year ≤ d.toDays + epochDay ∧ d.toDays + epochDay < yearStart (d.year + 1) := by
  obtain ⟨length, hlength, hmonth, hday, hle⟩ := isValid_iff.1 h
  obtain ⟨hindex, hget⟩ := List.getElem?_eq_some_iff.1 hlength
  have hend : daysBefore d.year d.month + length ≤ (monthLengths d.year).sum := by
    have hsplit := List.sum_take_add_sum_drop (monthLengths d.year) (d.month - 1 + 1)
    rw [daysBefore_eq, ← hget, ← List.sum_take_succ _ _ hindex]
    omega
  rw [yearStart_succ, toDays]
  omega

/-! ### From day to day -/

/-- The day after a date. -/
def next (d : Date) : Date :=
  if d.day < ((monthLengths d.year)[d.month - 1]?).getD 0 then ⟨d.year, d.month, d.day + 1⟩
  else if d.month < 12 then ⟨d.year, d.month + 1, 1⟩
  else ⟨d.year + 1, 1, 1⟩

/-- **The day after a date has the next number.** -/
theorem toDays_next {d : Date} (h : d.isValid = true) :
    d.next.isValid = true ∧ d.next.toDays = d.toDays + 1 := by
  obtain ⟨length, hlength, hmonth, hday, hle⟩ := isValid_iff.1 h
  have htwelve := (bounds_of_isValid h).1
  obtain ⟨hindex, hget⟩ := List.getElem?_eq_some_iff.1 hlength
  rw [next, hlength, Option.getD_some]
  by_cases hlast : d.day < length
  · -- the next day of the month
    rw [if_pos hlast, isValid_iff, toDays, toDays]
    dsimp only
    exact ⟨⟨length, hlength, hmonth, by omega, by omega⟩, by omega⟩
  have hend : daysBefore d.year (d.month + 1) = daysBefore d.year d.month + length := by
    have hsucc : d.month + 1 - 1 = d.month - 1 + 1 := by omega
    rw [daysBefore_eq, daysBefore_eq, hsucc, List.sum_take_succ _ _ hindex, hget]
  rw [if_neg hlast]
  by_cases hdecember : d.month < 12
  · -- the first day of the next month
    obtain ⟨following, hfollowing⟩ : ∃ n, (monthLengths d.year)[d.month]? = some n :=
      ⟨_, List.getElem?_eq_getElem hdecember⟩
    have hpos := (bounds_of_mem_monthLengths (List.mem_of_getElem? hfollowing)).1
    rw [if_pos hdecember, isValid_iff, toDays, toDays, hend]
    dsimp only
    exact ⟨⟨following, hfollowing, by omega, by omega, hpos⟩, by omega⟩
  · -- the first day of the next year
    have hyear : daysBefore d.year (d.month + 1) = (monthLengths d.year).sum := by
      have hall : d.month + 1 - 1 = (monthLengths d.year).length := by
        rw [length_monthLengths]
        omega
      rw [daysBefore_eq, hall, List.take_length]
    have hfirst : daysBefore (d.year + 1) 1 = 0 := rfl
    rw [if_neg hdecember, isValid_iff, toDays, toDays]
    dsimp only
    rw [yearStart_succ, hfirst]
    exact ⟨⟨31, rfl, by omega, by omega, by omega⟩, by omega⟩

/-- The days are counted from the first one of 1970. -/
theorem toDays_epoch : toDays ⟨1970, 1, 1⟩ = 0 := by decide

end Date

end Time

end ClusterGateway

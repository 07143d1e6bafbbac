/-
  The GREGORIAN CALENDAR, as a correspondence between day numbers and dates.

  Day 0 is 1 January 1970.  One direction is arithmetic: `dayNumber` adds up the days before the
  year, before the month and in the month.  The other is a search: `yearOf` starts from the average
  length of a year and is one year off at most, `locate` walks along the months.

  1. **Places in a row** (`locate`) — a position in a row of intervals of given lengths is an
     interval and an offset into it, and the two say the same.

  2. **Years** (`yearOf_eq_iff`) — the year of a day is the one that the day lies in.

  3. **Dates** (`dayNumber_date`, `date_dayNumber`) — the two directions are inverse to each other,
     on all days and on all dates that there are.

  The crux is that only one of the two directions needs thought.  `dayNumber` is a sum, and the days
  of the years, of the months and of a month are positions in rows of intervals; so the search is
  right as soon as it finds the interval in which a position lies, and that determines it
  (`locate_before`, `yearOf_eq_iff`).  Years of four different patterns need no cases: the number of
  leap years before a year is a sum of quotients, and `omega` sees through it.
-/

import Mathlib.Algebra.BigOperators.Group.List.Basic
import Mathlib.Algebra.GroupWithZero.Nat
import Mathlib.Algebra.Order.Group.Int
import Mathlib.Data.List.GetD

namespace Calendar

/-! ## Places in a row of intervals -/

/-- The interval in which a position lies, and the offset into it. -/
def locate : List Nat → Nat → Nat × Nat
  | [], r => (0, r)
  | l :: ls, r => if r < l then (0, r) else ((locate ls (r - l)).1 + 1, (locate ls (r - l)).2)

/-- The positions before an interval. -/
def before (ls : List Nat) (i : Nat) : Nat := (ls.take i).sum

/-- What is found is an interval in which the position lies, -/
theorem locate_spec {ls : List Nat} {r : Nat} (h : r < ls.sum) :
    ∃ hi : (locate ls r).1 < ls.length,
      (locate ls r).2 < ls[(locate ls r).1] ∧ before ls (locate ls r).1 + (locate ls r).2 = r := by
  induction ls generalizing r with
  | nil => exact absurd h (Nat.not_lt_zero r)
  | cons l ls ih =>
    by_cases hr : r < l
    · simp [locate, hr, before]
    · rw [List.sum_cons] at h
      obtain ⟨hi, hlt, heq⟩ := ih (r := r - l) (by omega)
      simp only [locate, if_neg hr, before, List.take_succ_cons, List.sum_cons, List.length_cons,
        List.getElem_cons_succ]
      refine ⟨Nat.succ_lt_succ hi, hlt, ?_⟩
      rw [before] at heq
      omega

/-- and for a position given by an interval and an offset it is these two. -/
theorem locate_before {ls : List Nat} {i d : Nat} (hi : i < ls.length) (hd : d < ls[i]) :
    locate ls (before ls i + d) = (i, d) := by
  induction ls generalizing i with
  | nil => exact absurd hi (Nat.not_lt_zero i)
  | cons l ls ih =>
    cases i with
    | zero =>
      have hdl : d < l := hd
      simp [locate, before, hdl]
    | succ i =>
      have hnext := ih (i := i) (Nat.lt_of_succ_lt_succ hi) hd
      have hge : ¬ l + (before ls i + d) < l := by omega
      have hsub : l + (before ls i + d) - l = before ls i + d := by omega
      rw [before, List.take_succ_cons, List.sum_cons, Nat.add_assoc, ← before, locate, if_neg hge,
        hsub, hnext]

/-! ## Years -/

/-- Every fourth year, but of the full centuries only every fourth. -/
def isLeap (y : Int) : Bool := y % 4 = 0 && (y % 100 ≠ 0 || y % 400 = 0)

def monthLengths (y : Int) : List Nat :=
  [31, if isLeap y then 29 else 28, 31, 30, 31, 30, 31, 31, 30, 31, 30, 31]

/-- The days of a year. -/
def yearLength (y : Int) : Int := if isLeap y then 366 else 365

/-- The day number of 1 January. -/
def newYear (y : Int) : Int :=
  365 * (y - 1) + (y - 1) / 4 - (y - 1) / 100 + (y - 1) / 400 - 719162

theorem sum_monthLengths (y : Int) : ((monthLengths y).sum : Int) = yearLength y := by
  cases h : isLeap y <;> simp [monthLengths, yearLength, h]

theorem newYear_succ (y : Int) : newYear (y + 1) = newYear y + yearLength y := by
  have hleap : isLeap y = true ↔ y % 4 = 0 ∧ (y % 100 ≠ 0 ∨ y % 400 = 0) := by
    simp [isLeap]
  unfold newYear yearLength
  split
  · next h =>
    have := hleap.mp h
    omega
  · next h =>
    have := mt hleap.mpr h
    omega

theorem newYear_le {y y' : Int} (h : y ≤ y') : newYear y ≤ newYear y' := by
  unfold newYear
  omega

/-- The year of a day. -/
def yearOf (n : Int) : Int :=
  let y := (n + 719162) * 400 / 146097 + 1
  if n < newYear y then y - 1 else if n < newYear (y + 1) then y else y + 1

theorem yearOf_spec (n : Int) : newYear (yearOf n) ≤ n ∧ n < newYear (yearOf n + 1) := by
  unfold yearOf newYear
  dsimp only
  split
  · omega
  · split <;> omega

/-- **The year of a day is the one that it lies in.** -/
theorem yearOf_eq_iff {n y : Int} : yearOf n = y ↔ newYear y ≤ n ∧ n < newYear (y + 1) := by
  constructor
  · rintro rfl
    exact yearOf_spec n
  · rintro ⟨hle, hlt⟩
    obtain ⟨hle', hlt'⟩ := yearOf_spec n
    rcases Int.lt_trichotomy (yearOf n) y with h | h | h
    · have := newYear_le (show yearOf n + 1 ≤ y by omega)
      omega
    · exact h
    · have := newYear_le (show y + 1 ≤ yearOf n by omega)
      omega

/-! ## Dates -/

/-- A date: the months since January, the day of the month from 1 on. -/
structure Date where
  year : Int
  month : Nat
  day : Nat
  deriving DecidableEq, Repr

/-- There is such a date: the month is one of twelve, and the day is one of that month in that year.
    -/
def Date.Valid (d : Date) : Prop :=
  d.month < 12 ∧ 1 ≤ d.day ∧ d.day ≤ (monthLengths d.year).getD d.month 0

instance (d : Date) : Decidable d.Valid := inferInstanceAs (Decidable (_ ∧ _ ∧ _))

/-- The days from 1 January 1970 to a date. -/
def Date.dayNumber (d : Date) : Int :=
  newYear d.year + before (monthLengths d.year) d.month + d.day - 1

/-- The day of the year, from 0 on. -/
def dayOfYear (n : Int) : Nat := (n - newYear (yearOf n)).toNat

/-- The date of a day. -/
def date (n : Int) : Date where
  year := yearOf n
  month := (locate (monthLengths (yearOf n)) (dayOfYear n)).1
  day := (locate (monthLengths (yearOf n)) (dayOfYear n)).2 + 1

/-- No month has more than 31 days. -/
theorem monthLengths_le (y : Int) : ∀ l ∈ monthLengths y, l ≤ 31 := by
  cases h : isLeap y <;> simp [monthLengths, h]

/-- An interval of a row ends inside the row. -/
theorem before_le (ls : List Nat) {i : Nat} (hi : i < ls.length) : before ls i + ls[i] ≤ ls.sum := by
  calc before ls i + ls[i] = (ls.take (i + 1)).sum := by
        rw [before, List.take_succ_eq_append_getElem hi, List.sum_append, List.sum_singleton]
    _ ≤ (ls.take (i + 1)).sum + (ls.drop (i + 1)).sum := Nat.le_add_right ..
    _ = ls.sum := by rw [← List.sum_append, List.take_append_drop]

/-- A date lies in its year. -/
theorem Date.Valid.yearOf {d : Date} (h : d.Valid) : yearOf d.dayNumber = d.year := by
  obtain ⟨hmonth, hpos, hday⟩ := h
  have hi : d.month < (monthLengths d.year).length := hmonth
  rw [List.getD_eq_getElem _ _ hi] at hday
  have hbefore := before_le (monthLengths d.year) hi
  have hsum := sum_monthLengths d.year
  rw [yearOf_eq_iff, newYear_succ, ← hsum, Date.dayNumber]
  omega

/-- **The date of the day of a date.** -/
theorem date_dayNumber {d : Date} (h : d.Valid) : date d.dayNumber = d := by
  have hyear := h.yearOf
  obtain ⟨hmonth, hpos, hday⟩ := h
  have hi : d.month < (monthLengths d.year).length := hmonth
  rw [List.getD_eq_getElem _ _ hi] at hday
  have hday' : d.day - 1 < (monthLengths d.year)[d.month] := by omega
  have hinto : dayOfYear d.dayNumber =
      before (monthLengths d.year) d.month + (d.day - 1) := by
    rw [dayOfYear, hyear, Date.dayNumber]
    omega
  rw [date, hyear, hinto, locate_before hi hday']
  show Date.mk d.year d.month (d.day - 1 + 1) = d
  rw [Nat.sub_add_cancel hpos]

/-- The day of a date has two digits. -/
theorem Date.Valid.day_le {d : Date} (h : d.Valid) : d.day ≤ 31 := by
  obtain ⟨hmonth, -, hday⟩ := h
  have hi : d.month < (monthLengths d.year).length := hmonth
  rw [List.getD_eq_getElem _ _ hi] at hday
  exact hday.trans (monthLengths_le _ _ (List.getElem_mem hi))

/-- The day of the year is there. -/
theorem dayOfYear_lt (n : Int) : dayOfYear n < (monthLengths (yearOf n)).sum := by
  obtain ⟨hle, hlt⟩ := yearOf_spec n
  have hsum := sum_monthLengths (yearOf n)
  rw [newYear_succ, ← hsum] at hlt
  rw [dayOfYear]
  omega

/-- The date of a day is a date. -/
theorem valid_date (n : Int) : (date n).Valid := by
  obtain ⟨hi, hlt, -⟩ := locate_spec (dayOfYear_lt n)
  refine ⟨hi, Nat.le_add_left 1 _, ?_⟩
  rw [date, List.getD_eq_getElem _ _ hi]
  exact hlt

/-- **The day of the date of a day.** -/
theorem dayNumber_date (n : Int) : (date n).dayNumber = n := by
  obtain ⟨-, -, heq⟩ := locate_spec (dayOfYear_lt n)
  obtain ⟨hle, -⟩ := yearOf_spec n
  have hday : (dayOfYear n : Int) = n - newYear (yearOf n) := by
    rw [dayOfYear]
    omega
  rw [Date.dayNumber, date]
  push_cast
  omega

example : date 11016 = ⟨2000, 1, 29⟩ := by decide

end Calendar

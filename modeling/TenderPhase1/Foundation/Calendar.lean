import Mathlib.Data.Nat.Find
import TenderPhase1.Foundation.IsoDate

/-!
# The Gregorian calendar

The days of the years from 1 to 9999 in order. The number of a day and its date determine each
other: a number lies between the first days of one year and the next, and in the year between the
first days of one month and the next.
-/

namespace TenderPhase1.Calendar

open IsoDates

/-! ## The greatest step not above a number -/

/-- The greatest `k ≤ bound` with `f k ≤ n`. -/
def greatestStep (f : ℕ → ℕ) (n bound : ℕ) : ℕ := Nat.findGreatest (fun k ↦ f k ≤ n) bound

theorem greatestStep_le {f : ℕ → ℕ} {n bound : ℕ} (least : ℕ) (hleast : least ≤ bound) (h : f least ≤ n) :
    f (greatestStep f n bound) ≤ n ∧ least ≤ greatestStep f n bound ∧ greatestStep f n bound ≤ bound :=
  ⟨Nat.findGreatest_spec (P := fun k ↦ f k ≤ n) hleast h, Nat.le_findGreatest hleast h, Nat.findGreatest_le bound⟩

theorem lt_of_greatestStep_lt {f : ℕ → ℕ} {n bound k : ℕ} (h : greatestStep f n bound < k) (hbound : k ≤ bound) :
    n < f k :=
  not_le.mp (Nat.findGreatest_is_greatest (P := fun k ↦ f k ≤ n) h hbound)

/-- A number between two steps of a monotone function has the lower of the two. -/
theorem greatestStep_eq {f : ℕ → ℕ} {n bound k : ℕ} (hmono : ∀ i j, k < i → i ≤ j → f i ≤ f j) (hk : k ≤ bound)
    (hle : f k ≤ n) (hlt : n < f (k + 1)) : greatestStep f n bound = k := by
  obtain ⟨hvalue, hleast, -⟩ := greatestStep_le k hk hle
  by_contra hne
  have hgreater : k + 1 ≤ greatestStep f n bound := by omega
  have := hmono (k + 1) (greatestStep f n bound) (Nat.lt_succ_self k) hgreater
  omega

/-! ## Years and months -/

def IsLeap (year : ℕ) : Prop := year % 4 = 0 ∧ (year % 100 ≠ 0 ∨ year % 400 = 0)

instance (year : ℕ) : Decidable (IsLeap year) := by
  unfold IsLeap
  infer_instance

def daysInMonth (year month : ℕ) : ℕ :=
  match month with
  | 2 => if IsLeap year then 29 else 28
  | 4 | 6 | 9 | 11 => 30
  | _ => 31

def daysBeforeYear (year : ℕ) : ℕ := 365 * (year - 1) + (year - 1) / 4 - (year - 1) / 100 + (year - 1) / 400

def daysBeforeMonth (year : ℕ) : ℕ → ℕ
  | 0 | 1 => 0
  | month + 1 => daysBeforeMonth year month + daysInMonth year month

/-- The quotients by 4, 100 and 400 grow where the year is a multiple. -/
theorem daysBeforeYear_succ {year : ℕ} (h : 1 ≤ year) :
    daysBeforeYear (year + 1) = daysBeforeYear year + if IsLeap year then 366 else 365 := by
  obtain ⟨k, rfl⟩ := Nat.exists_eq_add_of_le' h
  have hdivisible (d : ℕ) : d ∣ k + 1 ↔ (k + 1) % d = 0 := Nat.dvd_iff_mod_eq_zero
  have hfour : (k + 1) % 100 = 0 → (k + 1) % 4 = 0 := by omega
  have hhundred : (k + 1) % 400 = 0 → (k + 1) % 100 = 0 := by omega
  have hless : k / 100 ≤ k / 4 := Nat.div_le_div_left (by decide) (by decide)
  unfold daysBeforeYear IsLeap
  simp only [Nat.add_sub_cancel, Nat.succ_div, hdivisible]
  generalize k / 4 = fours at *
  generalize k / 100 = hundreds at *
  generalize k / 400 = fourHundreds at *
  by_cases h4 : (k + 1) % 4 = 0 <;> by_cases h100 : (k + 1) % 100 = 0 <;> by_cases h400 : (k + 1) % 400 = 0 <;>
    simp [h4, h100, h400] at hfour hhundred ⊢ <;> omega

theorem daysBeforeYear_mono : Monotone daysBeforeYear := by
  apply monotone_nat_of_le_succ
  intro year
  cases year with
  | zero => exact le_rfl
  | succ year =>
    rw [daysBeforeYear_succ (Nat.succ_pos year)]
    exact Nat.le_add_right _ _

theorem year_le_of_daysBeforeYear_le {year n : ℕ} (h : daysBeforeYear year ≤ n) : year ≤ n / 365 + 1 := by
  unfold daysBeforeYear at h
  omega

theorem daysBeforeMonth_succ {year month : ℕ} (h : 1 ≤ month) :
    daysBeforeMonth year (month + 1) = daysBeforeMonth year month + daysInMonth year month := by
  obtain ⟨month, rfl⟩ := Nat.exists_eq_add_of_le' h
  rfl

theorem daysBeforeMonth_mono {year : ℕ} : Monotone (daysBeforeMonth year) := by
  apply monotone_nat_of_le_succ
  intro month
  cases month with
  | zero => exact le_rfl
  | succ month =>
    rw [daysBeforeMonth_succ (Nat.succ_pos month)]
    exact Nat.le_add_right _ _

theorem daysBeforeMonth_thirteen (year : ℕ) : daysBeforeMonth year 13 = if IsLeap year then 366 else 365 := by
  unfold daysBeforeMonth
  simp only [daysBeforeMonth, daysInMonth]
  split <;> rfl

theorem daysInMonth_le (year month : ℕ) : daysInMonth year month ≤ 31 := by
  unfold daysInMonth
  split
  · split <;> decide
  all_goals decide

/-! ## Dates and their numbers -/

/-- A date of the years from `MINYEAR` to `MAXYEAR`. -/
@[ext]
structure CalendarDate where
  year : ℕ
  month : ℕ
  day : ℕ
  year_pos : 1 ≤ year
  year_le : year ≤ 9999
  month_pos : 1 ≤ month
  month_le : month ≤ 12
  day_pos : 1 ≤ day
  day_le : day ≤ daysInMonth year month
  deriving Repr

instance : DecidableEq CalendarDate := fun date other ↦
  decidable_of_iff (date.year = other.year ∧ date.month = other.month ∧ date.day = other.day) CalendarDate.ext_iff.symm

/-- `date(year, month, day)`, nothing where it raises `ValueError` -/
def calendarDate (year month day : ℕ) : Option CalendarDate :=
  if h : (1 ≤ year ∧ year ≤ 9999) ∧ (1 ≤ month ∧ month ≤ 12) ∧ 1 ≤ day ∧ day ≤ daysInMonth year month then
    some ⟨year, month, day, h.1.1, h.1.2, h.2.1.1, h.2.1.2, h.2.2.1, h.2.2.2⟩
  else none

/-- The days before 10000-01-01. -/
def dayCount : ℕ := 3652059

namespace CalendarDate

variable (date : CalendarDate)

/-- The days before the date, `date.toordinal() - 1`. -/
def number : ℕ := daysBeforeYear date.year + daysBeforeMonth date.year date.month + (date.day - 1)

def toIsoDate : IsoDate where
  year := date.year
  month := date.month
  day := date.day
  year_le := date.year_le
  month_le := date.month_le
  day_le := date.day_le.trans (daysInMonth_le _ _)

def isoformat : String := date.toIsoDate.isoformat

end CalendarDate

def yearOf (n : ℕ) : ℕ := greatestStep daysBeforeYear n (n / 365 + 1)

def monthOf (n : ℕ) : ℕ := greatestStep (daysBeforeMonth (yearOf n)) (n - daysBeforeYear (yearOf n)) 12

def dayOf (n : ℕ) : ℕ := n - daysBeforeYear (yearOf n) - daysBeforeMonth (yearOf n) (monthOf n) + 1

/-- The year of a day is the one that begins with it or before it and does not end before it. -/
theorem yearOf_spec (n : ℕ) : 1 ≤ yearOf n ∧ daysBeforeYear (yearOf n) ≤ n ∧ n < daysBeforeYear (yearOf n + 1) := by
  have hone : (1 : ℕ) ≤ n / 365 + 1 := Nat.le_add_left _ _
  have hstart : daysBeforeYear 1 ≤ n := Nat.zero_le n
  obtain ⟨hle, hpos, -⟩ := greatestStep_le 1 hone hstart
  refine ⟨hpos, hle, ?_⟩
  by_contra hnot
  have hnext : daysBeforeYear (yearOf n + 1) ≤ n := not_lt.mp hnot
  exact absurd hnext (not_le.mpr (lt_of_greatestStep_lt (Nat.lt_succ_self _) (year_le_of_daysBeforeYear_le hnext)))

theorem monthOf_spec (n : ℕ) :
    (1 ≤ monthOf n ∧ monthOf n ≤ 12) ∧ daysBeforeMonth (yearOf n) (monthOf n) ≤ n - daysBeforeYear (yearOf n) ∧
      n - daysBeforeYear (yearOf n) < daysBeforeMonth (yearOf n) (monthOf n + 1) := by
  have hone : (1 : ℕ) ≤ 12 := by decide
  have hstart : daysBeforeMonth (yearOf n) 1 ≤ n - daysBeforeYear (yearOf n) := Nat.zero_le _
  obtain ⟨hle, hpos, hbound⟩ := greatestStep_le 1 hone hstart
  refine ⟨⟨hpos, hbound⟩, hle, ?_⟩
  obtain ⟨hyear, hfirst, hnext⟩ := yearOf_spec n
  rcases Nat.lt_or_ge (monthOf n) 12 with hbefore | hlast
  · exact lt_of_greatestStep_lt (Nat.lt_succ_self _) hbefore
  · have hmonth : monthOf n = 12 := le_antisymm hbound hlast
    rw [hmonth, daysBeforeMonth_thirteen]
    rw [daysBeforeYear_succ hyear] at hnext
    omega

/-- `date.fromordinal(n + 1)` -/
def dateOf (n : ℕ) (h : n < dayCount) : CalendarDate where
  year := yearOf n
  month := monthOf n
  day := dayOf n
  year_pos := (yearOf_spec n).1
  year_le := by
    by_contra hyear
    have hlater : daysBeforeYear 10000 ≤ daysBeforeYear (yearOf n) := daysBeforeYear_mono (by omega)
    have hlast : daysBeforeYear 10000 = dayCount := rfl
    have := (yearOf_spec n).2.1
    omega
  month_pos := (monthOf_spec n).1.1
  month_le := (monthOf_spec n).1.2
  day_pos := Nat.succ_pos _
  day_le := by
    obtain ⟨⟨hpos, -⟩, hfirst, hnext⟩ := monthOf_spec n
    rw [daysBeforeMonth_succ hpos] at hnext
    unfold dayOf
    omega

variable {date : CalendarDate}

theorem number_lt_nextMonth (date : CalendarDate) :
    date.number < daysBeforeYear date.year + daysBeforeMonth date.year (date.month + 1) := by
  have := date.day_pos
  have := date.day_le
  rw [daysBeforeMonth_succ date.month_pos]
  unfold CalendarDate.number
  omega

theorem number_lt_nextYear (date : CalendarDate) : date.number < daysBeforeYear (date.year + 1) := by
  have hnext := number_lt_nextMonth date
  have hlast : daysBeforeMonth date.year (date.month + 1) ≤ daysBeforeMonth date.year 13 :=
    daysBeforeMonth_mono (Nat.succ_le_succ date.month_le)
  rw [daysBeforeMonth_thirteen] at hlast
  rw [daysBeforeYear_succ date.year_pos]
  omega

theorem number_lt (date : CalendarDate) : date.number < dayCount := by
  have hlast : daysBeforeYear (date.year + 1) ≤ daysBeforeYear 10000 :=
    daysBeforeYear_mono (Nat.succ_le_succ date.year_le)
  have := number_lt_nextYear date
  have hcount : daysBeforeYear 10000 = dayCount := rfl
  omega

theorem yearOf_number (date : CalendarDate) : yearOf date.number = date.year := by
  have hle : daysBeforeYear date.year ≤ date.number := by
    unfold CalendarDate.number
    omega
  exact greatestStep_eq (fun i j _ hij ↦ daysBeforeYear_mono hij) (year_le_of_daysBeforeYear_le hle) hle (number_lt_nextYear date)

theorem monthOf_number (date : CalendarDate) : monthOf date.number = date.month := by
  unfold monthOf
  rw [yearOf_number]
  have hnext := number_lt_nextMonth date
  have hfirst : daysBeforeYear date.year + daysBeforeMonth date.year date.month ≤ date.number := by
    unfold CalendarDate.number
    omega
  refine greatestStep_eq (fun i j _ hij ↦ daysBeforeMonth_mono hij) date.month_le ?_ ?_
  · omega
  · omega

/-- The date of the number of a date is that date. -/
@[simp]
theorem dateOf_number (date : CalendarDate) : dateOf date.number (number_lt date) = date := by
  have hday : dayOf date.number = date.day := by
    have := date.day_pos
    unfold dayOf
    rw [monthOf_number, yearOf_number]
    unfold CalendarDate.number
    omega
  exact CalendarDate.ext (yearOf_number date) (monthOf_number date) hday

theorem calendarDate_self (date : CalendarDate) : calendarDate date.year date.month date.day = some date :=
  dif_pos ⟨⟨date.year_pos, date.year_le⟩, ⟨date.month_pos, date.month_le⟩, date.day_pos, date.day_le⟩

example : (calendarDate 2024 2 29).isSome ∧ calendarDate 2023 2 29 = none := by decide

end TenderPhase1.Calendar

import Mathlib.Tactic.Common

/-!
# The calendar

Dates of the Gregorian calendar, also before it was introduced, and the number of days from the
first day of 1970 to a date.
-/

namespace Penguind.Foundation

def IsLeap (y : Int) : Prop := y % 4 = 0 ∧ (y % 100 ≠ 0 ∨ y % 400 = 0)
  deriving Decidable

def februaryLength (y : Int) : Nat := if IsLeap y then 29 else 28

def monthLength (y : Int) : Nat → Nat
  | 2 => februaryLength y
  | 4 | 6 | 9 | 11 => 30
  | _ => 31

def daysOfMonths (y : Int) : Nat → Nat
  | 0 => 0
  | m + 1 => daysOfMonths y m + monthLength y (m + 1)

def daysOfYears (y : Int) : Nat → Nat
  | 0 => 0
  | n + 1 => daysOfYears y n + daysOfMonths (y + n) 12

structure Date where
  year : Int
  month : Nat
  day : Nat
  deriving DecidableEq

namespace Date

def Valid (d : Date) : Prop :=
  1 ≤ d.month ∧ d.month ≤ 12 ∧ 1 ≤ d.day ∧ d.day ≤ monthLength d.year d.month

def dayNumber (d : Date) : Int :=
  -- one of the two counts of years is zero
  daysOfYears 1970 (d.year - 1970).toNat - daysOfYears d.year (1970 - d.year).toNat +
    daysOfMonths d.year (d.month - 1) + d.day - 1

end Date

/-! ## Closed forms -/

/-- The days before a year, up to a constant. -/
def yearStart (y : Int) : Int := 365 * y + (y - 1) / 4 - (y - 1) / 100 + (y - 1) / 400

theorem yearStart_add_february (y : Int) :
    yearStart y + februaryLength y = 365 * y + y / 4 - y / 100 + y / 400 + 28 := by
  rw [februaryLength, yearStart]
  split
  case isTrue h =>
    rw [IsLeap] at h
    omega
  case isFalse h =>
    rw [IsLeap] at h
    omega

theorem yearStart_add_one (y : Int) : yearStart (y + 1) = yearStart y + daysOfMonths y 12 := by
  have hfebruary := yearStart_add_february y
  simp only [daysOfMonths, monthLength, yearStart] at hfebruary ⊢
  omega

theorem daysOfYears_eq (y : Int) (n : Nat) :
    (daysOfYears y n : Int) = yearStart (y + n) - yearStart y := by
  induction n with
  | zero => simp [daysOfYears]
  | succ n ih =>
    have hnext := yearStart_add_one (y + n)
    rw [daysOfYears]
    push_cast
    rw [← Int.add_assoc, hnext, ih]
    omega

theorem dayNumber_eq (d : Date) :
    d.dayNumber = yearStart d.year - 719527 + daysOfMonths d.year (d.month - 1) + d.day - 1 := by
  have hepoch : yearStart 1970 = 719527 := by decide
  rw [Date.dayNumber, daysOfYears_eq, daysOfYears_eq]
  rcases Int.le_total 1970 d.year with hle | hle
  · rw [show 1970 + ((d.year - 1970).toNat : Int) = d.year by omega,
      show d.year + ((1970 - d.year).toNat : Int) = d.year by omega]
    omega
  · rw [show 1970 + ((d.year - 1970).toNat : Int) = 1970 by omega,
      show d.year + ((1970 - d.year).toNat : Int) = 1970 by omega]
    omega

end Penguind.Foundation

import Mathlib.Tactic.IntervalCases
import Penguind.Foundation.Calendar

/-!
# Timestamps of log lines

The log formatter and the license validator compute the date of a day by eras of 400 years that
begin in March. They differ in how they find the era.
-/

namespace Penguind.Cli

open Foundation

/-- The date of a day of an era. -/
def civilOf (era : Int) (doe : Nat) : Date :=
  let yoe := (doe - doe / 1460 + doe / 36524 - doe / 146096) / 365
  let y := yoe + era * 400
  let doy := doe - (365 * yoe + yoe / 4 - yoe / 100)
  let mp := (5 * doy + 2) / 153
  let day := doy - (153 * mp + 2) / 5 + 1
  let month := if mp < 10 then mp + 3 else mp - 9
  let year := if month ≤ 2 then y + 1 else y
  ⟨year, month, day⟩

def civilFromDays (z : Int) : Date :=
  let z := z + 719468
  civilOf (z / 146097) (z % 146097).toNat

def License.civilFromDays (days : Int) : Date :=
  let z := days + 719468
  let era := (if 0 ≤ z then z else z - 146096).tdiv 146097
  civilOf era ((z - era * 146097) % 18446744073709551616).toNat

structure CivilTime extends Date where
  hour : Nat
  minute : Nat
  second : Nat

namespace CivilTime

def Valid (t : CivilTime) : Prop := t.toDate.Valid ∧ t.hour < 24 ∧ t.minute < 60 ∧ t.second < 60

def seconds (t : CivilTime) : Int :=
  ((t.toDate.dayNumber * 24 + t.hour) * 60 + t.minute) * 60 + t.second

def padded (width : Nat) (n : Int) : String :=
  let sign := if n < 0 then "-" else ""
  let digits := toString n.natAbs
  sign ++ String.ofList (List.replicate (width - sign.length - digits.length) '0') ++ digits

def text (t : CivilTime) : String :=
  padded 4 t.year ++ "-" ++ padded 2 t.month ++ "-" ++ padded 2 t.day ++ " " ++
    padded 2 t.hour ++ ":" ++ padded 2 t.minute ++ ":" ++ padded 2 t.second

end CivilTime

def logTime (atUnixNano : Int) : CivilTime :=
  let totalSeconds := atUnixNano / 1000000000
  let days := totalSeconds / 86400
  let secsOfDay := (totalSeconds % 86400).toNat
  { civilFromDays days with
    hour := secsOfDay / 3600, minute := secsOfDay % 3600 / 60, second := secsOfDay % 60 }

def formatLogTimestamp (atUnixNano : Int) : String := (logTime atUnixNano).text

/-! ## Days of an era -/

/-- Centuries have 36524 days, their fourths 1461; the last year of each may be longer. -/
theorem exists_year_of_era {doe : Nat} (h : doe < 146097) :
    ∃ q k j e, (q ≤ 3 ∧ k ≤ 24 ∧ j ≤ 3 ∧ e ≤ 365 ∧ (e = 365 → j = 3 ∧ (k = 24 → q = 3))) ∧
      doe = 36524 * q + 1461 * k + 365 * j + e := by
  obtain ⟨q, r, hr, hdoe, hq⟩ : ∃ q r, r ≤ 36524 ∧ doe = 36524 * q + r ∧
      (q ≤ 2 ∧ r < 36524 ∨ q = 3) :=
    ⟨min (doe / 36524) 3, doe - 36524 * min (doe / 36524) 3, by omega, by omega, by omega⟩
  obtain ⟨k, s, hs, hrest⟩ : ∃ k s, s ≤ 1460 ∧ r = 1461 * k + s :=
    ⟨r / 1461, r % 1461, by omega, by omega⟩
  obtain ⟨j, e, hj, hyear⟩ : ∃ j e, (j ≤ 2 ∧ e < 365 ∨ j = 3 ∧ e ≤ 365) ∧ s = 365 * j + e :=
    ⟨min (s / 365) 3, s - 365 * min (s / 365) 3, by omega, by omega⟩
  exact ⟨q, k, j, e, by omega, by omega⟩

theorem year_of_era {q k j e doe : Nat}
    (h : q ≤ 3 ∧ k ≤ 24 ∧ j ≤ 3 ∧ e ≤ 365 ∧ (e = 365 → j = 3 ∧ (k = 24 → q = 3)))
    (hdoe : doe = 36524 * q + 1461 * k + 365 * j + e) :
    (doe - doe / 1460 + doe / 36524 - doe / 146096) / 365 = 100 * q + 4 * k + j := by
  have hlast : doe / 146096 = 0 ∨ doe / 146096 = 1 ∧ e = 365 ∧ q = 3 ∧ k = 24 ∧ j = 3 := by omega
  have hcentury : doe / 36524 = q + doe / 146096 := by omega
  have hfourth : doe / 1460 = 25 * q + k ∧ e ≤ 364 ∨ doe / 1460 = 25 * q + k + 1 ∧ 1 ≤ e := by
    omega
  omega

/-- The `e`-th day from the first of March of `y` on. -/
def dateFrom (y : Int) (e : Nat) : Date :=
  let mp := (5 * e + 2) / 153
  let month := if mp < 10 then mp + 3 else mp - 9
  ⟨if month ≤ 2 then y + 1 else y, month, e - (153 * mp + 2) / 5 + 1⟩

theorem dateFrom_right {y : Int} {e : Nat} (he : e ≤ 365) (hleap : e = 365 → IsLeap (y + 1)) :
    (dateFrom y e).Valid ∧
      (dateFrom y e).dayNumber = 365 * y + y / 4 - y / 100 + y / 400 + e - 719468 := by
  have hmp : (5 * e + 2) / 153 ≤ 11 := by omega
  have hday : 153 * ((5 * e + 2) / 153) ≤ 5 * e + 2 ∧
    5 * e + 2 < 153 * ((5 * e + 2) / 153) + 153 := by omega
  have hmarch := yearStart_add_february y
  have hfebruary : februaryLength (y + 1) = 29 ∨ februaryLength (y + 1) = 28 ∧ e ≠ 365 := by
    rw [februaryLength]
    split
    case isTrue h => exact .inl rfl
    case isFalse h => exact .inr ⟨rfl, mt hleap h⟩
  rw [dayNumber_eq, dateFrom]
  generalize (5 * e + 2) / 153 = mp at hmp hday ⊢
  rw [yearStart] at hmarch
  interval_cases mp
  all_goals
    simp only [Date.Valid, daysOfMonths, monthLength, yearStart, Nat.reduceLT, Nat.reduceLeDiff,
      reduceIte, Nat.reduceAdd, Nat.reduceSub, Nat.add_one_sub_one, le_refl, true_and]
    omega

theorem civilOf_right (era : Int) (doe : Nat) (h : doe < 146097) :
    (civilOf era doe).Valid ∧ (civilOf era doe).dayNumber = era * 146097 + doe - 719468 := by
  obtain ⟨q, k, j, e, hyear, hdoe⟩ := exists_year_of_era h
  have hyoe := year_of_era hyear hdoe
  obtain ⟨hq, hk, hj, he, hleap⟩ := hyear
  have hdoy : doe - (365 * (100 * q + 4 * k + j) + (100 * q + 4 * k + j) / 4 -
      (100 * q + 4 * k + j) / 100) = e := by
    have hfourth : (100 * q + 4 * k + j) / 4 = 25 * q + k := by omega
    have hcentury : (100 * q + 4 * k + j) / 100 = q := by omega
    rw [hfourth, hcentury, hdoe]
    omega
  rw [civilOf, hyoe, hdoy, ← dateFrom]
  generalize hy : ((100 * q + 4 * k + j : Nat) + era * 400 : Int) = y
  have hfourth : y / 4 = 100 * era + 25 * q + k := by omega
  have hcentury : y / 100 = 4 * era + q := by omega
  have hera : y / 400 = era := by omega
  obtain ⟨hvalid, hnumber⟩ := dateFrom_right he (y := y) fun hlast => by
    rw [IsLeap]
    omega
  rw [hnumber, hfourth, hcentury, hera]
  exact ⟨hvalid, by omega⟩

theorem civilFromDays_right (z : Int) :
    (civilFromDays z).Valid ∧ (civilFromDays z).dayNumber = z := by
  obtain ⟨hvalid, hnumber⟩ :=
    civilOf_right ((z + 719468) / 146097) ((z + 719468) % 146097).toNat (by omega)
  rw [civilFromDays, hnumber]
  exact ⟨hvalid, by omega⟩

theorem license_civilFromDays_eq (days : Int) :
    License.civilFromDays days = civilFromDays days := by
  have hera : (if 0 ≤ days + 719468 then days + 719468 else days + 719468 - 146096).tdiv 146097 =
      (days + 719468) / 146097 := by
    have hsign : Int.sign 146097 = 1 := rfl
    rw [Int.tdiv_eq_ediv, hsign]
    split <;> split <;> omega
  rw [License.civilFromDays, civilFromDays, hera]
  congr 1
  omega

end Penguind.Cli

import BotSentry.Time.Calendar
import Mathlib.Tactic.Common
import Mathlib.Tactic.IntervalCases

/-!
# Days and dates

Every day number is the number of one date (`toDays_ofDays`), which exists (`isValid_ofDays`). The cycles
of 400, 100 and 4 years and the year left over give the year of a day (`daysBeforeYear_yearOfDay`), and
the lengths of its months the rest. The day numbers below 3652059 are those of the years up to 9999.
-/

namespace BotSentry.Date

theorem isLeap_iff (year : Nat) :
    isLeap year = true ↔ year % 4 = 0 ∧ (year % 100 ≠ 0 ∨ year % 400 = 0) := by
  simp [isLeap]

/-- The days before a year that is some cycles of 400, 100 and 4 years and some years from the first. -/
theorem daysBeforeYear_cycles {a b c d : Nat} (hb : b ≤ 3) (hc : c ≤ 24) (hd : d ≤ 3) :
    daysBeforeYear (400 * a + 100 * b + 4 * c + d + 1)
      = 146097 * a + 36524 * b + 1461 * c + 365 * d := by
  simp only [daysBeforeYear, Nat.add_sub_cancel]
  omega

theorem daysBeforeYear_yearOfDay (n : Nat) :
    daysBeforeYear (yearOfDay n).1 + (yearOfDay n).2 = n := by
  simp only [yearOfDay]
  rw [daysBeforeYear_cycles (by omega) (by omega) (by omega)]
  omega

theorem yearOfDay_lt (n : Nat) : (yearOfDay n).2 < yearLength (yearOfDay n).1 := by
  have hleap := isLeap_iff (yearOfDay n).1
  rw [yearLength]
  split_ifs with h
  · simp only [yearOfDay]
    omega
  · rw [hleap] at h
    simp only [yearOfDay] at h ⊢
    omega

theorem daysBeforeYear_succ {year : Nat} (h : 1 ≤ year) :
    daysBeforeYear (year + 1) = daysBeforeYear year + yearLength year := by
  obtain ⟨n, rfl⟩ := Nat.exists_eq_add_of_le' h
  have hleap := isLeap_iff (n + 1)
  have hcentury : ∀ m, m / 100 = m / 4 / 25 := fun m => by omega
  have hcycle : ∀ m, m / 400 = m / 4 / 25 / 4 := fun m => by omega
  simp only [daysBeforeYear, yearLength, Nat.add_sub_cancel, hcentury, hcycle]
  split_ifs with hl
  · rw [hleap] at hl
    omega
  · rw [hleap] at hl
    omega

theorem daysBeforeYear_mono {first last : Nat} (hfirst : 1 ≤ first) (h : first ≤ last) :
    daysBeforeYear first ≤ daysBeforeYear last := by
  induction last, h using Nat.le_induction with
  | base => exact Nat.le_refl _
  | succ last hle ih =>
    rw [daysBeforeYear_succ (Nat.le_trans hfirst hle)]
    exact Nat.le_add_right_of_le ih

theorem le_yearOfDay_iff {year n : Nat} (hyear : 1 ≤ year) :
    year ≤ (yearOfDay n).1 ↔ daysBeforeYear year ≤ n := by
  have hday := daysBeforeYear_yearOfDay n
  have hlt := yearOfDay_lt n
  constructor
  · intro h
    have := daysBeforeYear_mono hyear h
    omega
  · intro h
    by_contra hlater
    have := daysBeforeYear_mono (Nat.le_add_left 1 _) (Nat.lt_of_not_le hlater)
    rw [daysBeforeYear_succ (by simp [yearOfDay])] at this
    omega

theorem year_le_of_lt {n : Nat} (h : n < 3652059) : (yearOfDay n).1 ≤ 9999 := by
  by_contra hyear
  have := (le_yearOfDay_iff (by decide)).1 (Nat.lt_of_not_le hyear)
  exact Nat.not_le.2 h this

/-- A day of a year is in the month before which there are as many days as leave it some. -/
theorem monthOfDay_spec {lengths : List Nat} {n : Nat} (h : n < lengths.sum) (month : Nat) :
    ∃ k r, k < lengths.length ∧ r < lengths.getD k 0 ∧ n = (lengths.take k).sum + r
      ∧ monthOfDay lengths month n = (month + k, r + 1) := by
  induction lengths generalizing n month with
  | nil => exact absurd h (Nat.not_lt_zero n)
  | cons length rest ih =>
    rw [monthOfDay]
    split_ifs with hn
    · exact ⟨0, n, by simp, hn, by simp, rfl⟩
    · rw [List.sum_cons] at h
      obtain ⟨k, r, hk, hr, hsum, hmonth⟩ := ih (by omega : n - length < rest.sum) (month + 1)
      refine ⟨k + 1, r, by simpa using hk, hr, ?_, ?_⟩
      · rw [List.take_succ_cons, List.sum_cons]
        omega
      · rw [hmonth, Nat.add_assoc, Nat.add_comm 1 k]

theorem sum_monthLengths (year : Nat) :
    (monthLengths (isLeap year)).sum = yearLength year := by
  rw [yearLength]
  cases isLeap year <;> rfl

theorem ofDays_spec (n : Nat) : (ofDays n).isValid = true ∧ (ofDays n).toDays = n := by
  have hyear := daysBeforeYear_yearOfDay n
  obtain ⟨k, r, hk, hr, hday, hmonth⟩ :=
    monthOfDay_spec (sum_monthLengths _ ▸ yearOfDay_lt n) 1
  have hlength : (monthLengths (isLeap (yearOfDay n).1)).length = 12 := rfl
  have hfirst : 1 ≤ (yearOfDay n).1 := by simp [yearOfDay]
  have hdate : ofDays n = { year := (yearOfDay n).1, month := 1 + k, day := r + 1 } := by
    simp only [ofDays, hmonth]
  rw [hdate]
  constructor
  · simp only [isValid, monthLength, Nat.add_sub_cancel_left, Bool.and_eq_true, decide_eq_true_eq]
    omega
  · simp only [toDays, daysBeforeMonth, Nat.add_sub_cancel_left, Nat.add_sub_cancel]
    rw [List.sum] at hday
    omega

theorem isValid_ofDays (n : Nat) : (ofDays n).isValid = true := (ofDays_spec n).1

theorem toDays_ofDays (n : Nat) : (ofDays n).toDays = n := (ofDays_spec n).2

theorem daysBeforeMonth_add_le (year : Nat) {month : Nat} (h₁ : 1 ≤ month) (h₂ : month ≤ 12) :
    daysBeforeMonth year month + monthLength year month ≤ yearLength year := by
  simp only [daysBeforeMonth, monthLength, yearLength]
  interval_cases month <;> cases isLeap year <;> decide

theorem monthLength_le (year : Nat) {month : Nat} (h₁ : 1 ≤ month) (h₂ : month ≤ 12) :
    monthLength year month ≤ 31 := by
  rw [monthLength]
  interval_cases month <;> cases isLeap year <;> decide

theorem toDays_newYear (year : Nat) : toDays { year, month := 1, day := 1 } = daysBeforeYear year :=
  rfl

/-- A year has begun by a day exactly if the date of that day is in it or in a later one. -/
theorem le_year_ofDays_iff {year n : Nat} (hyear : 1 ≤ year) :
    year ≤ (ofDays n).year ↔ toDays { year, month := 1, day := 1 } ≤ n :=
  le_yearOfDay_iff hyear

/-- The dates up to the year 9999 have the numbers below 3652059. -/
theorem toDays_lt {d : Date} (h : d.isValid = true) (hyear : d.year ≤ 9999) :
    d.toDays < 3652059 := by
  simp only [isValid, Bool.and_eq_true, decide_eq_true_eq] at h
  have hnext := daysBeforeYear_mono (Nat.le_add_left 1 d.year) (Nat.succ_le_succ hyear)
  rw [daysBeforeYear_succ h.1.1.1.1, show daysBeforeYear (9999 + 1) = 3652059 from rfl] at hnext
  have hmonths := daysBeforeMonth_add_le d.year h.1.1.1.2 h.1.1.2
  rw [toDays]
  omega

end BotSentry.Date

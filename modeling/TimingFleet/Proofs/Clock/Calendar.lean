import Mathlib.Algebra.BigOperators.Intervals
import Mathlib.Tactic.IntervalCases
import TimingFleet.Clock.Date

/-!
# The calendar

`Date.ofDays` counts days in cycles of four hundred years that begin in March.  Here is the calendar itself: which years
are leap years, how long the months are, and how many days there are from 1970-01-01 to a date, counted year by year and
month by month.

* `Date.Valid d`: the month and the day exist.
* `Date.number d`: the days from 1970-01-01 to `d`.
* `Date.daysToMarch y`: the days from the first of March of the year 0 to that of the year `y`.

Main statements: `Date.ofDays` gives existing dates (`Date.valid_ofDays`) and counts as the calendar does
(`Date.number_ofDays`).
-/

namespace TimingFleet

namespace Date

/-! ## Years and months -/

/-- A year of 366 days. -/
def IsLeap (year : Nat) : Prop := year % 4 = 0 ∧ (year % 100 ≠ 0 ∨ year % 400 = 0)

instance (year : Nat) : Decidable (IsLeap year) := inferInstanceAs (Decidable (_ ∧ _))

/-- The days of a year. -/
def yearLength (year : Nat) : Nat := if IsLeap year then 366 else 365

/-- The days of a month; January is month 1. -/
def monthLength (year : Nat) : Nat → Nat
  | 2 => if IsLeap year then 29 else 28
  | 4 | 6 | 9 | 11 => 30
  | _ => 31

/-- The date exists. -/
structure Valid (d : Date) : Prop where
  month : 1 ≤ d.month ∧ d.month ≤ 12
  day : 1 ≤ d.day ∧ d.day ≤ monthLength d.year d.month

/-- The days from 1970-01-01 to the beginning of a year. -/
def daysToYear (year : Nat) : Nat := ∑ y ∈ Finset.Ico 1970 year, yearLength y

/-- The days of a year before a month of it begins. -/
def daysToMonth (year month : Nat) : Nat := ∑ m ∈ Finset.Ico 1 month, monthLength year m

/-- The days from 1970-01-01 to a date. -/
def number (d : Date) : Nat := daysToYear d.year + daysToMonth d.year d.month + (d.day - 1)

/-- The days from the first of March of the year 0 to the first of March of the year `y`. -/
def daysToMarch (y : Nat) : Nat := 365 * y + y / 4 - y / 100 + y / 400

/-! ## Years that begin in March -/

/-- Every fourth year has a day more, but not every hundredth, and yet every four hundredth. -/
theorem yearLength_eq (year : Nat) :
    yearLength year = 365 + (if year % 4 = 0 then 1 else 0) - (if year % 100 = 0 then 1 else 0) +
      if year % 400 = 0 then 1 else 0 := by
  unfold yearLength
  by_cases h : IsLeap year
  · rw [if_pos h]
    unfold IsLeap at h
    split_ifs <;> omega
  · rw [if_neg h]
    unfold IsLeap at h
    split_ifs <;> omega

theorem daysToMarch_succ (y : Nat) : daysToMarch (y + 1) = daysToMarch y + yearLength (y + 1) := by
  have hdiv : ∀ k, (y + 1) / k = y / k + if (y + 1) % k = 0 then 1 else 0 := fun k => by
    simp only [Nat.succ_div, Nat.dvd_iff_mod_eq_zero]
  have hle : y / 100 ≤ y := Nat.div_le_self y 100
  rw [yearLength_eq, daysToMarch, daysToMarch, hdiv, hdiv, hdiv]
  generalize y / 4 = f, y / 100 = c, y / 400 = k at hle ⊢
  split_ifs <;> omega

/-- From January the calendar counts the same days as from March, but for the ten months between. -/
theorem daysToYear_succ {y : Nat} (h : 1969 ≤ y) : daysToYear (y + 1) + epochOffset = daysToMarch y + 306 := by
  induction y, h using Nat.le_induction with
  | base => rfl
  | succ y hy ih =>
    rw [daysToYear, Finset.sum_Ico_succ_top (by omega), daysToMarch_succ, Nat.add_right_comm,
      Nat.add_right_comm _ _ 306, ← ih]
    rfl

/-- Days of a cycle that lie `t` days into a year. -/
structure InCycle (d c q a t : Nat) : Prop where
  eq : d = 36524 * c + 1461 * q + 365 * a + t
  century : c < 4
  leap : q < 25
  year : a < 4
  rest : t < 365 ∨ t = 365 ∧ a = 3 ∧ (q ≠ 24 ∨ c = 3)

theorem exists_inCycle {d : Nat} (h : d < 146097) : ∃ c q a t, InCycle d c q a t := by
  by_cases hlast : d = 146096
  · exact ⟨3, 24, 3, 365, hlast, by decide, by decide, by decide, by decide⟩
  obtain ⟨c, r, hr, rfl⟩ : ∃ c r, r < 36524 ∧ d = 36524 * c + r := ⟨d / 36524, d % 36524, by omega⟩
  obtain ⟨q, s, hs, rfl⟩ : ∃ q s, s < 1461 ∧ r = 1461 * q + s := ⟨r / 1461, r % 1461, by omega⟩
  by_cases hleap : s = 1460
  · exact ⟨c, q, 3, 365, by omega, by omega, by omega, by omega, by omega⟩
  · exact ⟨c, q, s / 365, s % 365, by omega, by omega, by omega, by omega, by omega⟩

namespace InCycle

variable {d c q a t : Nat}

theorem daysBeforeYear_eq (h : InCycle d c q a t) : daysBeforeYear (100 * c + 4 * q + a) + t = d := by
  obtain ⟨rfl, -, hq, ha, -⟩ := h
  have hfour : (100 * c + 4 * q + a) / 4 = 25 * c + q := by omega
  have hcentury : (100 * c + 4 * q + a) / 100 = c := by omega
  rw [daysBeforeYear, hfour, hcentury]
  omega

/-- **The year within a cycle**: the three quotients make up for the leap days, and for those left out. -/
theorem yearOfCycle_eq (h : InCycle d c q a t) : yearOfCycle d = 100 * c + 4 * q + a := by
  obtain ⟨rfl, hc, hq, ha, ht⟩ := h
  have hleap : ∃ e, (36524 * c + 1461 * q + 365 * a + t) / 1460 = 25 * c + q + e ∧ e ≤ t ∧ t < 365 + e := by
    refine ⟨(24 * c + q + 365 * a + t) / 1460, ?_, ?_, ?_⟩
    · omega
    · omega
    · rcases ht with ht | ht
      · omega
      · omega
  have hcentury : ∃ k, (36524 * c + 1461 * q + 365 * a + t) / 36524 = c + k ∧
      (36524 * c + 1461 * q + 365 * a + t) / 146096 = k := by
    by_cases hlast : 1461 * q + 365 * a + t < 36524
    · refine ⟨0, ?_, ?_⟩
      · omega
      · omega
    · -- only the last day of the cycle is further on
      obtain ⟨rfl, rfl, rfl, rfl⟩ : c = 3 ∧ q = 24 ∧ a = 3 ∧ t = 365 := by omega
      exact ⟨1, rfl, rfl⟩
  obtain ⟨e, he, hle, hlt⟩ := hleap
  obtain ⟨k, hk, hk'⟩ := hcentury
  have hdays : 36524 * c + 1461 * q + 365 * a + t - (25 * c + q + e) + (c + k) - k =
      365 * (100 * c + 4 * q + a) + (t - e) := by omega
  have hrest : t - e < 365 := by omega
  rw [yearOfCycle, he, hk, hk', hdays, Nat.mul_add_div (by decide), Nat.div_eq_of_lt hrest, Nat.add_zero]

theorem daysToMarch_eq (h : InCycle d c q a t) (cycle : Nat) :
    daysToMarch (400 * cycle + (100 * c + 4 * q + a)) + t = 146097 * cycle + d := by
  obtain ⟨rfl, hc, hq, ha, -⟩ := h
  have hfour : (400 * cycle + (100 * c + 4 * q + a)) / 4 = 100 * cycle + 25 * c + q := by omega
  have hcentury : (400 * cycle + (100 * c + 4 * q + a)) / 100 = 4 * cycle + c := by omega
  have hcycle : (400 * cycle + (100 * c + 4 * q + a)) / 400 = cycle := by omega
  rw [daysToMarch, hfour, hcentury, hcycle]
  omega

theorem lt_yearLength (h : InCycle d c q a t) (cycle : Nat) :
    t < yearLength (400 * cycle + (100 * c + 4 * q + a) + 1) := by
  obtain ⟨-, hc, hq, ha, ht | ⟨ht, hyear, hskip⟩⟩ := h
  · exact Nat.lt_of_lt_of_le ht (by unfold yearLength; split_ifs <;> decide)
  · have hleap : IsLeap (400 * cycle + (100 * c + 4 * q + a) + 1) := by
      unfold IsLeap
      omega
    rw [yearLength, if_pos hleap]
    omega

end InCycle

/-- Day `t` of the year that begins in March of the year `y`. -/
def ofMarch (y t : Nat) : Date :=
  let m := (5 * t + 2) / 153
  let month := if m < 10 then m + 3 else m - 9
  ⟨y + (if month ≤ 2 then 1 else 0), month, t - daysBeforeMonth m + 1⟩

theorem ofDays_eq_ofMarch (days : Nat) :
    ∃ y t, days + epochOffset = daysToMarch y + t ∧ t < yearLength (y + 1) ∧ ofDays days = ofMarch y t := by
  obtain ⟨c, q, a, t, h⟩ := exists_inCycle (Nat.mod_lt (days + epochOffset) (by decide : 146097 > 0))
  refine ⟨400 * ((days + epochOffset) / 146097) + (100 * c + 4 * q + a), t, ?_, h.lt_yearLength _, ?_⟩
  · rw [h.daysToMarch_eq, Nat.div_add_mod]
  · have ht : (days + epochOffset) % 146097 - daysBeforeYear (100 * c + 4 * q + a) = t := by
      rw [← h.daysBeforeYear_eq, Nat.add_sub_cancel_left]
    simp only [ofDays, h.yearOfCycle_eq, ht]
    rfl

/-! ## Months -/

/-- **Where a day falls**: in one of the ten months from March on, or in January or February of the next year. -/
theorem ofMarch_cases {y t : Nat} (ht : t < yearLength (y + 1)) :
    (∃ m < 10, daysBeforeMonth m ≤ t ∧ t < daysBeforeMonth (m + 1) ∧
      ofMarch y t = ⟨y, m + 3, t - daysBeforeMonth m + 1⟩) ∨
    (306 ≤ t ∧ t < 337 ∧ ofMarch y t = ⟨y + 1, 1, t - 306 + 1⟩) ∨
    (337 ≤ t ∧ ofMarch y t = ⟨y + 1, 2, t - 337 + 1⟩) := by
  have hyear : t < 366 := Nat.lt_of_lt_of_le ht (by unfold yearLength; split_ifs <;> decide)
  by_cases hspring : t < 306
  · have hm : (5 * t + 2) / 153 < 10 := by omega
    refine Or.inl ⟨(5 * t + 2) / 153, hm, ?_, ?_, ?_⟩
    · unfold daysBeforeMonth
      omega
    · unfold daysBeforeMonth
      omega
    · simp only [ofMarch, if_pos hm]
      rfl
  by_cases hjanuary : t < 337
  · have hm : (5 * t + 2) / 153 = 10 := by omega
    refine Or.inr (Or.inl ⟨Nat.not_lt.mp hspring, hjanuary, ?_⟩)
    unfold ofMarch
    rw [hm]
    rfl
  · have hm : (5 * t + 2) / 153 = 11 := by omega
    refine Or.inr (Or.inr ⟨Nat.not_lt.mp hjanuary, ?_⟩)
    unfold ofMarch
    rw [hm]
    rfl

/-- From March on the months of all years have the same days. -/
theorem monthLength_of_march (y : Nat) {m : Nat} (hm : m < 10) :
    daysBeforeMonth m + monthLength y (m + 3) = daysBeforeMonth (m + 1) := by
  interval_cases m <;> rfl

theorem monthLength_february (y : Nat) : 337 + monthLength y 2 = yearLength y := by
  unfold monthLength yearLength
  split_ifs <;> rfl

theorem daysToMonth_of_march (y : Nat) {m : Nat} (hm : m < 10) :
    daysToMonth y (m + 3) + 306 = daysBeforeMonth m + yearLength y := by
  induction m with
  | zero =>
    rw [← monthLength_february, daysToMonth, Finset.sum_Ico_succ_top (by decide), Finset.sum_Ico_succ_top (by decide)]
    show 0 + 31 + monthLength y 2 + 306 = 0 + (337 + monthLength y 2)
    omega
  | succ m ih =>
    have hlength := monthLength_of_march y (Nat.lt_of_succ_lt hm)
    rw [daysToMonth, Finset.sum_Ico_succ_top (by omega), ← daysToMonth, ← hlength]
    have hbefore := ih (Nat.lt_of_succ_lt hm)
    rw [Nat.add_right_comm, hbefore, Nat.add_right_comm]

/-- **A day of a year from March** exists, as far as the year goes. -/
theorem valid_ofMarch {y t : Nat} (ht : t < yearLength (y + 1)) : (ofMarch y t).Valid := by
  rcases ofMarch_cases ht with ⟨m, hm, hle, hlt, h⟩ | ⟨hle, hlt, h⟩ | ⟨hle, h⟩
  · have hlength := monthLength_of_march y hm
    rw [h]
    refine ⟨⟨?_, ?_⟩, ?_, ?_⟩ <;> dsimp only <;> omega
  · rw [h]
    refine ⟨(by decide : 1 ≤ 1 ∧ 1 ≤ 12), Nat.succ_pos _, ?_⟩
    show t - 306 + 1 ≤ 31
    omega
  · have hlength := monthLength_february (y + 1)
    rw [h]
    refine ⟨(by decide : 1 ≤ 2 ∧ 2 ≤ 12), Nat.succ_pos _, ?_⟩
    dsimp only
    omega

/-- **A day of a year from March** has its number, if it is not before 1970. -/
theorem number_ofMarch {y t : Nat} (ht : t < yearLength (y + 1)) (hepoch : epochOffset ≤ daysToMarch y + t) :
    1970 ≤ (ofMarch y t).year ∧ (ofMarch y t).number + epochOffset = daysToMarch y + t := by
  have hfirst : 1969 ≤ y ∧ (y = 1969 → 306 ≤ t) := by
    unfold daysToMarch epochOffset at hepoch
    unfold yearLength at ht
    split_ifs at ht <;> omega
  rcases ofMarch_cases ht with ⟨m, hm, hle, hlt, h⟩ | ⟨hle, hlt, h⟩ | ⟨hle, h⟩
  · have hmarch : t < 306 := by
      have hlast : daysBeforeMonth (m + 1) ≤ 306 := by
        unfold daysBeforeMonth
        omega
      omega
    obtain ⟨x, rfl⟩ : ∃ x, y = x + 1 := ⟨y - 1, by omega⟩
    have hmonth := daysToMonth_of_march (x + 1) hm
    have hyear := daysToYear_succ (y := x) (by omega)
    rw [h, number, daysToMarch_succ]
    dsimp only
    omega
  · have hyear := daysToYear_succ hfirst.1
    have hmonth : daysToMonth (y + 1) 1 = 0 := rfl
    rw [h, number]
    dsimp only
    omega
  · have hyear := daysToYear_succ hfirst.1
    have hmonth : daysToMonth (y + 1) 2 = 31 := rfl
    rw [h, number]
    dsimp only
    omega

/-! ## Days from 1970 -/

theorem valid_ofDays (days : Nat) : (ofDays days).Valid := by
  obtain ⟨y, t, -, ht, h⟩ := ofDays_eq_ofMarch days
  exact h ▸ valid_ofMarch ht

/-- **Counting on the calendar** from 1970-01-01 to the date that many days later gives the number of days. -/
theorem number_ofDays (days : Nat) : 1970 ≤ (ofDays days).year ∧ (ofDays days).number = days := by
  obtain ⟨y, t, hdays, ht, h⟩ := ofDays_eq_ofMarch days
  obtain ⟨hyear, hnumber⟩ := number_ofMarch ht (hdays ▸ Nat.le_add_left _ _)
  rw [h]
  exact ⟨hyear, Nat.add_right_cancel (hnumber.trans hdays.symm)⟩

/-- A year takes up at least 365 days. -/
theorem year_ofDays_le (days : Nat) : (ofDays days).year ≤ 1970 + days / 365 := by
  have hlong : ∀ n, 365 * n ≤ daysToYear (1970 + n) := by
    intro n
    induction n with
    | zero => exact Nat.zero_le _
    | succ n ih =>
      have hyear : 365 ≤ yearLength (1970 + n) := by
        unfold yearLength
        split_ifs <;> decide
      rw [daysToYear, ← Nat.add_assoc, Finset.sum_Ico_succ_top (by omega), ← daysToYear]
      omega
  obtain ⟨hyear, hnumber⟩ := number_ofDays days
  obtain ⟨n, hn⟩ := Nat.exists_eq_add_of_le hyear
  have hle := hlong n
  rw [← hn] at hle
  unfold number at hnumber
  omega

end Date

end TimingFleet

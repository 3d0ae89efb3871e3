import Mathlib.Data.Nat.Basic
import Mathlib.Data.UInt
import Mathlib.Order.Monotone.Basic
import Mathlib.Tactic.IntervalCases

/-!
# The proleptic Gregorian calendar

The dates from 1970 on, one day after the other. Days are also numbered by a formula that counts
years from March, so that the leap day is the last day of a year; the formula follows the calendar.
-/

namespace Gregorian

/-! ## Dates -/

structure Date where
  year : Nat
  month : Nat
  day : Nat

/-- Every fourth year has a leap day, but a century only if 400 divides it. -/
def isLeap (year : Nat) : Bool := year % 400 = 0 ∨ (year % 4 = 0 ∧ year % 100 ≠ 0)

def monthLength (year : Nat) : Nat → Nat
  | 1 | 3 | 5 | 7 | 8 | 10 | 12 => 31
  | 4 | 6 | 9 | 11 => 30
  | 2 => if isLeap year then 29 else 28
  | _ => 0

namespace Date

structure Valid (date : Date) : Prop where
  month_pos : 1 ≤ date.month
  month_le : date.month ≤ 12
  day_pos : 1 ≤ date.day
  day_le : date.day ≤ monthLength date.year date.month

/-- The day after. -/
def tomorrow (date : Date) : Date :=
  if date.day < monthLength date.year date.month then { date with day := date.day + 1 }
  else if date.month < 12 then ⟨date.year, date.month + 1, 1⟩
  else ⟨date.year + 1, 1, 1⟩

end Date

/-- The date so many days after 1970-01-01. -/
def dateOn : Nat → Date
  | 0 => ⟨1970, 1, 1⟩
  | n + 1 => (dateOn n).tomorrow

theorem monthLength_pos (year : Nat) {month : Nat} (hpos : 1 ≤ month) (hle : month ≤ 12) :
    28 ≤ monthLength year month ∧ monthLength year month ≤ 31 := by
  unfold monthLength
  interval_cases month <;> simp only [] <;> first | omega | (split <;> omega)

/-- The next day is a day. -/
theorem valid_tomorrow {date : Date} (h : date.Valid) : date.tomorrow.Valid := by
  unfold Date.tomorrow
  split
  · rename_i hday
    exact ⟨h.month_pos, h.month_le, by simp, hday⟩
  · split
    · rename_i hmonth
      have hlength := @monthLength_pos date.year (date.month + 1) (by omega)
        (by omega)
      exact ⟨by simp, hmonth, by simp, by simp only []; omega⟩
    · exact ⟨by simp, by simp, by simp, by simp [monthLength]⟩

/-- Every day number has a date. -/
theorem valid_dateOn (n : Nat) : (dateOn n).Valid ∧ 1970 ≤ (dateOn n).year := by
  induction n with
  | zero => exact ⟨⟨by decide, by decide, by decide, by decide⟩, by decide⟩
  | succ n ih =>
    apply And.intro (valid_tomorrow ih.1)
    have hyear := ih.2
    show 1970 ≤ (dateOn n).tomorrow.year
    unfold Date.tomorrow
    split_ifs <;> dsimp only <;> omega

/-! ## Numbers of days -/

namespace Date

/-- The year that began in March. -/
def marchYear (date : Date) : Nat := if date.month ≤ 2 then date.year - 1 else date.year

/-- The months since March. -/
def marchMonth (date : Date) : Nat := if date.month ≤ 2 then date.month + 9 else date.month - 3

/-- The days since the first of March. -/
def dayOfYear (date : Date) : Nat := (153 * date.marchMonth + 2) / 5 + date.day - 1

end Date

/-- The days of the years before a year, counted from March. -/
def daysBefore (year : Nat) : Nat := 365 * year + year / 4 - year / 100 + year / 400

/-- The days since the first of March of the year 0. -/
def dayNumber (date : Date) : Nat := daysBefore date.marchYear + date.dayOfYear

/-- A year from March has the leap day of the next year. -/
theorem daysBefore_succ (year : Nat) :
    daysBefore (year + 1) = daysBefore year + if isLeap (year + 1) then 366 else 365 := by
  have h4 : (year + 1) / 4 = year / 4 + if (year + 1) % 4 = 0 then 1 else 0 := by
    split <;> omega
  have h100 : (year + 1) / 100 = year / 100 + if (year + 1) % 100 = 0 then 1 else 0 := by
    split <;> omega
  have h400 : (year + 1) / 400 = year / 400 + if (year + 1) % 400 = 0 then 1 else 0 := by
    split <;> omega
  have hle : year / 100 ≤ year / 4 := by omega
  have hcentury : (year + 1) % 400 = 0 → (year + 1) % 100 = 0 := by omega
  have hfourth : (year + 1) % 100 = 0 → (year + 1) % 4 = 0 := by omega
  unfold daysBefore
  rw [h4, h100, h400]
  clear h4 h100 h400
  generalize year / 4 = a at *
  generalize year / 100 = b at *
  simp only [isLeap, decide_eq_true_eq]
  by_cases hmod4 : (year + 1) % 4 = 0
  · by_cases hmod100 : (year + 1) % 100 = 0
    · by_cases hmod400 : (year + 1) % 400 = 0
      · simp only [hmod4, hmod100, hmod400, if_true, true_or]
        clear hcentury hfourth
        omega
      · simp [hmod4, hmod100, hmod400]
        omega
    · have hmod400 : (year + 1) % 400 ≠ 0 := fun h => hmod100 (hcentury h)
      simp [hmod4, hmod100, hmod400]
      omega
  · have hmod100 : (year + 1) % 100 ≠ 0 := fun h => hmod4 (hfourth h)
    have hmod400 : (year + 1) % 400 ≠ 0 := fun h => hmod100 (hcentury h)
    simp [hmod4, hmod100, hmod400]
    omega

/-- Days are numbered one by one. -/
theorem dayNumber_tomorrow {date : Date} (h : date.Valid) (hyear : 1 ≤ date.year) :
    dayNumber date.tomorrow = dayNumber date + 1 := by
  obtain ⟨year, month, day⟩ := date
  obtain ⟨hmonth, hmonth', hday, hday'⟩ := h
  simp only at hmonth hmonth' hday hday' hyear
  unfold Date.tomorrow dayNumber Date.dayOfYear Date.marchYear Date.marchMonth
  by_cases hlast : day < monthLength year month
  · simp only [if_pos hlast]
    omega
  · obtain rfl : day = monthLength year month := by omega
    simp only [if_neg hlast]
    by_cases hfebruary : month = 2
    · -- February: a year from March is longer by its leap day.
      obtain rfl := hfebruary
      have hyears := daysBefore_succ (year - 1)
      rw [Nat.sub_add_cancel hyear] at hyears
      have hlength : monthLength year 2 = if isLeap year then 29 else 28 := rfl
      simp only [hlength, Nat.reduceLeDiff, Nat.reduceAdd, Nat.reduceLT, if_true, if_false]
      split_ifs at hyears ⊢ <;> omega
    · -- The formula has the lengths of all other months.
      interval_cases month
      all_goals simp [monthLength] at hfebruary ⊢

/-! ## Years of an era -/

/-- The number of the year of a day, among the 400 years after a first of March. -/
def yearOfEra (day : Nat) : Nat := (day - day / 1460 + day / 36524 - day / 146096) / 365

/-- Years do not go back. -/
theorem yearOfEra_le_succ {day : Nat} (h : day + 1 < 146097) :
    yearOfEra day ≤ yearOfEra (day + 1) := by
  unfold yearOfEra
  apply Nat.div_le_div_right
  omega

theorem yearOfEra_mono {a b : Nat} (hab : a ≤ b) (hb : b < 146097) : yearOfEra a ≤ yearOfEra b := by
  induction b with
  | zero =>
    obtain rfl : a = 0 := by omega
    exact Nat.le_refl _
  | succ b ih =>
    by_cases heq : a = b + 1
    · rw [heq]
    · have hstep := yearOfEra_le_succ hb
      have hle := ih (by omega) (by omega)
      omega

/-- The first and the last day of each year of an era. -/
theorem yearOfEra_bounds : ∀ year < 400,
    yearOfEra (365 * year + year / 4 - year / 100) = year ∧
      yearOfEra (365 * year + year / 4 - year / 100 + if isLeap (year + 1) then 365 else 364) =
        year := by
  have hyears : ((List.range 400).all fun year =>
      yearOfEra (365 * year + year / 4 - year / 100) == year &&
        yearOfEra (365 * year + year / 4 - year / 100 + if isLeap (year + 1) then 365 else 364) ==
          year) = true := by
    decide +kernel
  intro year hyear
  have hboth := List.all_eq_true.mp hyears year (List.mem_range.mpr hyear)
  rwa [Bool.and_eq_true, beq_iff_eq, beq_iff_eq] at hboth

/-- A year ends within its era. -/
theorem eraLength (year : Nat) (h : year < 400) :
    (if isLeap (year + 1) then 365 else 364) + (365 * year + year / 4 - year / 100) < 146097 := by
  by_cases hleap : isLeap (year + 1) = true
  · rw [if_pos hleap]
    omega
  · rw [if_neg hleap]
    by_cases h399 : year = 399
    · rw [h399] at hleap
      exact absurd rfl hleap
    · omega

/-- The year of a day of a year. -/
theorem yearOfEra_eq {year day : Nat} (hyear : year < 400)
    (hday : day ≤ if isLeap (year + 1) then 365 else 364) :
    yearOfEra (365 * year + year / 4 - year / 100 + day) = year := by
  obtain ⟨hfirst, hlast⟩ := yearOfEra_bounds year hyear
  have hend := eraLength year hyear
  have hlow := yearOfEra_mono (a := 365 * year + year / 4 - year / 100)
    (b := 365 * year + year / 4 - year / 100 + day) (by omega) (by omega)
  have hhigh := yearOfEra_mono (a := 365 * year + year / 4 - year / 100 + day)
    (b := 365 * year + year / 4 - year / 100 + if isLeap (year + 1) then 365 else 364) (by omega)
    (by omega)
  omega

/-- The parts of the number of a day. -/
theorem dayNumber_parts {date : Date} (h : date.Valid) (hyear : 1 ≤ date.year) :
    dayNumber date / 146097 = date.marchYear / 400 ∧
      dayNumber date % 146097 = 365 * (date.marchYear % 400) + date.marchYear % 400 / 4 -
        date.marchYear % 400 / 100 + date.dayOfYear ∧
      date.dayOfYear ≤ if isLeap (date.marchYear % 400 + 1) then 365 else 364 := by
  have hday : date.dayOfYear ≤ if isLeap (date.marchYear % 400 + 1) then 365 else 364 := by
    obtain ⟨year, month, day⟩ := date
    obtain ⟨hmonth, hmonth', hpos, hle⟩ := h
    simp only at hmonth hmonth' hpos hle hyear
    unfold Date.dayOfYear Date.marchMonth Date.marchYear
    by_cases hfebruary : month = 2
    · obtain rfl := hfebruary
      have hleap : isLeap ((year - 1) % 400 + 1) = isLeap year := by
        unfold isLeap
        congr 1
        apply propext
        omega
      have hlength : monthLength year 2 = if isLeap year then 29 else 28 := rfl
      rw [hlength] at hle
      simp only [Nat.le_refl, if_true, hleap]
      split_ifs at hle ⊢ <;> omega
    · have hshort : (153 * (if month ≤ 2 then month + 9 else month - 3) + 2) / 5 + day - 1 ≤ 364 := by
        interval_cases month
        all_goals simp [monthLength] at hle hfebruary ⊢
        all_goals omega
      have hyears : ∀ leap : Bool, 364 ≤ if leap then 365 else 364 := by decide
      exact Nat.le_trans hshort (hyears _)
  -- 400 years end within their cycle
  have hbound : (if isLeap (date.marchYear % 400 + 1) then 365 else 364) +
      (365 * (date.marchYear % 400) + date.marchYear % 400 / 4 - date.marchYear % 400 / 100) <
        146097 := by
    have hrange : date.marchYear % 400 < 400 := Nat.mod_lt _ (by decide)
    generalize date.marchYear % 400 = year at hrange ⊢
    exact eraLength year hrange
  have hsplit : dayNumber date = 146097 * (date.marchYear / 400) +
      (365 * (date.marchYear % 400) + date.marchYear % 400 / 4 - date.marchYear % 400 / 100 +
        date.dayOfYear) := by
    have hyears : ∀ year, daysBefore year = 146097 * (year / 400) +
        (365 * (year % 400) + year % 400 / 4 - year % 400 / 100) := by
      intro year
      have h4 : year / 4 = 100 * (year / 400) + year % 400 / 4 := by omega
      have h100 : year / 100 = 4 * (year / 400) + year % 400 / 100 := by omega
      have hless : year % 400 / 100 ≤ year % 400 / 4 := by omega
      unfold daysBefore
      generalize year % 400 / 4 = a at *
      generalize year % 400 / 100 = b at *
      omega
    rw [dayNumber, hyears, Nat.add_assoc]
  have hlt : 365 * (date.marchYear % 400) + date.marchYear % 400 / 4 - date.marchYear % 400 / 100 +
      date.dayOfYear < 146097 := by
    generalize 365 * (date.marchYear % 400) + date.marchYear % 400 / 4 -
      date.marchYear % 400 / 100 = day at hbound ⊢
    omega
  rw [hsplit]
  refine ⟨?_, ?_, hday⟩
  · rw [Nat.mul_add_div (by decide), Nat.div_eq_of_lt hlt, Nat.add_zero]
  · rw [Nat.mul_add_mod, Nat.mod_eq_of_lt hlt]

/-! ## Order -/

/-- The order of dates. -/
def Date.Before (a b : Date) : Prop :=
  a.year < b.year ∨ (a.year = b.year ∧ (a.month < b.month ∨ (a.month = b.month ∧ a.day < b.day)))

theorem Date.Before.trans {a b c : Date} (hab : a.Before b) (hbc : b.Before c) : a.Before c := by
  unfold Date.Before at *
  omega

theorem before_tomorrow (date : Date) : date.Before date.tomorrow := by
  unfold Date.Before Date.tomorrow
  split_ifs <;> dsimp only <;> omega

/-- Dates are in the order of their numbers. -/
theorem dateOn_before {a b : Nat} (h : a < b) : (dateOn a).Before (dateOn b) := by
  induction b with
  | zero => omega
  | succ b ih =>
    have hstep := before_tomorrow (dateOn b)
    by_cases heq : a = b
    · rw [heq]
      exact hstep
    · exact (ih (by omega)).trans hstep

/-- The number of the date so many days after 1970-01-01. -/
theorem dayNumber_dateOn (n : Nat) : dayNumber (dateOn n) = n + 719468 := by
  induction n with
  | zero => simp [dateOn, dayNumber, Date.marchYear, Date.dayOfYear, Date.marchMonth, daysBefore]
  | succ n ih =>
    obtain ⟨hvalid, hyear⟩ := valid_dateOn n
    have hnext : dayNumber (dateOn (n + 1)) = dayNumber (dateOn n) + 1 :=
      dayNumber_tomorrow hvalid (by omega)
    omega

end Gregorian

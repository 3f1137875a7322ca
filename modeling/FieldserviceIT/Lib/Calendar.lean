import Mathlib.Order.Monotone.Basic
import Mathlib.Logic.Function.Iterate
import Mathlib.Tactic.IntervalCases

/-!
The Gregorian calendar. Days are counted from the first of January 1970 and months from the January
of the year 0, so that a month is a number whose successor is the month after it.
-/

namespace FieldserviceIT.Lib.Calendar

section Months

def daysBeforeYear (year : Int) : Int :=
  365 * (year - 1970) + (year - 1969) / 4 - (year - 1901) / 100 + (year - 1601) / 400

def isLeap (year : Int) : Bool :=
  decide (year % 4 = 0) && (decide (year % 100 ≠ 0) || decide (year % 400 = 0))

/-- The days of a year before a month of it, February being that long. -/
def daysBeforeMonth (february : Int) (month : Int) : Int :=
  if month = 0 then 0
  else if month = 1 then 31
  else 31 + february +
    (if month = 2 then 0 else if month = 3 then 31 else if month = 4 then 61
    else if month = 5 then 92 else if month = 6 then 122 else if month = 7 then 153
    else if month = 8 then 184 else if month = 9 then 214 else if month = 10 then 245 else 275)

def februaryOf (year : Int) : Int :=
  if isLeap year then 29 else 28

def firstDay (month : Int) : Int :=
  daysBeforeYear (month / 12) + daysBeforeMonth (februaryOf (month / 12)) (month % 12)

def monthLength (month : Int) : Int :=
  if month % 12 = 1 then februaryOf (month / 12)
  else if month % 12 = 3 ∨ month % 12 = 5 ∨ month % 12 = 8 ∨ month % 12 = 10 then 30
  else 31

theorem februaryOf_eq (year : Int) : februaryOf year = 28 ∨ februaryOf year = 29 := by
  rw [februaryOf]
  split
  · exact .inr rfl
  · exact .inl rfl

theorem daysBeforeYear_succ (year : Int) :
    daysBeforeYear (year + 1) = daysBeforeYear year + 337 + februaryOf year := by
  simp only [daysBeforeYear, februaryOf, isLeap, Bool.and_eq_true, Bool.or_eq_true,
    decide_eq_true_eq]
  split <;> omega

theorem monthLength_bounds (month : Int) : 28 ≤ monthLength month ∧ monthLength month ≤ 31 := by
  rw [monthLength]
  have hfebruary := februaryOf_eq (month / 12)
  split
  · omega
  · split <;> omega

theorem firstDay_succ (month : Int) : firstDay (month + 1) = firstDay month + monthLength month := by
  by_cases hlast : month % 12 = 11
  · have hyear : (month + 1) / 12 = month / 12 + 1 := by omega
    have hmonth : (month + 1) % 12 = 0 := by omega
    simp [firstDay, monthLength, daysBeforeMonth, hyear, hmonth, hlast, daysBeforeYear_succ]
    omega
  · have hyear : (month + 1) / 12 = month / 12 := by omega
    have hmonth : (month + 1) % 12 = month % 12 + 1 := by omega
    rw [firstDay, firstDay, hyear, hmonth, monthLength]
    generalize februaryOf (month / 12) = february
    generalize daysBeforeYear (month / 12) = before
    have hlow : 0 ≤ month % 12 := by omega
    have hhigh : month % 12 < 11 := by omega
    generalize month % 12 = k at *
    interval_cases k <;> simp [daysBeforeMonth] <;> omega

theorem firstDay_lt_succ (month : Int) : firstDay month < firstDay (month + 1) := by
  have hlength := monthLength_bounds month
  rw [firstDay_succ]
  omega

theorem firstDay_le_add (month : Int) (n : Nat) : firstDay month ≤ firstDay (month + n) := by
  induction n with
  | zero => exact le_of_eq (congrArg firstDay (Int.add_zero month).symm)
  | succ n ih =>
    have hnext := firstDay_lt_succ (month + n)
    rw [Nat.cast_add, Nat.cast_one, ← Int.add_assoc]
    exact ih.trans hnext.le

theorem lt_of_firstDay_lt {month month' : Int} (h : firstDay month < firstDay month') :
    month < month' := by
  by_contra hle
  have hlast := firstDay_le_add month' (month - month').toNat
  rw [Int.toNat_of_nonneg (by omega), show month' + (month - month') = month by omega] at hlast
  omega

end Months

section Days

/-- The month of a day: the one that months of mean length would make it, or one beside it. -/
def monthOf (day : Int) : Int :=
  let month := 23640 + day * 4800 / 146097
  if firstDay (month + 1) ≤ day then month + 1
  else if firstDay month ≤ day then month
  else month - 1

def dateOf (day : Int) : Int :=
  day - firstDay (monthOf day) + 1

/-- The same date so many months later; of a month that is too short, the days of the one after. -/
def addMonths (months day : Int) : Int :=
  firstDay (monthOf day + months) + dateOf day - 1

theorem firstDay_near_mean (month : Int) :
    146097 * (month - 23640) - 4 * 4800 ≤ 4800 * firstDay month ∧
      4800 * firstDay month ≤ 146097 * (month - 23640) + 4 * 4800 := by
  have hfebruary := februaryOf_eq (month / 12)
  rw [firstDay, daysBeforeYear]
  have hmonth : month = 12 * (month / 12) + month % 12 := by omega
  generalize februaryOf (month / 12) = february at *
  generalize month / 12 = year at *
  have hlow : 0 ≤ month % 12 := by omega
  have hhigh : month % 12 < 12 := by omega
  generalize month % 12 = k at *
  subst hmonth
  interval_cases k <;> simp [daysBeforeMonth] <;> omega

theorem monthOf_spec (day : Int) :
    firstDay (monthOf day) ≤ day ∧ day < firstDay (monthOf day + 1) := by
  rw [monthOf]
  have hbefore := firstDay_near_mean (23640 + day * 4800 / 146097 - 1)
  have hafter := firstDay_near_mean (23640 + day * 4800 / 146097 + 1 + 1)
  split
  · omega
  · split
    · omega
    · rw [Int.sub_add_cancel]
      omega

theorem monthOf_eq_iff {day month : Int} :
    monthOf day = month ↔ firstDay month ≤ day ∧ day < firstDay (month + 1) := by
  constructor
  · rintro rfl
    exact monthOf_spec day
  · intro h
    obtain ⟨hlow, hhigh⟩ := monthOf_spec day
    have hle := lt_of_firstDay_lt (hlow.trans_lt h.2)
    have hge := lt_of_firstDay_lt (h.1.trans_lt hhigh)
    omega

theorem dateOf_bounds (day : Int) : 1 ≤ dateOf day ∧ dateOf day ≤ monthLength (monthOf day) := by
  obtain ⟨hlow, hhigh⟩ := monthOf_spec day
  rw [firstDay_succ] at hhigh
  rw [dateOf]
  omega

theorem monthOf_addMonths (months day : Int) : monthOf (addMonths months day) =
    monthOf day + months + if monthLength (monthOf day + months) < dateOf day then 1 else 0 := by
  rw [monthOf_eq_iff, addMonths]
  obtain ⟨hone, hlength⟩ := dateOf_bounds day
  have hsucc := firstDay_succ (monthOf day + months)
  split
  · have hnext := firstDay_succ (monthOf day + months + 1)
    have hnow := monthLength_bounds (monthOf day)
    have hthis := monthLength_bounds (monthOf day + months)
    have hthat := monthLength_bounds (monthOf day + months + 1)
    omega
  · rw [Int.add_zero]
    omega

theorem dateOf_addMonths {months day : Int} (h : dateOf day ≤ monthLength (monthOf day + months)) :
    dateOf (addMonths months day) = dateOf day := by
  have hmonth := monthOf_addMonths months day
  rw [if_neg (by omega), Int.add_zero] at hmonth
  rw [dateOf, hmonth, addMonths]
  omega

end Days

section Sequences

theorem exists_short_month (month : Int) : ∃ n : Nat, monthLength (month + n) = 28 := by
  have hshort : ∀ year, isLeap year = false → month ≤ 12 * year →
      ∃ n : Nat, monthLength (month + n) = 28 := by
    intro year hleap hlater
    refine ⟨(12 * year + 1 - month).toNat, ?_⟩
    have hmonth : month + (12 * year + 1 - month).toNat = 12 * year + 1 := by omega
    have hyear : (12 * year + 1) / 12 = year := by omega
    have hfebruary : (12 * year + 1) % 12 = 1 := by omega
    rw [hmonth, monthLength, hfebruary, if_pos rfl, hyear, februaryOf, hleap]
    rfl
  cases hleap : isLeap (month / 12 + 1) with
  | false => exact hshort _ hleap (by omega)
  | true =>
    apply hshort (month / 12 + 2)
    · simp only [isLeap, Bool.and_eq_true, Bool.or_eq_true, decide_eq_true_eq] at hleap
      simp only [isLeap, Bool.and_eq_false_iff, decide_eq_false_iff_not]
      omega
    · omega

theorem iterate_addMonths {day : Int} (h : dateOf day ≤ 28) (n : Nat) :
    monthOf ((addMonths 1)^[n] day) = monthOf day + n ∧
      dateOf ((addMonths 1)^[n] day) = dateOf day := by
  induction n with
  | zero => exact ⟨(Int.add_zero _).symm, rfl⟩
  | succ n ih =>
    rw [Function.iterate_succ_apply']
    have hfits : dateOf ((addMonths 1)^[n] day) ≤
        monthLength (monthOf ((addMonths 1)^[n] day) + 1) := by
      have hbounds := monthLength_bounds (monthOf ((addMonths 1)^[n] day) + 1)
      omega
    rw [dateOf_addMonths hfits, monthOf_addMonths, if_neg (by omega)]
    refine ⟨?_, ih.2⟩
    push_cast
    omega

theorem every_month_iff (day : Int) :
    (∀ n : Nat, monthOf ((addMonths 1)^[n] day) = monthOf day + n) ↔ dateOf day ≤ 28 := by
  refine ⟨fun h => ?_, fun h n => (iterate_addMonths h n).1⟩
  have hfits : ∀ n : Nat, dateOf ((addMonths 1)^[n] day) ≤ monthLength (monthOf day + n + 1) := by
    intro n
    have hstep := h (n + 1)
    rw [Function.iterate_succ_apply', monthOf_addMonths, h n] at hstep
    split at hstep
    · push_cast at hstep
      omega
    · omega
  have hdate : ∀ n : Nat, dateOf ((addMonths 1)^[n] day) = dateOf day := by
    intro n
    induction n with
    | zero => rfl
    | succ n ih =>
      have hnow := hfits n
      rw [Function.iterate_succ_apply', dateOf_addMonths, ih]
      rwa [h n]
  obtain ⟨n, hshort⟩ := exists_short_month (monthOf day + 1)
  have hnow := hfits n
  rw [hdate n, Int.add_right_comm, hshort] at hnow
  exact hnow

end Sequences
end FieldserviceIT.Lib.Calendar

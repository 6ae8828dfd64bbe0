import Formula.Calendar
import Mathlib

/-!
# Days and dates

Every day number is that of one day of some year, month by month, and `Date.ofDayNumber` finds it:
the date exists in the calendar and its number is the given one, `day_number_of_day_number`.
-/

namespace Formula

namespace Calendar

/-- A year has 365 days, and a leap year one more. -/
theorem days_before_year_succ (year : Int) :
    daysBeforeYear (year + 1) = daysBeforeYear year + if isLeapYear year then 366 else 365 := by
  simp only [daysBeforeYear, isLeapYear]
  by_cases h4 : year % 4 = 0 <;> by_cases h100 : year % 100 = 0 <;>
    by_cases h400 : year % 400 = 0 <;> simp [h4, h100, h400] <;> omega

/-- The months of a year have as many days as the year. -/
theorem sum_month_lengths (leap : Bool) :
    (monthLengths leap).foldr (· + ·) 0 = if leap then 366 else 365 := by
  cases leap <;> rfl

/-- The year of a day begins not after it and ends behind it. -/
theorem year_of_bounds (day : Int) :
    daysBeforeYear (yearOf day) ≤ day ∧ day < daysBeforeYear (yearOf day + 1) := by
  -- The mean year is so close that the guess is off by one year at most.
  have hguess : daysBeforeYear (day * 400 / 146097) ≤ day ∧
      day < daysBeforeYear (day * 400 / 146097 + 1 + 1 + 1) := by
    simp only [daysBeforeYear]
    omega
  unfold yearOf
  dsimp only
  split
  · rename_i hbefore
    rw [Int.add_sub_cancel]
    exact ⟨hguess.1, hbefore⟩
  · rename_i hbefore
    split
    · rename_i hafter
      exact ⟨hafter, hguess.2⟩
    · rename_i hafter
      exact ⟨Int.not_lt.1 hbefore, Int.not_le.1 hafter⟩

/-- A place within some months lies in one of them, behind the days of those before it. -/
theorem exists_month {lengths : List Nat} {place : Nat} (h : place < lengths.foldr (· + ·) 0)
    (month : Nat) :
    ∃ i day, monthDay lengths month place = (month + i, day) ∧ i < lengths.length ∧ 1 ≤ day ∧
      day ≤ lengths.getD i 0 ∧ (lengths.take i).foldr (· + ·) 0 + day = place + 1 := by
  induction lengths generalizing month place with
  | nil => exact absurd h (Nat.not_lt_zero place)
  | cons length lengths ih =>
      rw [List.foldr_cons] at h
      rw [monthDay]
      split
      · rename_i hplace
        exact ⟨0, place + 1, rfl, Nat.succ_pos _, Nat.succ_pos _, hplace, Nat.zero_add _⟩
      · rename_i hplace
        have hrest : place - length < lengths.foldr (· + ·) 0 := by omega
        obtain ⟨i, day, hfound, hi, hpos, hle, hsum⟩ := ih hrest (month + 1)
        refine ⟨i + 1, day, ?_, Nat.succ_lt_succ hi, hpos, hle, ?_⟩
        · rw [hfound, Nat.add_assoc, Nat.add_comm 1]
        · rw [List.take_succ_cons, List.foldr_cons]
          omega

/-- No month is longer than 31 days. -/
theorem month_length_le (leap : Bool) (i : Nat) : (monthLengths leap).getD i 0 ≤ 31 := by
  have hle : ∀ length ∈ monthLengths leap, length ≤ 31 := by cases leap <;> decide
  rw [List.getD_eq_getElem?_getD]
  cases h : (monthLengths leap)[i]? with
  | none => exact Nat.zero_le 31
  | some length => exact hle length (List.mem_of_getElem? h)

end Calendar

open Calendar

/-- The months and days of a date that exists have two digits. -/
theorem Date.lt_of_is_valid {date : Date} (h : date.isValid = true) :
    date.month < 100 ∧ date.day < 100 := by
  simp only [isValid, Bool.and_eq_true, decide_eq_true_eq] at h
  have hday := month_length_le (isLeapYear date.year) (date.month - 1)
  omega

/-- The date of a day number exists in the calendar and has that number. -/
theorem Date.day_number_of_day_number (number : Int) :
    (ofDayNumber number).isValid = true ∧ (ofDayNumber number).dayNumber = number := by
  obtain ⟨hfrom, hto⟩ := year_of_bounds (number + epochDay)
  rw [days_before_year_succ] at hto
  simp only [ofDayNumber]
  generalize yearOf (number + epochDay) = year at hfrom hto ⊢
  have hplace : (number + epochDay - daysBeforeYear year).toNat <
      (monthLengths (isLeapYear year)).foldr (· + ·) 0 := by
    rw [sum_month_lengths]
    split
    · rw [if_pos ‹_›] at hto
      omega
    · rw [if_neg ‹_›] at hto
      omega
  obtain ⟨i, day, hfound, hi, hpos, hle, hday⟩ := exists_month hplace 1
  have hmonths : (monthLengths (isLeapYear year)).length = 12 := rfl
  have hmonth : 1 + i - 1 = i := Nat.add_sub_cancel_left 1 i
  rw [hfound]
  constructor
  · simp only [isValid, hmonth, Bool.and_eq_true, decide_eq_true_eq]
    exact ⟨⟨⟨Nat.le_add_right 1 i, by omega⟩, hpos⟩, hle⟩
  · simp only [dayNumber, dayOfYear, hmonth, hday]
    omega

end Formula

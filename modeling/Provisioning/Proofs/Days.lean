import Mathlib.Tactic.IntervalCases
import Provisioning.Calendar.Date

/-!
# Days and their numbers

An era of 400 years is cut into centuries, a century into cycles of four years and a cycle into
years, the last of which may be a day longer than the others (`exists_parts`). So the day with a
number is a day of a year that begins in March (`ofDayNumber_eq`), it is a day that the calendar has
(`isValid_ofDayNumber`), and its number is the one that it was found by (`dayNumber_ofDayNumber`).
-/

namespace Provisioning.Calendar.Date

/-- A day of an era lies in a century, in a cycle of that, in a year of that; only the last year of
a cycle may have one day more. -/
theorem exists_parts {d : Nat} (hd : d < 146097) :
    ∃ c f j k, c ≤ 3 ∧ f ≤ 24 ∧ j ≤ 3 ∧ d = 36524 * c + 1461 * f + 365 * j + k ∧
      (k < 365 ∨ k = 365 ∧ j = 3 ∧ (f < 24 ∨ c = 3)) := by
  obtain ⟨c, r, hc, hr, hd⟩ : ∃ c r, c ≤ 3 ∧ (r < 36524 ∨ r = 36524 ∧ c = 3) ∧
      d = 36524 * c + r := ⟨min (d / 36524) 3, d - 36524 * min (d / 36524) 3, by omega⟩
  obtain ⟨j, k, hj, hk, hs⟩ : ∃ j k, j ≤ 3 ∧ (k < 365 ∨ k = 365 ∧ j = 3) ∧
      r % 1461 = 365 * j + k :=
    ⟨min (r % 1461 / 365) 3, r % 1461 - 365 * min (r % 1461 / 365) 3, by omega⟩
  exact ⟨c, r / 1461, j, k, hc, by omega, hj, by omega, by omega⟩

theorem yearOfEra_eq {c f j k d : Nat} (hc : c ≤ 3) (hf : f ≤ 24) (hj : j ≤ 3)
    (hk : k < 365 ∨ k = 365 ∧ j = 3 ∧ (f < 24 ∨ c = 3))
    (hd : d = 36524 * c + 1461 * f + 365 * j + k) :
    (d - d / 1460 + d / 36524 - d / 146096) / 365 = 100 * c + 4 * f + j := by
  have hcenturies : d / 36524 = c + d / 146096 := by
    by_cases hlast : d = 146096
    · omega
    · have hr : 1461 * f + 365 * j + k < 36524 := by omega
      omega
  have hcycles : d / 1460 = 25 * c + f + (24 * c + f + 365 * j + k) / 1460 := by omega
  have hrest : (24 * c + f + 365 * j + k) / 1460 ≤ 1 := by omega
  omega

/-- The month in which a day of a year lies, both counted from March. -/
def monthOfDay (k : Nat) : Nat :=
  (5 * k + 2) / 153

/-- The day of a year that begins in March. -/
def fromMarch (year : Int) (k : Nat) : Date where
  year := if monthOfDay k < 10 then year else year + 1
  month := if monthOfDay k < 10 then monthOfDay k + 3 else monthOfDay k - 9
  day := k - daysBeforeMonth (monthOfDay k) + 1

/-- A year that begins in March has 365 days, and one more if the next year of the calendar is a
leap year. -/
def InYear (year : Int) (k : Nat) : Prop :=
  k < 365 ∨ k = 365 ∧ isLeapYear (year + 1)

theorem InYear.lt {year : Int} {k : Nat} (h : InYear year k) : k < 366 := by
  rcases h with h | ⟨rfl, -⟩ <;> omega

theorem monthOfDay_le {k : Nat} (h : k < 366) : monthOfDay k ≤ 11 := by
  unfold monthOfDay
  omega

theorem daysBeforeMonth_monthOfDay_le {k : Nat} : daysBeforeMonth (monthOfDay k) ≤ k := by
  unfold daysBeforeMonth monthOfDay
  omega

theorem isLeapYear_iff {year : Int} :
    isLeapYear year ↔ year % 4 = 0 ∧ (year % 100 ≠ 0 ∨ year % 400 = 0) := by
  simp [isLeapYear]

/-- The day with a number is a day of a year that begins in March. -/
theorem ofDayNumber_eq (n : Int) : ∃ year k, InYear year k ∧
    ofDayNumber n = fromMarch year k ∧ n = daysBeforeMarch year + k - epoch := by
  have hmod : ((n + epoch) % 146097).toNat < 146097 := by omega
  obtain ⟨c, f, j, k, hc, hf, hj, hd, hk⟩ := exists_parts hmod
  have hyear := yearOfEra_eq hc hf hj hk hd
  have hfour : (100 * c + 4 * f + j) / 4 = 25 * c + f := by omega
  have hhundred : (100 * c + 4 * f + j) / 100 = c := by omega
  refine ⟨(n + epoch) / 146097 * 400 + (100 * c + 4 * f + j : Nat), k, ?_, ?_, ?_⟩
  · refine hk.imp_right ?_
    rintro ⟨rfl, rfl, hlast⟩
    refine ⟨rfl, isLeapYear_iff.2 ?_⟩
    clear hyear hd hmod
    omega
  · have hinYear : ((n + epoch) % 146097).toNat - (365 * (100 * c + 4 * f + j) +
        (100 * c + 4 * f + j) / 4 - (100 * c + 4 * f + j) / 100) = k := by
      rw [hfour, hhundred, hd]
      omega
    unfold ofDayNumber
    simp only [hyear, hinYear]
    rfl
  · clear hyear
    have hsplit : n + epoch = 146097 * ((n + epoch) / 146097) +
        (36524 * c + 1461 * f + 365 * j + k : Nat) := by omega
    generalize (n + epoch) / 146097 = era at *
    unfold daysBeforeMarch
    omega

/-- All months but the last, which is February, are as long as the days before the next one say. -/
theorem daysInMonth_fromMarch {year : Int} {k : Nat} (h : monthOfDay k < 11) :
    daysInMonth (fromMarch year k).year (fromMarch year k).month =
      daysBeforeMonth (monthOfDay k + 1) - daysBeforeMonth (monthOfDay k) := by
  unfold fromMarch
  generalize monthOfDay k = m at h ⊢
  interval_cases m <;> rfl

theorem day_le_daysInMonth {year : Int} {k : Nat} (h : InYear year k) :
    (fromMarch year k).day ≤ daysInMonth (fromMarch year k).year (fromMarch year k).month := by
  by_cases hm : monthOfDay k < 11
  · have hlow := @daysBeforeMonth_monthOfDay_le k
    have hhigh : k < daysBeforeMonth (monthOfDay k + 1) := by
      unfold daysBeforeMonth monthOfDay
      omega
    rw [daysInMonth_fromMarch hm]
    show k - daysBeforeMonth (monthOfDay k) + 1 ≤ _
    omega
  · have hm : monthOfDay k = 11 := by have := monthOfDay_le h.lt; omega
    simp only [fromMarch, hm, daysInMonth, daysBeforeMonth]
    rcases h with h | ⟨rfl, hleap⟩
    · split_ifs <;> omega
    · simp [hleap]

theorem isValid_fromMarch {year : Int} {k : Nat} (h : InYear year k) :
    (fromMarch year k).isValid := by
  have hmonth : 1 ≤ (fromMarch year k).month ∧ (fromMarch year k).month ≤ 12 := by
    have hm := monthOfDay_le h.lt
    simp only [fromMarch]
    split_ifs <;> omega
  have hday : 1 ≤ (fromMarch year k).day := Nat.le_add_left 1 _
  simp only [isValid, hmonth, hday, day_le_daysInMonth h, decide_true, Bool.and_self]

theorem dayNumber_fromMarch {year : Int} {k : Nat} (hk : k < 366) :
    (fromMarch year k).dayNumber = daysBeforeMarch year + k - epoch := by
  have hm := monthOfDay_le hk
  have hday := @daysBeforeMonth_monthOfDay_le k
  unfold dayNumber fromMarch
  by_cases hlate : monthOfDay k < 10
  · simp only [hlate, if_true]
    rw [if_neg (by omega), if_neg (by omega)]
    simp only [Nat.add_sub_cancel]
    omega
  · simp only [hlate, if_false]
    rw [if_pos (by omega), if_pos (by omega)]
    rw [Nat.sub_add_cancel (by omega)]
    simp only [Int.add_sub_cancel]
    omega

theorem isValid_ofDayNumber (n : Int) : (ofDayNumber n).isValid := by
  obtain ⟨year, k, h, hday, -⟩ := ofDayNumber_eq n
  rw [hday]
  exact isValid_fromMarch h

/-- The day with a number has that number. -/
theorem dayNumber_ofDayNumber (n : Int) : (ofDayNumber n).dayNumber = n := by
  obtain ⟨year, k, h, hday, hn⟩ := ofDayNumber_eq n
  rw [hday, dayNumber_fromMarch h.lt, hn]

end Provisioning.Calendar.Date

import Mathlib.Data.Int.Init
import Stockroom.Proofs.Calendar.Date

/-!
Counting days one by one. The day after a day is the next of its month, or the first of the next month
or year; the number of a day is how often that step is taken from 1970-01-01, forwards or backwards.

Main definitions and statements:
* `CalendarDate.next`, `CalendarDate.DaysAfter`: the day after a day, and so many days after;
* `CalendarDate.dayNumber_next`: the step of the day number;
* `CalendarDate.ofDayNumber_dayNumber`: a day is the one its number names;
* `CalendarDate.daysAfter_iff`: the days that counting reaches.
-/
namespace Stockroom
set_option autoImplicit false

namespace CalendarDate

/-- The day after a day. -/
def next (d : CalendarDate) : CalendarDate :=
  if d.day < daysOfMonth d.year d.month then { d with day := d.day + 1 }
  else if d.month < 12 then ⟨d.year, d.month + 1, 1⟩
  else ⟨d.year + 1, 1, 1⟩

/-- A day lies so many days after the start; days before it are counted below zero. -/
inductive DaysAfter (start : CalendarDate) : Int → CalendarDate → Prop where
  | zero : DaysAfter start 0 start
  | next {k : Int} {d : CalendarDate} : DaysAfter start k d → DaysAfter start (k + 1) d.next
  | previous {k : Int} {d : CalendarDate} :
      d.Exists → DaysAfter start (k + 1) d.next → DaysAfter start k d

/-! ## The step -/

theorem marchStart_succ (year : Int) :
    marchStart (year + 1) = marchStart year + if isLeapYear (year + 1) then 366 else 365 := by
  unfold marchStart
  split
  · next hleap =>
    simp only [isLeapYear, Bool.and_eq_true, Bool.or_eq_true, beq_iff_eq, bne_iff_ne] at hleap
    omega
  · next hplain =>
    simp only [isLeapYear, Bool.and_eq_true, Bool.or_eq_true, beq_iff_eq, bne_iff_ne] at hplain
    omega

/-- The number of a day by the start of its March year. -/
theorem dayNumber_eq (d : CalendarDate) :
    d.dayNumber = marchStart (if d.month ≤ 2 then d.year - 1 else d.year) +
      dayOfMarchYear d.month d.day - 719468 := by
  simp only [dayNumber, marchStart]
  generalize (if d.month ≤ 2 then d.year - 1 else d.year) = y
  omega

theorem daysOfMonth_le {year : Int} {month : Nat} (hlow : 1 ≤ month) (hhigh : month ≤ 12) :
    28 ≤ daysOfMonth year month := by
  have hcases : month = 1 ∨ month = 2 ∨ month = 3 ∨ month = 4 ∨ month = 5 ∨ month = 6 ∨
      month = 7 ∨ month = 8 ∨ month = 9 ∨ month = 10 ∨ month = 11 ∨ month = 12 := by omega
  obtain rfl | rfl | rfl | rfl | rfl | rfl | rfl | rfl | rfl | rfl | rfl | rfl := hcases <;>
    (simp only [daysOfMonth]; try split) <;> decide

/-- February apart, the first of the next month comes right after the last of a month. -/
theorem dayOfMarchYear_last (year : Int) {month : Nat} (hlow : 1 ≤ month) (hhigh : month ≤ 12)
    (hfeb : month ≠ 2) : dayOfMarchYear (if month < 12 then month + 1 else 1) 1 =
      dayOfMarchYear month (daysOfMonth year month) + 1 := by
  have hcases : month = 1 ∨ month = 3 ∨ month = 4 ∨ month = 5 ∨ month = 6 ∨ month = 7 ∨
      month = 8 ∨ month = 9 ∨ month = 10 ∨ month = 11 ∨ month = 12 := by omega
  obtain rfl | rfl | rfl | rfl | rfl | rfl | rfl | rfl | rfl | rfl | rfl := hcases <;> rfl

variable {d : CalendarDate}

theorem Exists.next (h : d.Exists) : d.next.Exists := by
  have hbounds := h.bounds
  have hfirst {year : Int} {month : Nat} (hlow : 1 ≤ month) (hhigh : month ≤ 12) :
      Exists ⟨year, month, 1⟩ :=
    ⟨Nat.le_refl 1, Nat.le_trans (by decide : 1 ≤ 28) (daysOfMonth_le hlow hhigh)⟩
  unfold CalendarDate.next
  split
  · next hmore => exact ⟨Nat.le_add_left 1 d.day, hmore⟩
  · split
    · next hmonth => exact hfirst (Nat.le_add_left 1 d.month) hmonth
    · exact hfirst (by decide) (by decide)

theorem dayNumber_next (h : d.Exists) : d.next.dayNumber = d.dayNumber + 1 := by
  have hbounds := h.bounds
  rw [dayNumber_eq d]
  unfold CalendarDate.next
  split
  · -- within a month
    rw [dayNumber_eq]
    simp only [dayOfMarchYear]
    omega
  next hend =>
  have hlast : d.day = daysOfMonth d.year d.month := Nat.le_antisymm h.2 (Nat.not_lt.mp hend)
  by_cases hfeb : d.month = 2
  · -- the end of February is that of a March year
    have hstart := marchStart_succ (d.year - 1)
    rw [Int.sub_add_cancel] at hstart
    have hdays : d.day = if isLeapYear d.year then 29 else 28 := by
      rw [hlast, hfeb]
      rfl
    rw [if_pos (by omega), dayNumber_eq, if_neg (by simp; omega), if_pos (by omega), hstart, hdays,
      hfeb]
    simp only [dayOfMarchYear]
    split <;> omega
  · have hmarch := dayOfMarchYear_last d.year hbounds.1 hbounds.2.1 hfeb
    rw [← hlast] at hmarch
    split
    · next hmonth =>
      rw [if_pos hmonth] at hmarch
      rw [dayNumber_eq, hmarch]
      have hyear : (if d.month + 1 ≤ 2 then d.year - 1 else d.year) =
          if d.month ≤ 2 then d.year - 1 else d.year := by
        split <;> split <;> omega
      dsimp only
      rw [hyear]
      omega
    · next hmonth =>
      rw [if_neg hmonth] at hmarch
      rw [dayNumber_eq, hmarch, if_pos (Nat.le_succ 1), if_neg (by omega), Int.add_sub_cancel]
      omega

/-! ## The day of a number -/

theorem Exists.marchDay (h : d.Exists) : ∃ year march, MarchDay d.dayNumber year march d.day ∧
    d = ⟨yearOfMarch year march, monthOfMarch march, d.day⟩ := by
  have hbounds := h.bounds
  obtain ⟨hpos, hlast⟩ := h
  have hnumber := dayNumber_eq d
  obtain ⟨year, month, day⟩ := d
  dsimp only at hbounds hpos hlast hnumber ⊢
  refine ⟨if month ≤ 2 then year - 1 else year, (month + 9) % 12, ⟨?number, by omega, hpos, ?within,
    ?last, ?leap⟩, ?date⟩
  case number =>
    rw [hnumber]
    simp only [marchStart, dayOfMarchYear]
    omega
  case within =>
    intro hmarch
    have hcases : month = 1 ∨ month = 3 ∨ month = 4 ∨ month = 5 ∨ month = 6 ∨ month = 7 ∨
        month = 8 ∨ month = 9 ∨ month = 10 ∨ month = 11 ∨ month = 12 := by omega
    obtain rfl | rfl | rfl | rfl | rfl | rfl | rfl | rfl | rfl | rfl | rfl := hcases <;>
      (simp only [daysOfMonth] at hlast; omega)
  case last =>
    intro hmarch
    obtain rfl : month = 2 := by omega
    simp only [daysOfMonth] at hlast
    split at hlast <;> omega
  case leap =>
    intro hmarch hday
    obtain rfl : month = 2 := by omega
    rw [if_pos (Nat.le_refl 2), Int.sub_add_cancel]
    simp only [daysOfMonth] at hlast
    split at hlast
    · assumption
    · omega
  case date =>
    have hmonth : monthOfMarch ((month + 9) % 12) = month := by
      unfold monthOfMarch
      split <;> omega
    have hyear : yearOfMarch (if month ≤ 2 then year - 1 else year) ((month + 9) % 12) = year := by
      unfold yearOfMarch
      split <;> split <;> omega
    rw [hmonth, hyear]

/-- A day number belongs to one day of one March year. -/
theorem MarchDay.unique {n year later : Int} {march march' day day' : Nat}
    (h : MarchDay n year march day) (h' : MarchDay n later march' day') :
    year = later ∧ march = march' ∧ day = day' := by
  have hyears {y z : Int} {m m' k k' : Nat} (h : MarchDay n y m k) (h' : MarchDay n z m' k') :
      y ≤ z := by
    refine Int.not_lt.mp fun hless => ?_
    have hstart : marchStart (z + 1) ≤ marchStart y := marchStart_mono hless
    have hfirst := h.start_le
    have hsecond := h'.lt_next
    omega
  obtain rfl := Int.le_antisymm (hyears h h') (hyears h' h)
  have hnumber := h.number
  have hnumber' := h'.number
  have hdays : (153 * march + 2) / 5 + day = (153 * march' + 2) / 5 + day' := by
    have hpos := h.day_pos
    have hpos' := h'.day_pos
    omega
  have hmarch : march = march' := by
    have hwithin := h.within
    have hwithin' := h'.within
    have hlt := h.march_lt
    have hlt' := h'.march_lt
    have hpos := h.day_pos
    have hpos' := h'.day_pos
    clear hnumber hnumber'
    omega
  exact ⟨rfl, hmarch, by omega⟩

/-- A day of the calendar is the one its number names. -/
theorem ofDayNumber_dayNumber (h : d.Exists) : ofDayNumber d.dayNumber = d := by
  obtain ⟨year, march, hday, hd⟩ := h.marchDay
  obtain ⟨year', march', day', hday', heq⟩ := ofDayNumber_march d.dayNumber
  obtain ⟨rfl, rfl, rfl⟩ := hday.unique hday'
  exact heq.trans hd.symm

theorem next_ofDayNumber (n : Int) : (ofDayNumber n).next = ofDayNumber (n + 1) := by
  have hnumber := dayNumber_next (ofDayNumber_exists n)
  rw [dayNumber_ofDayNumber] at hnumber
  rw [← hnumber, ofDayNumber_dayNumber (ofDayNumber_exists n).next]

/-! ## Counting -/

section
variable {start : CalendarDate} (hstart : start.Exists) {k : Int}
include hstart

/-- The count is the difference of the day numbers. -/
theorem DaysAfter.number (h : DaysAfter start k d) :
    d.Exists ∧ d.dayNumber = start.dayNumber + k := by
  induction h with
  | zero => exact ⟨hstart, (Int.add_zero _).symm⟩
  | next _ ih => exact ⟨ih.1.next, by rw [dayNumber_next ih.1, ih.2, Int.add_assoc]⟩
  | previous hexists _ ih =>
    rw [dayNumber_next hexists] at ih
    exact ⟨hexists, by omega⟩

theorem daysAfter_ofDayNumber : DaysAfter start k (ofDayNumber (start.dayNumber + k)) := by
  -- upwards by the day after, downwards because the day after the day sought was reached
  induction k with
  | zero =>
    rw [Int.add_zero, ofDayNumber_dayNumber hstart]
    exact .zero
  | succ i ih =>
    rw [← Int.add_assoc, ← next_ofDayNumber]
    exact ih.next
  | pred i ih =>
    refine .previous (ofDayNumber_exists _) ?_
    rw [next_ofDayNumber, Int.add_assoc, Int.sub_add_cancel]
    exact ih

/-- Counting reaches one day, the one with the number so much greater. -/
theorem daysAfter_iff : DaysAfter start k d ↔ d = ofDayNumber (start.dayNumber + k) := by
  constructor
  · intro h
    obtain ⟨hexists, hnumber⟩ := h.number hstart
    rw [← hnumber, ofDayNumber_dayNumber hexists]
  · rintro rfl
    exact daysAfter_ofDayNumber hstart

end

end CalendarDate
end Stockroom

import Stockroom.Proofs.Text.Numeral
import Stockroom.Calendar.Date

/-!
The calendar. Years counted from March have their leap day at the end, so a day number splits into
a March year, a month of it and a day without regard to leap years.

Main definitions and statements:
* `MarchDay`, `ofDayNumber_march`: the March year, the month and the day of a day number;
* `ofDayNumber_exists`, `dayNumber_ofDayNumber`: a day number names a day, and no other number does;
* `ofDayNumber_lt`: later days have greater dates;
* `iso_precedes`: the texts of dates are in the order of the dates.
-/
namespace Stockroom
set_option autoImplicit false

namespace CalendarDate

/-! ## Days of four centuries -/

/-- The century, the group of four years, the year and the day of a day of four centuries. -/
theorem split_era {days : Nat} (h : days < 146097) :
    ∃ k q s doy, k < 4 ∧ q < 25 ∧ s < 4 ∧ days = 36524 * k + 1461 * q + 365 * s + doy ∧
      doy ≤ 365 ∧ (doy = 365 → s = 3 ∧ (q < 24 ∨ k = 3)) := by
  by_cases hlast : days = 146096
  · exact ⟨3, 24, 3, 365, by omega, by omega, by omega, by omega, by omega, by omega⟩
  by_cases hleap : days % 36524 % 1461 = 1460
  · exact ⟨days / 36524, days % 36524 / 1461, 3, 365, by omega, by omega, by omega, by omega,
      by omega, by omega⟩
  · exact ⟨days / 36524, days % 36524 / 1461, days % 36524 % 1461 / 365,
      days % 36524 % 1461 % 365, by omega, by omega, by omega, by omega, by omega, by omega⟩

theorem yearOfEra_eq {k q s doy : Nat} (hk : k < 4) (hq : q < 25) (hs : s < 4) (hdoy : doy ≤ 365)
    (hleap : doy = 365 → s = 3 ∧ (q < 24 ∨ k = 3)) {days : Nat}
    (h : days = 36524 * k + 1461 * q + 365 * s + doy) :
    (days - days / 1460 + days / 36524 - days / 146096) / 365 = 100 * k + 4 * q + s := by
  have hfours : days / 1460 = 25 * k + q + (24 * k + q + 365 * s + doy) / 1460 := by omega
  by_cases hlast : doy = 365
  · obtain ⟨hs, hcentury⟩ := hleap hlast
    have hone : days / 1460 = 25 * k + q + 1 := by omega
    by_cases hend : q < 24
    · have hcenturies : days / 36524 = k := by omega
      have heras : days / 146096 = 0 := by omega
      rw [hone, hcenturies, heras]
      omega
    · have hdays : days = 146096 := by omega
      rw [hdays]
      omega
  · have hcenturies : days / 36524 = k := by omega
    have heras : days / 146096 = 0 := by omega
    rw [hfours, hcenturies, heras]
    omega

/-! ## March years -/

/-- A day number is that of a day in a month of a March year. -/
structure MarchDay (n year : Int) (march day : Nat) : Prop where
  number : n + 719468 =
    365 * year + year / 4 - year / 100 + year / 400 + ((153 * march + 2) / 5 + day - 1 : Nat)
  march_lt : march < 12
  day_pos : 1 ≤ day
  within : march < 11 → (153 * march + 2) / 5 + day - 1 < (153 * (march + 1) + 2) / 5
  last : march = 11 → day ≤ 29
  leap : march = 11 → day = 29 → isLeapYear (year + 1) = true

/-- The month of the year that a month of a March year is. -/
def monthOfMarch (march : Nat) : Nat := if march < 10 then march + 3 else march - 9

/-- The year in which a month of a March year lies. -/
def yearOfMarch (year : Int) (march : Nat) : Int := if march < 10 then year else year + 1

theorem marchDay_of_split {n era : Int} {k q s doy : Nat} (hk : k < 4) (hq : q < 25) (hs : s < 4)
    (hdoy : doy ≤ 365) (hleap : doy = 365 → s = 3 ∧ (q < 24 ∨ k = 3))
    (h : n + 719468 = era * 146097 + (36524 * k + 1461 * q + 365 * s + doy : Nat)) :
    MarchDay n (era * 400 + (100 * k + 4 * q + s : Nat)) ((5 * doy + 2) / 153)
      (doy - (153 * ((5 * doy + 2) / 153) + 2) / 5 + 1) := by
  have hfours : (era * 400 + (100 * k + 4 * q + s : Nat)) / 4 = era * 100 + 25 * k + q := by omega
  have hcenturies : (era * 400 + (100 * k + 4 * q + s : Nat)) / 100 = era * 4 + k := by omega
  have heras : (era * 400 + (100 * k + 4 * q + s : Nat)) / 400 = era := by omega
  have hofYear : (153 * ((5 * doy + 2) / 153) + 2) / 5 +
      (doy - (153 * ((5 * doy + 2) / 153) + 2) / 5 + 1) - 1 = doy := by omega
  refine ⟨?_, by omega, by omega, by omega, by omega, ?_⟩
  · rw [hfours, hcenturies, heras, hofYear, h]
    omega
  · intro hfeb hday
    obtain ⟨rfl, hcentury⟩ := hleap (by omega)
    simp only [isLeapYear, Bool.and_eq_true, Bool.or_eq_true, beq_iff_eq, bne_iff_ne]
    omega

theorem daysBefore_eq {k q s : Nat} (hq : q < 25) (hs : s < 4) :
    365 * (100 * k + 4 * q + s) + (100 * k + 4 * q + s) / 4 - (100 * k + 4 * q + s) / 100 =
      36524 * k + 1461 * q + 365 * s := by
  have hfours : (100 * k + 4 * q + s) / 4 = 25 * k + q := by omega
  have hcenturies : (100 * k + 4 * q + s) / 100 = k := by omega
  omega

theorem ofDayNumber_march (n : Int) :
    ∃ year march day, MarchDay n year march day ∧
      ofDayNumber n = ⟨yearOfMarch year march, monthOfMarch march, day⟩ := by
  have hera : ((n + 719468) % 146097).toNat < 146097 := by omega
  have hsplit : n + 719468 =
      (n + 719468) / 146097 * 146097 + ((n + 719468) % 146097).toNat := by omega
  obtain ⟨k, q, s, doy, hk, hq, hs, hdays, hdoy, hleap⟩ := split_era hera
  have hyear := yearOfEra_eq hk hq hs hdoy hleap hdays
  rw [hdays] at hsplit
  refine ⟨_, _, _, marchDay_of_split hk hq hs hdoy hleap hsplit, ?_⟩
  simp only [ofDayNumber, hyear, daysBefore_eq hq hs, yearOfMarch, monthOfMarch]
  rw [hdays, Nat.add_sub_cancel_left]
  by_cases hmarch : (5 * doy + 2) / 153 < 10
  · have hmonth : ¬ (5 * doy + 2) / 153 + 3 ≤ 2 := by omega
    rw [if_pos hmarch, if_pos hmarch, if_neg hmonth, Int.add_zero]
  · have hmonth : (5 * doy + 2) / 153 - 9 ≤ 2 := by
      clear hsplit hyear hdays
      omega
    rw [if_neg hmarch, if_neg hmarch, if_pos hmonth]

section
variable {n year : Int} {march day : Nat}

/-- A month of a March year has the days of its month. -/
theorem MarchDay.exists (h : MarchDay n year march day) :
    Exists ⟨yearOfMarch year march, monthOfMarch march, day⟩ := by
  obtain ⟨-, hmarch, hpos, hwithin, hlast, hleap⟩ := h
  refine ⟨hpos, ?_⟩
  show day ≤ daysOfMonth (yearOfMarch year march) (monthOfMarch march)
  by_cases hfeb : march = 11
  · subst hfeb
    have hday := hlast rfl
    have hmonth : daysOfMonth (yearOfMarch year 11) (monthOfMarch 11) =
        if isLeapYear (year + 1) then 29 else 28 := rfl
    rw [hmonth]
    by_cases hleapDay : day = 29
    · rw [if_pos (hleap rfl hleapDay)]
      exact hday
    · split <;> omega
  · have hbound := hwithin (by omega)
    have hcases : march = 0 ∨ march = 1 ∨ march = 2 ∨ march = 3 ∨ march = 4 ∨ march = 5 ∨
        march = 6 ∨ march = 7 ∨ march = 8 ∨ march = 9 ∨ march = 10 := by omega
    obtain rfl | rfl | rfl | rfl | rfl | rfl | rfl | rfl | rfl | rfl | rfl := hcases <;>
      (simp only [monthOfMarch, daysOfMonth]; simp at hbound ⊢; omega)

theorem MarchDay.dayNumber_eq (h : MarchDay n year march day) :
    dayNumber ⟨yearOfMarch year march, monthOfMarch march, day⟩ = n := by
  obtain ⟨hnumber, hmarch, hpos, -, -, -⟩ := h
  have hyear : (if monthOfMarch march ≤ 2 then yearOfMarch year march - 1
      else yearOfMarch year march) = year := by
    unfold monthOfMarch yearOfMarch
    split <;> split <;> omega
  have hmonth : (monthOfMarch march + 9) % 12 = march := by
    unfold monthOfMarch
    split <;> omega
  simp only [dayNumber, hyear, dayOfMarchYear, hmonth]
  omega

end

/-- Every day number names a day of the calendar. -/
theorem ofDayNumber_exists (n : Int) : (ofDayNumber n).Exists := by
  obtain ⟨year, march, day, h, heq⟩ := ofDayNumber_march n
  rw [heq]
  exact h.exists

/-- The number of the day that a number names. -/
theorem dayNumber_ofDayNumber (n : Int) : (ofDayNumber n).dayNumber = n := by
  obtain ⟨year, march, day, h, heq⟩ := ofDayNumber_march n
  rw [heq]
  exact h.dayNumber_eq

/-- What is written of a day fits: there are twelve months of at most thirty-one days. -/
theorem Exists.bounds {d : CalendarDate} (h : d.Exists) :
    1 ≤ d.month ∧ d.month ≤ 12 ∧ 1 ≤ d.day ∧ d.day ≤ 31 := by
  obtain ⟨hpos, hday⟩ := h
  unfold daysOfMonth at hday
  split at hday <;> (try split at hday) <;> omega

/-! ## Order -/

/-- Years first, then months, then days. -/
def Earlier (d e : CalendarDate) : Prop :=
  d.year < e.year ∨ d.year = e.year ∧ (d.month < e.month ∨ d.month = e.month ∧ d.day < e.day)

/-- The first day of a March year, counted from the year zero. -/
def marchStart (year : Int) : Int := 365 * year + year / 4 - year / 100 + year / 400

theorem marchStart_mono {year later : Int} (h : year ≤ later) :
    marchStart year ≤ marchStart later := by
  unfold marchStart
  omega

section
variable {m n year later : Int} {march march' day day' : Nat}

theorem MarchDay.start_le (h : MarchDay n year march day) : marchStart year ≤ n + 719468 := by
  have hnumber := h.number
  unfold marchStart
  omega

theorem MarchDay.lt_next (h : MarchDay n year march day) :
    n + 719468 < marchStart (year + 1) := by
  obtain ⟨hnumber, hmarch, hpos, hwithin, hlast, hleap⟩ := h
  have hstep : marchStart year + 365 ≤ marchStart (year + 1) := by
    unfold marchStart
    omega
  have hnumber : n + 719468 = marchStart year + ((153 * march + 2) / 5 + day - 1 : Nat) := hnumber
  by_cases hleapDay : march = 11 ∧ day = 29
  · have hyear := hleap hleapDay.1 hleapDay.2
    simp only [isLeapYear, Bool.and_eq_true, Bool.or_eq_true, beq_iff_eq, bne_iff_ne] at hyear
    have hlong : marchStart year + 366 ≤ marchStart (year + 1) := by
      unfold marchStart
      omega
    omega
  · have hdays : (153 * march + 2) / 5 + day - 1 < 365 := by omega
    omega

theorem MarchDay.earlier (hm : MarchDay m year march day) (hn : MarchDay n later march' day')
    (h : m < n) :
    Earlier ⟨yearOfMarch year march, monthOfMarch march, day⟩
      ⟨yearOfMarch later march', monthOfMarch march', day'⟩ := by
  have hyears : year ≤ later := by
    refine Int.not_lt.mp fun hless => ?_
    have hstart : marchStart (later + 1) ≤ marchStart year := marchStart_mono (by omega)
    have hfirst := hm.start_le
    have hsecond := hn.lt_next
    omega
  have hmarch := hm.march_lt
  have hmarch' := hn.march_lt
  simp only [Earlier, yearOfMarch, monthOfMarch]
  by_cases hsame : year = later
  · subst hsame
    have hnumber := hm.number
    have hnumber' := hn.number
    have hwithin := hn.within
    have hpos := hm.day_pos
    have hpos' := hn.day_pos
    have hdays : (153 * march + 2) / 5 + day < (153 * march' + 2) / 5 + day' := by omega
    clear hnumber hnumber'
    have hmonths : march ≤ march' := by omega
    split <;> split <;> omega
  · split <;> split <;> omega

end

/-- Later days have greater dates. -/
theorem ofDayNumber_earlier {m n : Int} (h : m < n) : Earlier (ofDayNumber m) (ofDayNumber n) := by
  obtain ⟨year, march, day, hm, hmeq⟩ := ofDayNumber_march m
  obtain ⟨later, march', day', hn, hneq⟩ := ofDayNumber_march n
  rw [hmeq, hneq]
  exact hm.earlier hn h

/-- The days of years of four digits: from the first day of the year zero to the last of 9999. -/
theorem year_of_ofDayNumber {n : Int} (hlow : -719528 ≤ n) (hhigh : n < 2932897) :
    0 ≤ (ofDayNumber n).year ∧ (ofDayNumber n).year < 10000 := by
  have hfirst : (ofDayNumber (-719528)).year = 0 := by decide
  have hlast : (ofDayNumber 2932896).year = 9999 := by decide
  constructor
  · by_cases hsame : n = -719528
    · rw [hsame]
      omega
    · have hearlier := ofDayNumber_earlier (m := -719528) (n := n) (by omega)
      unfold Earlier at hearlier
      omega
  · by_cases hsame : n = 2932896
    · rw [hsame, hlast]
      omega
    · have hearlier := ofDayNumber_earlier (m := n) (n := 2932896) (by omega)
      unfold Earlier at hearlier
      omega

/-- Before the year zero a date has a negative year. -/
theorem year_neg_of_ofDayNumber {n : Int} (h : n < -719528) : (ofDayNumber n).year < 0 := by
  have hfirst : ofDayNumber (-719528) = ⟨0, 1, 1⟩ := by decide
  have hearlier := ofDayNumber_earlier h
  have hbounds := (ofDayNumber_exists n).bounds
  rw [hfirst] at hearlier
  unfold Earlier at hearlier
  simp only at hearlier
  omega

/-! ## Texts -/

theorem iso_eq {d : CalendarDate} (hd : d.Exists) (hlow : 0 ≤ d.year) (hhigh : d.year < 10000) :
    d.iso = Text.ofChars (fixedDigits 4 d.year.toNat ++ (['-'] ++ (fixedDigits 2 d.month ++
      (['-'] ++ fixedDigits 2 d.day)))) := by
  have hbounds := hd.bounds
  have hyear : d.year.natAbs = d.year.toNat := by omega
  rw [iso, yearText, if_neg (by omega), hyear, padded_eq (by omega) (by omega),
    padded_eq (by omega) (by omega), padded_eq (by omega) (by omega)]
  simp [Text.ofChars]

/-- Texts of dates are in the order of the dates. -/
theorem iso_precedes {d e : CalendarDate} (hd : d.Exists) (he : e.Exists) (hlow : 0 ≤ d.year)
    (hhigh : e.year < 10000) (h : Earlier d e) : Precedes d.iso.bytes e.iso.bytes := by
  have hdbounds := hd.bounds
  have hebounds := he.bounds
  have hyears : d.year ≤ e.year := by
    unfold Earlier at h
    omega
  rw [iso_eq hd hlow (by omega), iso_eq he (by omega) hhigh]
  simp only [Text.ofChars_append, Text.bytes_append]
  obtain hyear | ⟨hyear, hmonth | ⟨hmonth, hday⟩⟩ := h
  · exact (precedes_fixedDigits (by omega) (by omega)).append _ _
  · rw [hyear]
    exact (((precedes_fixedDigits (by omega) hmonth).append _ _).prepend _).prepend _
  · rw [hyear, hmonth]
    exact ((((precedes_fixedDigits (by omega) hday).prepend _).prepend _).prepend _).prepend _

end CalendarDate
end Stockroom

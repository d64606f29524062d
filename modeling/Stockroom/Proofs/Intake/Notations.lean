import Stockroom.Proofs.Calendar.Instant
import Stockroom.Proofs.Calendar.Successor
import Stockroom.Proofs.Intake.Settled
import Stockroom.Proofs.Number.Literal
import Stockroom.Proofs.Number.Whole

/-!
The notations of a date: the day number of a spreadsheet, year, month and day with hyphens, and the day
first with a slash, a point or a hyphen between its parts. A day of the calendar gives the same text in
each of them, and a date with the day first that names no day gives none.

Main definitions and statements:
* `DayFirst`: a written date with the day first;
* `dateOfSerial_whole`: the date of a whole day number;
* `dateText_dayFirst`: the date of a text with the day first;
* `dateText_notations`: the notations agree.
-/
namespace Stockroom
set_option autoImplicit false

/-! ## Day numbers -/

/-- The clock shows the day of a midnight. -/
theorem dayOfSeconds_midnight {k : Int} (hk : k.natAbs < 2 ^ 32) :
    dayOfSeconds (k * secondsPerDay) = k := by
  simp only [dayOfSeconds, clockOrigin, secondsPerDay]
  omega

/-- No fraction of a whole day number is lost on the way through the seconds. -/
theorem serialSeconds_whole {v : Binary64} {n : Int} (hv : v.value = n) (hn : n.natAbs < 2 ^ 32) :
    serialSeconds v = (n - epochSerial) * secondsPerDay := by
  have hepoch : epochSerial = 25569 := rfl
  have hday : secondsPerDay = 86400 := rfl
  obtain ⟨x, hsub, hx⟩ := Binary64.subInt_whole hv (i := epochSerial) (by omega)
  obtain ⟨y, hmul, hy⟩ := Binary64.mulInt_whole hx (i := secondsPerDay) (by rw [hday]; omega)
  have hfits : fitsInt64 ((n - epochSerial) * secondsPerDay) = true := by
    simp only [fitsInt64, minInt64, maxInt64, hepoch, hday, Bool.and_eq_true, decide_eq_true_eq]
    omega
  rw [serialSeconds, hsub, Option.bind_some, hmul]
  dsimp only
  rw [Binary64.roundHalfAway_whole hy, if_pos hfits]

/-- A positive whole day number names the day with its distance from that of 1970-01-01. -/
theorem dateOfSerial_whole {v : Binary64} {n : Int} (hv : v.value = n) (hpos : 0 < n)
    (hn : n.natAbs < 2 ^ 32) :
    dateOfSerial v = (CalendarDate.ofDayNumber (n - epochSerial)).iso := by
  have hpositive : v.isPositive = true := by
    rw [Binary64.isPositive_iff, hv]
    exact_mod_cast hpos
  have hepoch : epochSerial = 25569 := rfl
  rw [dateOfSerial, if_pos hpositive, serialSeconds_whole hv hn, dayOfSeconds_midnight (by omega)]

/-! ## The day first -/

theorem digitsValueFrom_digitChars (sofar : Nat) (ds : List (Fin 10)) :
    digitsValueFrom sofar (digitChars ds) = some (digitsNumberFrom sofar ds) := by
  induction ds generalizing sofar with
  | nil => rfl
  | cons d ds ih =>
    have hcons : digitChars (d :: ds) = digitChar d :: digitChars ds := rfl
    rw [hcons, digitsValueFrom, digitValue_eq]
    exact ih _

theorem digitsValue_digitChars {ds : List (Fin 10)} (h : ds ≠ []) :
    digitsValue (digitChars ds) = some (digitsNumber ds) := by
  cases ds with
  | nil => exact absurd rfl h
  | cons d ds => exact digitsValueFrom_digitChars 0 (d :: ds)

theorem isDigitChar_digitChars {ds : List (Fin 10)} : ∀ c ∈ digitChars ds, isDigitChar c = true := by
  intro c hc
  obtain ⟨d, -, rfl⟩ := List.mem_map.mp hc
  rw [isDigitChar, digitValue_eq]
  rfl

/-- What may stand between the parts of a date with the day first. -/
def dateSeparators : List Char := ['/', '.', '-']

theorem mem_dateSeparators {c : Char} : c ∈ dateSeparators ↔ c = '/' ∨ c = '.' ∨ c = '-' := by
  simp [dateSeparators]

/-- A date with the day first: a day and a month of one or two digits, a year of two or four. -/
structure DayFirst where
  day : List (Fin 10)
  month : List (Fin 10)
  year : List (Fin 10)
  first : Char
  second : Char
  day_length : day.length = 1 ∨ day.length = 2
  month_length : month.length = 1 ∨ month.length = 2
  year_length : year.length = 2 ∨ year.length = 4
  first_mem : first ∈ dateSeparators
  second_mem : second ∈ dateSeparators

namespace DayFirst

variable (w : DayFirst)

def chars : List Char :=
  digitChars w.day ++ w.first :: (digitChars w.month ++ w.second :: digitChars w.year)

def text : Text := Text.ofChars w.chars

/-- A year of two digits is one of this century. -/
def yearNumber : Nat :=
  if w.year.length = 2 then 2000 + digitsNumber w.year else digitsNumber w.year

/-- The date that is meant; it may name no day of the calendar. -/
def date : CalendarDate := ⟨w.yearNumber, digitsNumber w.month, digitsNumber w.day⟩

end DayFirst

theorem takeDayPart_digits {ds : List (Fin 10)} (hds : ds.length = 1 ∨ ds.length = 2) {c : Char}
    (hc : c ∈ dateSeparators) (rest : List Char) :
    takeDayPart (digitChars ds ++ c :: rest) = some (digitsNumber ds, rest) := by
  have hplain : isDigitChar c = false := by
    obtain rfl | rfl | rfl := mem_dateSeparators.mp hc <;> decide
  have hseparates : (c == '/' || c == '.' || c == '-') = true := by
    simpa [or_assoc] using mem_dateSeparators.mp hc
  have htake : (digitChars ds ++ c :: rest).takeWhile isDigitChar = digitChars ds := by
    rw [List.takeWhile_append_of_pos isDigitChar_digitChars,
      List.takeWhile_cons_of_neg (by simp [hplain]), List.append_nil]
  have hdrop : (digitChars ds ++ c :: rest).dropWhile isDigitChar = c :: rest := by
    rw [List.dropWhile_append_of_pos isDigitChar_digitChars,
      List.dropWhile_cons_of_neg (by simp [hplain])]
  have hlength : (digitChars ds).length ≤ 2 := by
    rw [digitChars, List.length_map]
    omega
  have hvalue : digitsValue (digitChars ds) = some (digitsNumber ds) :=
    digitsValue_digitChars fun hnil => by simp [hnil] at hds
  rw [takeDayPart, hdrop, htake]
  dsimp only
  rw [hseparates, decide_eq_true hlength, hvalue]
  rfl

namespace DayFirst

variable (w : DayFirst)

theorem readYear_digits : readYear (digitChars w.year) = some w.yearNumber := by
  have hvalue : digitsValue (digitChars w.year) = some (digitsNumber w.year) :=
    digitsValue_digitChars fun hnil => by simpa [hnil] using w.year_length
  have hlength : (digitChars w.year).length = w.year.length := List.length_map _
  rw [readYear, hvalue, hlength, yearNumber]
  obtain hyear | hyear := w.year_length
  · rw [if_pos hyear, if_pos hyear]
    rfl
  · rw [if_neg (by omega), if_pos hyear, if_neg (by omega)]

theorem readDayFirst_chars : readDayFirst w.chars = some w.date := by
  rw [readDayFirst, chars, takeDayPart_digits w.day_length w.first_mem]
  simp only [Option.bind_eq_bind, Option.bind_some]
  rw [takeDayPart_digits w.month_length w.second_mem]
  simp only [Option.bind_some]
  rw [readYear_digits]
  rfl

/-! ### What it is not -/

theorem mem_chars {c : Char} (h : c ∈ w.chars) : isDigitChar c = true ∨ c ∈ dateSeparators := by
  simp only [chars, List.mem_append, List.mem_cons] at h
  obtain h | rfl | h | rfl | h := h
  · exact .inl (isDigitChar_digitChars c h)
  · exact .inr w.first_mem
  · exact .inl (isDigitChar_digitChars c h)
  · exact .inr w.second_mem
  · exact .inl (isDigitChar_digitChars c h)

theorem chars_ne {c d : Char} (h : c ∈ w.chars) (hdigit : isDigitChar d = false)
    (hseparator : d ∉ dateSeparators) : c ≠ d := by
  rintro rfl
  obtain h | h := w.mem_chars h
  · rw [h] at hdigit
    cases hdigit
  · exact hseparator h

/-- The fifth character of a text as long as an ISO date is a digit. -/
theorem hasIsoShape_chars : hasIsoShape w.chars = false := by
  refine Bool.eq_false_iff.mpr fun h => ?_
  simp only [hasIsoShape, Bool.and_eq_true, beq_iff_eq] at h
  obtain ⟨⟨⟨hlength, hfifth⟩, -⟩, -⟩ := h
  have hparts : w.chars.length = w.day.length + (w.month.length + (w.year.length + 1) + 1) := by
    simp [chars, digitChars]
  have hlengths := And.intro w.day_length (And.intro w.month_length w.year_length)
  obtain ⟨a, b, hday⟩ := List.length_eq_two.mp (show w.day.length = 2 by omega)
  obtain ⟨c, d, hmonth⟩ := List.length_eq_two.mp (show w.month.length = 2 by omega)
  rw [chars, hday, hmonth] at hfifth
  have hhyphen : digitChar d = '-' := Option.some.inj hfifth
  exact digitChar_plain d (by rw [hhyphen]; decide)

/-- A separator ends a mantissa, unless it is the first point. -/
theorem readMantissa_separator {m : Mantissa} {c : Char} (hc : c ∈ dateSeparators)
    (hpoint : c = '.' → m.sawPoint = true) (rest : List Char) :
    readMantissa false m (c :: rest) = (m, c :: rest) := by
  obtain rfl | rfl | rfl := mem_dateSeparators.mp hc
  · rfl
  · rw [readMantissa, if_neg (by decide), if_pos (by decide), if_pos (hpoint rfl)]
  · rfl

/-- The mantissa ends at the second separator at the latest. -/
theorem readMantissa_chars : ∃ m c rest, c ∈ dateSeparators ∧
    readMantissa false {} w.chars = (m, c :: rest) := by
  by_cases hpoint : w.first = '.'
  · have hsecond : ∃ m, readMantissa false {} w.chars = (m, w.second :: digitChars w.year) := by
      rw [chars, hpoint, readMantissa_digits, readMantissa, if_neg (by decide), if_pos (by decide),
        if_neg Bool.false_ne_true, readMantissa_digits]
      exact ⟨_, readMantissa_separator w.second_mem (fun _ => rfl) _⟩
    obtain ⟨m, hm⟩ := hsecond
    exact ⟨m, _, _, w.second_mem, hm⟩
  · have hfirst : ∃ m, readMantissa false {} w.chars =
        (m, w.first :: (digitChars w.month ++ w.second :: digitChars w.year)) := by
      rw [chars, readMantissa_digits]
      exact ⟨_, readMantissa_separator w.first_mem (fun h => absurd h hpoint) _⟩
    obtain ⟨m, hm⟩ := hfirst
    exact ⟨m, _, _, w.first_mem, hm⟩

theorem readDouble_chars : readDouble w.chars = none := by
  obtain ⟨d, ds, hday⟩ : ∃ d ds, w.day = d :: ds :=
    List.exists_cons_of_ne_nil fun hnil => by simpa [hnil] using w.day_length
  have hhead : w.chars.head? = some (digitChar d) := by
    rw [chars, hday]
    rfl
  have hsign {c : Char} (hc : c ∈ ['_', '.', 'x', 'X', '+', '-']) : w.chars.head? ≠ some c := by
    rw [hhead]
    exact fun h => digitChar_plain d (Option.some.inj h ▸ hc)
  have hmark {c : Char} (hdigit : isDigitChar c = false) (hseparator : c ∉ dateSeparators) :
      w.chars[1]? ≠ some c :=
    fun h => w.chars_ne (List.mem_of_getElem? h) hdigit hseparator rfl
  obtain ⟨m, c, rest, hc, hread⟩ := w.readMantissa_chars
  have hpower : c ≠ 'e' ∧ c ≠ 'E' := by
    obtain rfl | rfl | rfl := mem_dateSeparators.mp hc <;> decide
  exact readDouble_eq_none ⟨hsign (by decide), hsign (by decide)⟩
    ⟨hmark (by decide) (by decide), hmark (by decide) (by decide)⟩ hread hpower

theorem trim_text : w.text.trim = w.text := by
  refine Text.trim_eq_self fun g hg => ?_
  obtain ⟨c, hc, rfl⟩ := List.mem_map.mp hg
  obtain hdigit | hseparator := w.mem_chars hc
  · exact isDigitChar_unspaced hdigit
  · obtain rfl | rfl | rfl := mem_dateSeparators.mp hseparator <;> decide

end DayFirst

/-- A date with the day first is read as such, and what names no day becomes nothing. -/
theorem dateText_dayFirst (w : DayFirst) (hday : w.date.day ≤ 31) :
    dateText (Cell.ofText w.text) = if w.date.Exists then w.date.iso else [] := by
  have hchars : w.text.toChars = w.chars := Text.toChars_ofChars _
  have hnumber : (Cell.ofText w.text).number = none := by
    rw [Cell.ofText, w.trim_text, hchars]
    exact w.readDouble_chars
  have htext : (Cell.ofText w.text).text.trim = w.text := w.trim_text
  rw [dateText, hnumber]
  dsimp only
  rw [htext, dateOfText, hchars, if_neg (by simp [w.hasIsoShape_chars]), w.readDayFirst_chars]
  exact if_pos hday

/-! ## All notations -/

/-- From 1899-12-31 to 9999-12-31, the day number of a day, its ISO text and its texts with the day first
and a year of four digits have the same date, that of the day which counting from 1970-01-01 reaches.
Texts with the day first that name no day have none. -/
theorem dateText_notations :
    (∀ n : Int, 1 ≤ n → n ≤ 2958465 → ∃ date : CalendarDate,
      (∀ d, CalendarDate.DaysAfter ⟨1970, 1, 1⟩ (n - epochSerial) d ↔ d = date) ∧
      (∀ c v, Cell.number c = some v → v.value = n → dateText c = date.iso) ∧
      dateText (Cell.ofText date.iso) = date.iso ∧
      ∀ w : DayFirst, w.year.length = 4 → w.date = date →
        dateText (Cell.ofText w.text) = date.iso) ∧
    ∀ w : DayFirst, w.date.day ≤ 31 → ¬ w.date.Exists → dateText (Cell.ofText w.text) = [] := by
  constructor
  · intro n hlow hhigh
    have hepoch : epochSerial = 25569 := rfl
    have hexists := CalendarDate.ofDayNumber_exists (n - epochSerial)
    obtain ⟨hfirst, hlast⟩ :=
      CalendarDate.year_of_ofDayNumber (n := n - epochSerial) (by omega) (by omega)
    refine ⟨CalendarDate.ofDayNumber (n - epochSerial), fun d => ?counted, fun c v hc hv => ?serial,
      dateText_settled (CalendarDate.isIsoDate_iso hexists hfirst hlast), fun w _ hdate => ?dayFirst⟩
    case counted =>
      have hzero : CalendarDate.dayNumber ⟨1970, 1, 1⟩ = 0 := by decide
      rw [CalendarDate.daysAfter_iff (by decide), hzero, Int.zero_add]
    case serial =>
      rw [dateText, hc]
      exact dateOfSerial_whole hv (by omega) (by omega)
    case dayFirst =>
      rw [← hdate] at hexists
      rw [dateText_dayFirst w hexists.bounds.2.2.2, if_pos hexists, hdate]
  · intro w hday hnone
    rw [dateText_dayFirst w hday, if_neg hnone]

/-- The last day of a February in every notation, and the day after it, which there is not. -/
theorem leapDay_agreed :
    dateText (Cell.ofText "45351") = Text.ofString "2024-02-29" ∧
      dateText (Cell.ofText "2024-02-29") = Text.ofString "2024-02-29" ∧
      dateText (Cell.ofText "29/2.2024") = Text.ofString "2024-02-29" ∧
      dateText (Cell.ofText "30-02-24") = [] := by
  obtain ⟨date, hcounted, hserial, hiso, hdayFirst⟩ :=
    dateText_notations.1 45351 (by decide) (by decide)
  obtain rfl : ⟨2024, 2, 29⟩ = date :=
    (hcounted ⟨2024, 2, 29⟩).mp ((CalendarDate.daysAfter_iff (by decide)).mpr (by decide))
  have hdate : CalendarDate.iso ⟨2024, 2, 29⟩ = Text.ofString "2024-02-29" := by decide
  rw [hdate] at hserial hiso hdayFirst
  have hnumber := hserial (Cell.ofText "45351") ⟨false, 45351 * 2 ^ 37, -37⟩ (by decide +kernel)
    (by norm_num [Binary64.value])
  obtain ⟨leapDay, htext, hyear, hnamed⟩ : ∃ w : DayFirst, w.text = Text.ofString "29/2.2024" ∧
      w.year.length = 4 ∧ w.date = ⟨2024, 2, 29⟩ :=
    ⟨⟨[2, 9], [2], [2, 0, 2, 4], '/', '.', .inr rfl, .inl rfl, .inr rfl, by decide, by decide⟩,
      by decide, rfl, by decide⟩
  obtain ⟨noDay, htext', hday, hnone⟩ : ∃ w : DayFirst, w.text = Text.ofString "30-02-24" ∧
      w.date.day ≤ 31 ∧ ¬ w.date.Exists :=
    ⟨⟨[3, 0], [0, 2], [2, 4], '-', '-', .inr rfl, .inr rfl, .inl rfl, by decide, by decide⟩,
      by decide, by decide, by decide⟩
  have hfirst := hdayFirst leapDay hyear hnamed
  have hnothing := dateText_notations.2 noDay hday hnone
  rw [htext] at hfirst
  rw [htext'] at hnothing
  exact ⟨hnumber, hiso, hfirst, hnothing⟩

end Stockroom

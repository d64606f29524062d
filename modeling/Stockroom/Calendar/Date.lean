import Stockroom.Text.Basic

/-!
The Gregorian calendar, extended to all years, with days counted from 1970-01-01.

Main definitions:
* `CalendarDate`, `CalendarDate.Exists`: a day of the calendar, and whether there is one;
* `CalendarDate.dayNumber`, `CalendarDate.ofDayNumber`: days counted from 1970-01-01;
* `CalendarDate.iso`: year, month and day with hyphens between them.
-/
namespace Stockroom
set_option autoImplicit false

/-- A year, a month counted from one and a day of the month. -/
structure CalendarDate where
  year : Int
  month : Nat
  day : Nat
  deriving DecidableEq, Repr, Inhabited

/-- Every fourth year, but no century unless it is a fourth one. -/
def isLeapYear (year : Int) : Bool :=
  year % 4 == 0 && (year % 100 != 0 || year % 400 == 0)

/-- The number of days of a month; none for a number that is no month. -/
def daysOfMonth (year : Int) (month : Nat) : Nat :=
  match month with
  | 1 | 3 | 5 | 7 | 8 | 10 | 12 => 31
  | 4 | 6 | 9 | 11 => 30
  | 2 => if isLeapYear year then 29 else 28
  | _ => 0

namespace CalendarDate

/-- Whether the calendar has this day. -/
def Exists (d : CalendarDate) : Prop := 1 ≤ d.day ∧ d.day ≤ daysOfMonth d.year d.month

instance (d : CalendarDate) : Decidable d.Exists := inferInstanceAs (Decidable (_ ∧ _))

/-! ## Counting days

Years are counted from March here, so that the leap day is the last day of a year. -/

/-- The number of the day within its year, the first of March being zero. -/
def dayOfMarchYear (month day : Nat) : Nat :=
  (153 * ((month + 9) % 12) + 2) / 5 + day - 1

/-- Days from 1970-01-01 to the day. -/
def dayNumber (d : CalendarDate) : Int :=
  let y := if d.month ≤ 2 then d.year - 1 else d.year
  let era := y / 400
  let ofEra := (y % 400).toNat
  let days := ofEra * 365 + ofEra / 4 - ofEra / 100 + dayOfMarchYear d.month d.day
  era * 146097 + days - 719468

/-- The day that many days after 1970-01-01. -/
def ofDayNumber (n : Int) : CalendarDate :=
  let z := n + 719468
  let era := z / 146097
  let ofEra := (z % 146097).toNat
  let year := (ofEra - ofEra / 1460 + ofEra / 36524 - ofEra / 146096) / 365
  let ofYear := ofEra - (365 * year + year / 4 - year / 100)
  let march := (5 * ofYear + 2) / 153
  let day := ofYear - (153 * march + 2) / 5 + 1
  let month := if march < 10 then march + 3 else march - 9
  ⟨era * 400 + year + (if month ≤ 2 then 1 else 0), month, day⟩

/-! ## Writing -/

/-- A year of at least four digits. -/
def yearText (year : Int) : Text :=
  if year < 0 then .char '-' :: Text.padded 4 year.natAbs else Text.padded 4 year.natAbs

/-- The day as year, month and day with hyphens between them. -/
def iso (d : CalendarDate) : Text :=
  yearText d.year ++ [.char '-'] ++ Text.padded 2 d.month ++ [.char '-'] ++ Text.padded 2 d.day

end CalendarDate
end Stockroom

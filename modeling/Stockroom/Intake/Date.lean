import Stockroom.Calendar.Layout
import Stockroom.Sheet.Cell

/-!
Dates in cells. A number counts days, 25569 being the first of 1970; a text may be an ISO date, a
date with the day first, or one of a few other notations. What is no date becomes an empty text.

Main definitions: `dateOfSerial`, `readDayFirst`, `acceptedLayouts`, `dateText`.
-/
namespace Stockroom
set_option autoImplicit false

/-! ## Day numbers of spreadsheets -/

/-- The day number of 1970-01-01. -/
def epochSerial : Int := 25569

def secondsPerDay : Int := 86400

/-- Days from the start of the clock, in the far past, to 1970-01-01. -/
def clockOrigin : Int := 719162 + 292277022400 / 400 * 146097 + 306

/-- The day a clock of sixty-four bits shows that many seconds after the start of 1970. -/
def dayOfSeconds (seconds : Int) : Int :=
  (seconds + clockOrigin * secondsPerDay) % 18446744073709551616 / secondsPerDay - clockOrigin

/-- Seconds from the start of 1970 to a day number, rounded; a count too large for sixty-four bits
becomes the least one. -/
def serialSeconds (v : Binary64) : Int :=
  match (v.subInt epochSerial).bind (·.mulInt secondsPerDay) with
  | some x => if fitsInt64 x.roundHalfAway then x.roundHalfAway else minInt64
  | none => minInt64

/-- The date of a positive day number. -/
def dateOfSerial (v : Binary64) : Text :=
  if v.isPositive then (CalendarDate.ofDayNumber (dayOfSeconds (serialSeconds v))).iso else []

/-! ## Notations -/

def isDigitChar (c : Char) : Bool := (digitValue c).isSome

/-- Whether a text has the shape of an ISO date; the day need not exist. -/
def hasIsoShape (cs : List Char) : Bool :=
  cs.length == 10 && cs[4]? == some '-' && cs[7]? == some '-' &&
    (cs.take 4 ++ (cs.drop 5).take 2 ++ cs.drop 8).all isDigitChar

/-- One or two digits and a separator. -/
def takeDayPart (cs : List Char) : Option (Nat × List Char) :=
  let digits := cs.takeWhile isDigitChar
  match cs.dropWhile isDigitChar with
  | c :: rest =>
    if (c == '/' || c == '.' || c == '-') && digits.length ≤ 2 then
      (digitsValue digits).map fun n => (n, rest)
    else none
  | [] => none

/-- A year of four digits, or of two digits in this century. -/
def readYear (cs : List Char) : Option Nat :=
  if cs.length = 2 then (digitsValue cs).map (2000 + ·)
  else if cs.length = 4 then digitsValue cs
  else none

/-- A date with the day first and a slash, a point or a hyphen between its parts. -/
def readDayFirst (cs : List Char) : Option CalendarDate := do
  let (day, cs) ← takeDayPart cs
  let (month, cs) ← takeDayPart cs
  let year ← readYear cs
  return ⟨year, month, day⟩

/-- The other notations, in the order in which they are tried. -/
def acceptedLayouts : List (List LayoutPart) :=
  [stampLayout,
    isoLayout ++ [.literal 'T'] ++ timeParts,
    isoLayout ++ [.literal ' '] ++ timeParts,
    dayParts '/',
    [.shortDay, .literal ' ', .monthAbbreviation, .literal ' ', .year],
    [.shortDay, .literal ' ', .monthName, .literal ' ', .year],
    [.monthAbbreviation, .literal ' ', .shortDay, .literal ',', .literal ' ', .year],
    [.monthName, .literal ' ', .shortDay, .literal ',', .literal ' ', .year]]

/-- The date of the first notation that fits. -/
def readByLayout (cs : List Char) : Text :=
  match acceptedLayouts.findSome? fun layout => readLayout layout cs with
  | some r => r.date.iso
  | none => []

/-- The date of a text without space around it. -/
def dateOfText (t : Text) : Text :=
  if hasIsoShape t.toChars then t
  else match readDayFirst t.toChars with
    | some d =>
      if d.day ≤ 31 then (if d.Exists then d.iso else []) else readByLayout t.toChars
    | none => readByLayout t.toChars

/-- The date of a cell. -/
def dateText (c : Cell) : Text :=
  match c.number with
  | some v => dateOfSerial v
  | none => dateOfText c.text.trim

end Stockroom

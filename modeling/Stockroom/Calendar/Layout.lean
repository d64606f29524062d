import Stockroom.Calendar.Date
import Stockroom.Text.Numeral

/-!
Reading dates and times by a layout: a list of parts, each of which takes its own characters from
the front of the text. A space in a layout stands for any number of spaces, names of months are read
whatever their case, and seconds may carry a fraction that the layout does not mention.

Main definitions:
* `LayoutPart`, `Reading`: the parts of a layout, and what has been read so far;
* `readLayout`: the reading of a whole text, when the day exists;
* `isoLayout`, `stampLayout`: year-month-day, and a date with a time and a zone.
-/
namespace Stockroom
set_option autoImplicit false

/-- A part of a layout. -/
inductive LayoutPart where
  /-- The character itself; a space stands for a run of spaces, which may be empty at the end. -/
  | literal (c : Char)
  /-- Four digits. -/
  | year
  /-- Two digits, one to twelve. -/
  | month
  /-- One or two digits, one to twelve. -/
  | shortMonth
  /-- The first three letters of a month. -/
  | monthAbbreviation
  /-- The name of a month. -/
  | monthName
  /-- Two digits. -/
  | day
  /-- One or two digits. -/
  | shortDay
  /-- One or two digits, below twenty-four. -/
  | hour
  /-- Two digits, below sixty. -/
  | minute
  /-- One or two digits, below sixty. -/
  | shortMinute
  /-- Two digits, below sixty, and possibly a fraction. -/
  | second
  /-- One or two digits, below sixty, and possibly a fraction. -/
  | shortSecond
  /-- A `Z`, or a sign with hours and minutes. -/
  | zone
  deriving DecidableEq, Repr

/-- What has been read so far. -/
structure Reading where
  year : Nat := 0
  month : Nat := 1
  day : Nat := 1
  hour : Nat := 0
  minute : Nat := 0
  second : Nat := 0
  nano : Nat := 0
  /-- The zone's distance from universal time in seconds. -/
  offset : Int := 0
  deriving DecidableEq, Repr

/-! ## Parts -/

/-- Exactly two digits. -/
def takeTwoDigits : List Char → Option (Nat × List Char)
  | a :: b :: rest => do
    let x ← digitValue a
    let y ← digitValue b
    return (x * 10 + y, rest)
  | _ => none

/-- Two digits if there are two, else one. -/
def takeOneOrTwoDigits : List Char → Option (Nat × List Char)
  | a :: rest => do
    let x ← digitValue a
    match rest with
    | [] => return (x, [])
    | b :: more =>
      match digitValue b with
      | some y => return (x * 10 + y, more)
      | none => return (x, rest)
  | [] => none

/-- Exactly four digits. -/
def takeFourDigits (cs : List Char) : Option (Nat × List Char) := do
  let (high, cs) ← takeTwoDigits cs
  let (low, cs) ← takeTwoDigits cs
  return (high * 100 + low, cs)

/-- The names of the months. -/
def monthNames : List String :=
  ["January", "February", "March", "April", "May", "June", "July", "August", "September",
    "October", "November", "December"]

/-- What follows a word at the front of a text, whatever the case of its letters. -/
def afterWord : List Char → List Char → Option (List Char)
  | [], cs => some cs
  | _ :: _, [] => none
  | w :: ws, c :: cs => if w.toLower == c.toLower then afterWord ws cs else none

/-- The number of the month whose name, cut by `form`, stands at the front of a text. -/
def takeMonthName (form : List Char → List Char) (cs : List Char) : Option (Nat × List Char) :=
  (monthNames.zipIdx 1).findSome? fun (name, number) =>
    (afterWord (form name.toList) cs).map fun rest => (number, rest)

/-- The nanoseconds of a fraction: its first nine digits. -/
def fractionNanos (ds : List Char) : Nat :=
  let ds := ds.take 9
  ((digitsValue ds).getD 0) * Nat.pow 10 (9 - ds.length)

/-- A point or comma with digits, if there is one. -/
def takeFraction : List Char → Nat × List Char
  | c :: d :: rest =>
    if (c == '.' || c == ',') && (digitValue d).isSome then
      let ds := (d :: rest).takeWhile fun x => (digitValue x).isSome
      (fractionNanos ds, (d :: rest).drop ds.length)
    else (0, c :: d :: rest)
  | cs => (0, cs)

/-- A zone in seconds. Offsets of twenty-four hours and of sixty minutes are let through. -/
def takeZone : List Char → Option (Int × List Char)
  | 'Z' :: rest => some (0, rest)
  | sign :: rest => do
    let (hours, rest) ← takeTwoDigits rest
    match rest with
    | ':' :: rest =>
      let (minutes, rest) ← takeTwoDigits rest
      if hours > 24 || minutes > 60 then none
      let seconds : Int := ((hours * 60 + minutes) * 60 : Nat)
      if sign == '+' then return (seconds, rest)
      else if sign == '-' then return (-seconds, rest)
      else none
    | _ => none
  | [] => none

/-- Takes one part from the front of a text. -/
def LayoutPart.take (r : Reading) (cs : List Char) : LayoutPart → Option (Reading × List Char)
  | .literal ' ' =>
    match cs with
    | [] => some (r, [])
    | c :: _ => if c == ' ' then some (r, cs.dropWhile (· == ' ')) else none
  | .literal c =>
    match cs with
    | [] => none
    | d :: rest => if c == d then some (r, rest) else none
  | .year => (takeFourDigits cs).map fun (n, rest) => ({ r with year := n }, rest)
  | .month => do
    let (n, rest) ← takeTwoDigits cs
    if 1 ≤ n ∧ n ≤ 12 then return ({ r with month := n }, rest) else none
  | .shortMonth => do
    let (n, rest) ← takeOneOrTwoDigits cs
    if 1 ≤ n ∧ n ≤ 12 then return ({ r with month := n }, rest) else none
  | .monthAbbreviation =>
    (takeMonthName (·.take 3) cs).map fun (n, rest) => ({ r with month := n }, rest)
  | .monthName => (takeMonthName id cs).map fun (n, rest) => ({ r with month := n }, rest)
  | .day => (takeTwoDigits cs).map fun (n, rest) => ({ r with day := n }, rest)
  | .shortDay => (takeOneOrTwoDigits cs).map fun (n, rest) => ({ r with day := n }, rest)
  | .hour => do
    let (n, rest) ← takeOneOrTwoDigits cs
    if n < 24 then return ({ r with hour := n }, rest) else none
  | .minute => do
    let (n, rest) ← takeTwoDigits cs
    if n < 60 then return ({ r with minute := n }, rest) else none
  | .shortMinute => do
    let (n, rest) ← takeOneOrTwoDigits cs
    if n < 60 then return ({ r with minute := n }, rest) else none
  | .second => do
    let (n, rest) ← takeTwoDigits cs
    if n < 60 then
      let (nano, rest) := takeFraction rest
      return ({ r with second := n, nano := nano }, rest)
    else none
  | .shortSecond => do
    let (n, rest) ← takeOneOrTwoDigits cs
    if n < 60 then
      let (nano, rest) := takeFraction rest
      return ({ r with second := n, nano := nano }, rest)
    else none
  | .zone => (takeZone cs).map fun (offset, rest) => ({ r with offset := offset }, rest)

/-! ## Layouts -/

/-- Takes all parts in order; nothing may be left. -/
def readParts (r : Reading) : List LayoutPart → List Char → Option Reading
  | [], [] => some r
  | [], _ :: _ => none
  | part :: parts, cs =>
    match part.take r cs with
    | some (r, rest) => readParts r parts rest
    | none => none

/-- The day a reading names. -/
def Reading.date (r : Reading) : CalendarDate := ⟨r.year, r.month, r.day⟩

/-- The reading of a whole text, when the day it names exists. -/
def readLayout (parts : List LayoutPart) (cs : List Char) : Option Reading :=
  (readParts {} parts cs).filter fun r => decide r.date.Exists

/-- Year, month and day with a separator between them. -/
def dayParts (sep : Char) : List LayoutPart :=
  [.year, .literal sep, .month, .literal sep, .day]

/-- Hour, minute and second with colons between them. -/
def timeParts : List LayoutPart := [.hour, .literal ':', .minute, .literal ':', .second]

/-- Year, month and day with hyphens. -/
def isoLayout : List LayoutPart := dayParts '-'

/-- A date, a `T`, a time and a zone. -/
def stampLayout : List LayoutPart := dayParts '-' ++ [.literal 'T'] ++ timeParts ++ [.zone]

/-- Whether a text is an existing day written as year, month and day with hyphens. -/
def isIsoDate (t : Text) : Bool := (readLayout isoLayout t.toChars).isSome

end Stockroom

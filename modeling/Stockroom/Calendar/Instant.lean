import Stockroom.Calendar.Layout

/-!
Points in time, with the zone in which they were written.

Main definitions: `Instant`, `Instant.read`, `Instant.stamp`, `Instant.isBefore`,
`Instant.isWritable`, `Instant.column`.
-/
namespace Stockroom
set_option autoImplicit false

/-- Seconds and nanoseconds since the start of 1970 in universal time, and the distance in seconds
of the zone it is written in. -/
structure Instant where
  unix : Int
  nano : Nat := 0
  offset : Int := 0
  deriving DecidableEq, Repr

namespace Instant

/-- The start of the year one, which stands for a time that was never set. -/
def unset : Instant := { unix := -62135596800 }

instance : Inhabited Instant := ⟨unset⟩

/-- Whether one point in time lies before another. -/
def isBefore (a b : Instant) : Bool := a.unix < b.unix || (a.unix == b.unix && a.nano < b.nano)

def ofReading (r : Reading) : Instant :=
  { unix := r.date.dayNumber * 86400 + ((r.hour * 60 + r.minute) * 60 + r.second : Nat) - r.offset
    nano := r.nano
    offset := r.offset }

/-- Reads a date, a time and a zone. -/
def read (cs : List Char) : Option Instant := (readLayout stampLayout cs).map ofReading

/-- The day in the zone of the point in time. -/
def date (t : Instant) : CalendarDate := CalendarDate.ofDayNumber ((t.unix + t.offset) / 86400)

/-- The fraction of a second without zeros at its end. -/
def fractionText (nano : Nat) : Text :=
  if nano = 0 then []
  else .char '.' :: ((Text.padded 9 nano).reverse.dropWhile (· == .char '0')).reverse

/-- The zone: `Z`, or a sign with hours and minutes. -/
def zoneText (offset : Int) : Text :=
  if offset = 0 then [.char 'Z']
  else
    let minutes := offset.natAbs / 60
    (if offset < 0 then Glyph.char '-' else .char '+') ::
      (Text.padded 2 (minutes / 60) ++ [.char ':'] ++ Text.padded 2 (minutes % 60))

/-- Hour, minute and second with colons between them, and the fraction of the second. -/
def clockText (t : Instant) : Text :=
  let seconds := ((t.unix + t.offset) % 86400).toNat
  Text.padded 2 (seconds / 3600) ++ [.char ':'] ++ Text.padded 2 (seconds / 60 % 60) ++ [.char ':'] ++
    Text.padded 2 (seconds % 60) ++ fractionText t.nano

/-- The point in time with its date, its time and its zone. -/
def stamp (t : Instant) : Text :=
  t.date.iso ++ [.char 'T'] ++ t.clockText ++ zoneText t.offset

/-- Whether the zone is less than a day away, so that its hours can be written. -/
def isWritable (t : Instant) : Bool := t.offset.natAbs < 86400

/-- The point in time in universal time, as a column of the store holds it. Columns are compared as
texts, by which a year of five digits comes before most years of four. -/
def column (t : Instant) : Text :=
  let t := { t with offset := 0 }
  t.date.iso ++ [.char ' '] ++ t.clockText ++ Text.ofString " +0000 UTC"

end Instant
end Stockroom

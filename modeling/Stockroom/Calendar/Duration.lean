import Stockroom.Text.Numeral
import Stockroom.Text.Quoted

/-!
Lengths of time, counted in nanoseconds, in integers of sixty-four bits that go round when they are
too large.

Main definitions: `Duration`, `Duration.shown`, `Duration.parse`.
-/
namespace Stockroom
set_option autoImplicit false

/-- A number of nanoseconds. -/
abbrev Duration := Int

namespace Duration

def ofMillis (n : Int) : Duration := wrapInt64 (n * 1000000)
def ofSeconds (n : Int) : Duration := wrapInt64 (n * 1000000000)
def ofMinutes (n : Int) : Duration := wrapInt64 (n * 60000000000)

/-- Whole milliseconds, towards zero. -/
def millis (d : Duration) : Int := Int.tdiv d 1000000

/-! ## Writing -/

/-- A number with the given count of decimals, without zeros at its end. -/
def decimal (places n : Nat) : Text :=
  let fraction := (Text.padded places (n % Nat.pow 10 places)).reverse.dropWhile (· == .char '0')
  Text.ofNat (n / Nat.pow 10 places) ++
    (if fraction.isEmpty then [] else .char '.' :: fraction.reverse)

/-- A length in the largest units that fit: hours, minutes and seconds, or one smaller unit. -/
def shown (d : Duration) : Text :=
  let n := d.natAbs
  let length : Text :=
    if n = 0 then "0s"
    else if n < 1000 then Text.ofNat n ++ "ns"
    else if n < 1000000 then decimal 3 n ++ "µs"
    else if n < 1000000000 then decimal 6 n ++ "ms"
    else
      let minutes := n / 60000000000
      (if minutes < 60 then [] else Text.ofNat (minutes / 60) ++ [.char 'h']) ++
        (if minutes = 0 then [] else Text.ofNat (minutes % 60) ++ [.char 'm']) ++
        decimal 9 (n % 60000000000) ++ [.char 's']
  if d < 0 then .char '-' :: length else length

/-! ## Reading -/

/-- The nanoseconds of a unit. -/
def unitLength (u : Text) : Option Nat :=
  let units : List (String × Nat) :=
    [("ns", 1), ("us", 1000), ("µs", 1000), ("μs", 1000), ("ms", 1000000), ("s", 1000000000),
      ("m", 60000000000), ("h", 3600000000000)]
  (units.find? fun unit => u == Text.ofString unit.1).map (·.2)

/-- Why a text is no length of time. -/
inductive ParseError where
  | invalid (text : Text)
  | unitMissing (text : Text)
  | unitUnknown (unit text : Text)
  deriving DecidableEq, Repr

/-- A text in double quotes, everything but plain ASCII by the values of its bytes. -/
def byteQuoted (t : Text) : Text :=
  let shownByte (b : UInt8) : List Char :=
    if b < 0x20 || 0x80 ≤ b then '\\' :: 'x' :: hexDigits 2 b.toNat
    else if b == 0x22 || b == 0x5C then ['\\', Char.ofNat b.toNat]
    else [Char.ofNat b.toNat]
  Text.ofChars ('"' :: (t.bytes.flatMap shownByte ++ ['"']))

def ParseError.message : ParseError → Text
  | .invalid text => "time: invalid duration " ++ byteQuoted text
  | .unitMissing text => "time: missing unit in duration " ++ byteQuoted text
  | .unitUnknown unit text =>
    "time: unknown unit " ++ byteQuoted unit ++ " in duration " ++ byteQuoted text

def isDigitGlyph (g : Glyph) : Bool := (digitValue g.toChar).isSome

/-- The greatest number of nanoseconds that a reading may pass through. -/
def limit : Nat := 9223372036854775808

/-- Numbers with units, one after the other, added up. `fuel` bounds their count. -/
def parseTerms (whole : Text) : Nat → Nat → Text → Except ParseError Nat
  | 0, sum, _ => .ok sum
  | _, sum, [] => .ok sum
  | fuel + 1, sum, t => do
    let digits := t.takeWhile isDigitGlyph
    let rest := t.drop digits.length
    let (places, rest) := match rest with
      | .char '.' :: more => (more.takeWhile isDigitGlyph, more.dropWhile isDigitGlyph)
      | _ => (([] : Text), rest)
    if digits.isEmpty && places.isEmpty then throw (.invalid whole)
    let value := (digitsValueFrom 0 (Text.toChars digits)).getD 0
    if value > limit then throw (.invalid whole)
    let unit := rest.takeWhile fun g => g != .char '.' && !isDigitGlyph g
    if unit.isEmpty then throw (.unitMissing whole)
    match unitLength unit with
    | none => throw (.unitUnknown unit whole)
    | some length =>
      let fraction := (digitsValueFrom 0 (Text.toChars places)).getD 0
      if value > limit / length then throw (.invalid whole)
      let sum := sum + value * length + fraction * length / Nat.pow 10 places.length
      if sum > limit then throw (.invalid whole)
      parseTerms whole fuel sum (rest.drop unit.length)

/-- Reads a length of time: numbers with units, after an optional sign. A bare zero needs none. -/
def parse (t : Text) : Except ParseError Duration := do
  let (negative, unsigned) := match t with
    | .char '-' :: rest => (true, rest)
    | .char '+' :: rest => (false, rest)
    | _ => (false, t)
  if unsigned == Text.ofString "0" then return 0
  if unsigned.isEmpty then throw (.invalid t)
  let n ← parseTerms t unsigned.length 0 unsigned
  if negative then return -(n : Int)
  if n ≥ limit then throw (.invalid t)
  return n

end Duration
end Stockroom

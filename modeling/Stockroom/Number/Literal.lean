import Stockroom.Number.Binary64
import Stockroom.Text.Numeral

/-!
Numerals as people and spreadsheets write them: decimal with an optional fraction and exponent, or
hexadecimal with a binary exponent. An underscore may stand between two digits, or between the
hexadecimal mark and a digit.

Main definitions:
* `Numeral`: a numeral taken apart;
* `readNumeral`: the numeral a text consists of;
* `Numeral.value`: the nearest double, none when it is too large.
-/
namespace Stockroom
set_option autoImplicit false

/-! ## Shape -/

/-- The number `± digits * base ^ -scale * unit ^ power`, where the base is ten or sixteen and the
unit ten or two. -/
structure Numeral where
  negative : Bool
  hex : Bool
  /-- The digits read as one natural. -/
  digits : Nat
  /-- How many of the digits stand after the point. -/
  scale : Nat
  /-- The written exponent. -/
  power : Int
  deriving Repr, DecidableEq

/-- The value of a digit in the given notation. -/
def mantissaDigit (hex : Bool) (c : Char) : Option Nat :=
  if '0' ≤ c ∧ c ≤ '9' then some (c.toNat - 48)
  else if hex && 'a' ≤ c && c ≤ 'f' then some (c.toNat - 87)
  else if hex && 'A' ≤ c && c ≤ 'F' then some (c.toNat - 55)
  else none

/-- What was read of a mantissa. -/
structure Mantissa where
  digits : Nat := 0
  scale : Nat := 0
  sawPoint : Bool := false
  sawDigit : Bool := false

/-- Reads digits, at most one point and underscores; gives back what follows. -/
def readMantissa (hex : Bool) (m : Mantissa) : List Char → Mantissa × List Char
  | [] => (m, [])
  | c :: rest =>
    if c == '_' then readMantissa hex m rest
    else if c == '.' then
      if m.sawPoint then (m, c :: rest) else readMantissa hex { m with sawPoint := true } rest
    else match mantissaDigit hex c with
      | some d =>
        readMantissa hex
          { m with
            digits := m.digits * (if hex then 16 else 10) + d
            scale := if m.sawPoint then m.scale + 1 else m.scale
            sawDigit := true } rest
      | none => (m, c :: rest)

/-- The digits of an exponent. Beyond ten thousand further digits change nothing: such a number is
too large or rounds to zero anyway. -/
def exponentValue (sofar : Nat) : List Char → Option Nat
  | [] => some sofar
  | c :: rest =>
    if c == '_' then exponentValue sofar rest
    else match digitValue c with
      | some d => exponentValue (if sofar < 10000 then sofar * 10 + d else sofar) rest
      | none => none

/-- The digits of an exponent; the first is no underscore. -/
def readPower : List Char → Option Nat
  | [] => none
  | c :: rest => if (digitValue c).isSome then exponentValue 0 (c :: rest) else none

/-- A signed exponent that takes up the rest of the text. -/
def readSignedPower : List Char → Option Int
  | '+' :: rest => (readPower rest).map fun n => (n : Int)
  | '-' :: rest => (readPower rest).map fun n => -(n : Int)
  | cs => (readPower cs).map fun n => (n : Int)

/-! ## Underscores -/

/-- What was last seen while checking underscores. -/
inductive LastSeen where
  | start | digit | underscore | other
  deriving DecidableEq

/-- Whether every underscore stands after a digit and before a digit. -/
def underscoresStand (hex : Bool) (last : LastSeen) : List Char → Bool
  | [] => last != .underscore
  | c :: rest =>
    if (mantissaDigit hex c).isSome then underscoresStand hex .digit rest
    else if c == '_' then last == .digit && underscoresStand hex .underscore rest
    else last != .underscore && underscoresStand hex .other rest

/-- The underscore rule for a numeral without its sign. The mark of a base counts as a digit. -/
def underscoresOk : List Char → Bool
  | '0' :: c :: rest =>
    let c := c.toLower
    if c == 'x' then underscoresStand true .digit rest
    else if c == 'b' || c == 'o' then underscoresStand false .digit rest
    else underscoresStand false .start ('0' :: c :: rest)
  | cs => underscoresStand false .start cs

/-! ## Numerals -/

/-- A decimal numeral without its sign. -/
def readDecimal (negative : Bool) (cs : List Char) : Option Numeral :=
  let (m, rest) := readMantissa false {} cs
  if !m.sawDigit then none
  else match rest with
    | [] => some ⟨negative, false, m.digits, m.scale, 0⟩
    | c :: rest =>
      if c == 'e' || c == 'E' then
        (readSignedPower rest).map fun p => ⟨negative, false, m.digits, m.scale, p⟩
      else none

/-- A hexadecimal numeral after its mark; the exponent is required. -/
def readHexadecimal (negative : Bool) (cs : List Char) : Option Numeral :=
  let (m, rest) := readMantissa true {} cs
  if !m.sawDigit then none
  else match rest with
    | [] => none
    | c :: rest =>
      if c == 'p' || c == 'P' then
        (readSignedPower rest).map fun p => ⟨negative, true, m.digits, m.scale, p⟩
      else none

/-- A numeral without its sign. -/
def readUnsignedNumeral (negative : Bool) (cs : List Char) : Option Numeral :=
  if underscoresOk cs then
    match cs with
    | '0' :: 'x' :: c :: rest => readHexadecimal negative (c :: rest)
    | '0' :: 'X' :: c :: rest => readHexadecimal negative (c :: rest)
    | cs => readDecimal negative cs
  else none

/-- The numeral a text consists of. -/
def readNumeral : List Char → Option Numeral
  | '-' :: rest => readUnsignedNumeral true rest
  | '+' :: rest => readUnsignedNumeral false rest
  | cs => readUnsignedNumeral false cs

/-! ## Value -/

/-- The nearest double of `digits * 10 ^ power`. Powers far outside the range of doubles are
settled by the number of digits. -/
def decimalValue (negative : Bool) (digits : Nat) (power : Int) : Option Binary64 :=
  if digits = 0 then some { Binary64.zero with negative }
  else
    let length : Int := (Nat.toDigits 10 digits).length
    if length - 1 + power ≥ 309 then none
    else if length + power ≤ -325 then some { Binary64.zero with negative }
    else if 0 ≤ power then Binary64.ofRatio negative (digits * Nat.pow 10 power.toNat) 1
    else Binary64.ofRatio negative digits (Nat.pow 10 (-power).toNat)

/-- The nearest double of `digits * 2 ^ power`. -/
def binaryValue (negative : Bool) (digits : Nat) (power : Int) : Option Binary64 :=
  if digits = 0 then some { Binary64.zero with negative }
  else
    let length : Int := Nat.log2 digits + 1
    if length - 1 + power ≥ 1024 then none
    else if length + power ≤ -1076 then some { Binary64.zero with negative }
    else if 0 ≤ power then Binary64.ofRatio negative (digits * Nat.pow 2 power.toNat) 1
    else Binary64.ofRatio negative digits (Nat.pow 2 (-power).toNat)

/-- The nearest double; none when it is beyond the largest one. -/
def Numeral.value (n : Numeral) : Option Binary64 :=
  if n.hex then binaryValue n.negative n.digits (n.power - 4 * n.scale)
  else decimalValue n.negative n.digits (n.power - n.scale)

/-- The nearest double of the numeral a text consists of. -/
def readDouble (cs : List Char) : Option Binary64 := (readNumeral cs).bind Numeral.value

end Stockroom

import Stockroom.Text.Basic

/-!
Decimal integers of sixty-four bits.

Main definitions: `wrapInt64`, `digitValue`, `digitsValue`, `readInt64`.
-/
namespace Stockroom
set_option autoImplicit false

/-- The least and the greatest signed integer of sixty-four bits. -/
def minInt64 : Int := -9223372036854775808
def maxInt64 : Int := 9223372036854775807

/-- Whether an integer fits sixty-four bits. -/
def fitsInt64 (i : Int) : Bool := minInt64 ≤ i && i ≤ maxInt64

/-- An integer of sixty-four bits after the arithmetic went round. -/
def wrapInt64 (i : Int) : Int := (i + 9223372036854775808) % 18446744073709551616 - 9223372036854775808

/-- The value of a decimal digit. -/
def digitValue (c : Char) : Option Nat :=
  if '0' ≤ c ∧ c ≤ '9' then some (c.toNat - 48) else none

/-- The value of digits read from the left, after what was read so far. -/
def digitsValueFrom (sofar : Nat) : List Char → Option Nat
  | [] => some sofar
  | c :: rest =>
    match digitValue c with
    | some d => digitsValueFrom (sofar * 10 + d) rest
    | none => none

/-- The value of one or more decimal digits. -/
def digitsValue : List Char → Option Nat
  | [] => none
  | cs => digitsValueFrom 0 cs

/-- Digits after an optional sign. -/
def readInt : List Char → Option Int
  | '-' :: cs => (digitsValue cs).map fun n => -(n : Int)
  | '+' :: cs => (digitsValue cs).map fun n => (n : Int)
  | cs => (digitsValue cs).map fun n => (n : Int)

/-- Digits after an optional sign, when the value fits sixty-four bits. -/
def readInt64 (cs : List Char) : Option Int := (readInt cs).filter fitsInt64

end Stockroom

/-!
Finite double-precision numbers as exact values: a sign, a mantissa below 2^53 and a power of two no
smaller than 2^-1074. Operations compute exactly and round once, to the nearest value and to the
even mantissa in the middle, so each result is a matter of arithmetic on naturals.

Main definitions:
* `roundRatio`: the mantissa and exponent nearest to a ratio of naturals;
* `Binary64`, `Binary64.bits`;
* `Binary64.ofRatio`, `subInt`, `mulInt`: rounded results, none when they are too large;
* `Binary64.whole?`, `roundHalfAway`: integers in and near a value.
-/
namespace Stockroom
set_option autoImplicit false

/-! ## Rounding -/

/-- The natural nearest to `num / den`, the even one in the middle. -/
def nearestEven (num den : Nat) : Nat :=
  let q := num / den
  let r := num % den
  if 2 * r < den then q
  else if den < 2 * r then q + 1
  else if q % 2 = 0 then q else q + 1

/-- Numerator and denominator of `num / den` divided by `2 ^ e`. -/
def scaleDown (num den : Nat) (e : Int) : Nat × Nat :=
  if 0 ≤ e then (num, den * Nat.pow 2 e.toNat) else (num * Nat.pow 2 (-e).toNat, den)

/-- The exponent of the last bit of the double nearest to `num / den`. -/
def lastBitExponent (num den : Nat) : Int :=
  let guess : Int := (Nat.log2 num : Int) - (Nat.log2 den : Int) - 53
  let (n, d) := scaleDown num den guess
  let e := if n < Nat.pow 2 53 * d then guess else guess + 1
  if e < -1074 then -1074 else e

/-- Mantissa and exponent of the double nearest to the positive ratio `num / den`; none when it is
beyond the largest double. -/
def roundRatio (num den : Nat) : Option (Nat × Int) :=
  if num = 0 then some (0, -1074)
  else
    let e := lastBitExponent num den
    let (n, d) := scaleDown num den e
    let m := nearestEven n d
    let (m, e) := if m = Nat.pow 2 53 then (Nat.pow 2 52, e + 1) else (m, e)
    if e > 971 then none else some (m, e)

/-! ## Values -/

/-- The number `± mantissa * 2 ^ exponent`. -/
structure Binary64 where
  negative : Bool
  mantissa : Nat
  exponent : Int
  deriving DecidableEq, Repr, Inhabited

namespace Binary64

def zero : Binary64 := ⟨false, 0, -1074⟩

/-- The interchange encoding. -/
def bits (x : Binary64) : Nat :=
  let magnitude :=
    if x.mantissa < Nat.pow 2 52 then x.mantissa
    else (x.exponent + 1075).toNat * Nat.pow 2 52 + (x.mantissa - Nat.pow 2 52)
  if x.negative then Nat.pow 2 63 + magnitude else magnitude

/-- The double nearest to `± num / den`. -/
def ofRatio (negative : Bool) (num den : Nat) : Option Binary64 :=
  (roundRatio num den).map fun (m, e) => ⟨negative, m, e⟩

/-- Numerator and denominator of the magnitude. -/
def ratio (x : Binary64) : Nat × Nat :=
  if 0 ≤ x.exponent then (x.mantissa * Nat.pow 2 x.exponent.toNat, 1)
  else (x.mantissa, Nat.pow 2 (-x.exponent).toNat)

/-- The value as a signed numerator over a denominator. -/
def signedRatio (x : Binary64) : Int × Nat :=
  let (n, d) := x.ratio
  (if x.negative then -(n : Int) else (n : Int), d)

/-- The double nearest to a signed ratio. -/
def ofSignedRatio (num : Int) (den : Nat) : Option Binary64 :=
  ofRatio (num < 0) num.natAbs den

/-- The rounded difference to an integer. -/
def subInt (x : Binary64) (i : Int) : Option Binary64 :=
  let (n, d) := x.signedRatio
  ofSignedRatio (n - i * d) d

/-- The rounded product with an integer. -/
def mulInt (x : Binary64) (i : Int) : Option Binary64 :=
  let (n, d) := x.signedRatio
  ofSignedRatio (n * i) d

/-- Whether the value is above zero. -/
def isPositive (x : Binary64) : Bool := !x.negative && 0 < x.mantissa

/-- Whether the value is below zero. -/
def isNegative (x : Binary64) : Bool := x.negative && 0 < x.mantissa

/-- The value, when it is an integer. -/
def whole? (x : Binary64) : Option Int :=
  let (n, d) := x.signedRatio
  if n % d = 0 then some (n / d) else none

/-- The nearest integer, the one farther from zero in the middle. -/
def roundHalfAway (x : Binary64) : Int :=
  let (n, d) := x.ratio
  let magnitude := (2 * n + d) / (2 * d)
  if x.negative then -(magnitude : Int) else (magnitude : Int)

/-- The integer towards zero. -/
def truncate (x : Binary64) : Int :=
  let (n, d) := x.ratio
  if x.negative then -((n / d : Nat) : Int) else ((n / d : Nat) : Int)

end Binary64
end Stockroom

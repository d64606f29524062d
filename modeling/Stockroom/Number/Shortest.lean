import Stockroom.Number.Binary64
import Stockroom.Text.Basic

/-!
The shortest decimal that reads back as a given double, written without an exponent.

For one digit, two digits and so on, the two neighbours of the value on the decimal grid of that
many digits are tried; the first grid with a neighbour that reads back wins, and of two such
neighbours the nearer one.

Main definitions: `shortestDigits`, `Binary64.positional`.
-/
namespace Stockroom
set_option autoImplicit false

/-- A decimal `digits * 10 ^ power`. -/
structure Decimal where
  digits : Nat
  power : Int
  deriving Repr, DecidableEq

/-- Numerator and denominator of a decimal. -/
def Decimal.ratio (d : Decimal) : Nat × Nat :=
  if 0 ≤ d.power then (d.digits * Nat.pow 10 d.power.toNat, 1)
  else (d.digits, Nat.pow 10 (-d.power).toNat)

/-- The power of ten of the first digit of the positive ratio `num / den`. -/
def firstDigitPower (num den : Nat) : Int :=
  if den ≤ num then ((Nat.toDigits 10 (num / den)).length : Int) - 1
  else match (List.range 400).find? fun j => den ≤ num * Nat.pow 10 (j + 1) with
    | some j => -((j : Int) + 1)
    | none => -400

/-- Whether a decimal rounds to the double with the given mantissa and exponent. -/
def readsBack (m : Nat) (e : Int) (d : Decimal) : Bool :=
  let (num, den) := d.ratio
  roundRatio num den == some (m, e)

/-- The neighbours of `num / den` on the grid of `count` digits that read back, nearest first. -/
def candidates (m : Nat) (e : Int) (num den : Nat) (first : Int) (count : Nat) : List Decimal :=
  let power := first - (count : Int) + 1
  let (n, d) :=
    if 0 ≤ power then (num, den * Nat.pow 10 power.toNat)
    else (num * Nat.pow 10 (-power).toNat, den)
  let low := n / d
  let nearer := if 2 * (n % d) ≤ d then [low, low + 1] else [low + 1, low]
  (nearer.map fun k => (⟨k, power⟩ : Decimal)).filter (readsBack m e)

/-- The shortest decimal that reads back as `m * 2 ^ e`, for a positive mantissa. -/
def shortestDigits (m : Nat) (e : Int) : Decimal :=
  let (num, den) := (⟨false, m, e⟩ : Binary64).ratio
  let first := firstDigitPower num den
  match (List.range 17).findSome? fun k => (candidates m e num den first (k + 1)).head? with
  | some d => d
  | none => ⟨0, 0⟩

/-- Positional notation of a decimal: a point only where a fraction follows it. -/
def Decimal.positional (d : Decimal) : List Char :=
  let ds := Nat.toDigits 10 d.digits
  if 0 ≤ d.power then
    if d.digits = 0 then ['0'] else ds ++ List.replicate d.power.toNat '0'
  else
    let places := (-d.power).toNat
    let ds := List.replicate (places + 1 - ds.length) '0' ++ ds
    let whole := ds.take (ds.length - places)
    let fraction := ((ds.drop (ds.length - places)).reverse.dropWhile (· == '0')).reverse
    if fraction.isEmpty then whole else whole ++ '.' :: fraction

/-- A double in shortest positional notation. -/
def Binary64.positional (x : Binary64) : List Char :=
  let magnitude :=
    if x.mantissa = 0 then ['0'] else (shortestDigits x.mantissa x.exponent).positional
  if x.negative then '-' :: magnitude else magnitude

end Stockroom

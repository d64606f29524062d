import Mathlib.Algebra.Order.Field.Power
import Mathlib.Algebra.Order.Field.Rat
import Mathlib.Tactic.FieldSimp
import Mathlib.Tactic.Linarith
import Mathlib.Tactic.Positivity
import Mathlib.Tactic.Ring
import Stockroom.Number.Binary64

/-!
Doubles as rationals, and what rounding makes of a rational. The double that a ratio is rounded to has
no other nearer to the ratio. Near the naturals below 2^52 more holds: these are doubles with an even
mantissa, so one of them is what a ratio is rounded to whenever no double is nearer.

Main definitions and statements:
* `Binary64.value`: a double as a rational;
* `Binary64.IsFinite`, `IsNearest`: the doubles there are, and a value that none of them is nearer to;
* `lastBitExponent_spec`: the exponent that leaves fifty-three bits, or the least one;
* `IsNearest.abs_sub_le`, `IsNearest.eq_of_fraction`: how close a nearest natural is;
* `roundRatio_nearest`, `roundRatio_natural`: rounding gives a nearest double, and any natural below
  2^52 that is nearest;
* `Binary64.ofRatio_natural`: the ratios that are rounded to a natural.
-/
namespace Stockroom
set_option autoImplicit false

/-! ## Doubles as rationals -/

/-- The number itself. -/
def Binary64.value (x : Binary64) : ℚ :=
  (if x.negative then -1 else 1) * x.mantissa * 2 ^ x.exponent

theorem Binary64.signedRatio_pos (x : Binary64) : 0 < x.signedRatio.2 := by
  unfold signedRatio ratio
  dsimp only
  split
  · exact Nat.one_pos
  · exact Nat.two_pow_pos _

theorem Binary64.value_eq (x : Binary64) :
    x.value = (x.signedRatio.1 : ℚ) / (x.signedRatio.2 : ℚ) := by
  obtain ⟨negative, mantissa, exponent⟩ := x
  by_cases hsign : 0 ≤ exponent
  · obtain ⟨k, rfl⟩ := Int.eq_ofNat_of_zero_le hsign
    cases negative <;> simp [value, signedRatio, ratio]
  · obtain ⟨k, hk⟩ := Int.eq_ofNat_of_zero_le (show 0 ≤ -exponent by omega)
    obtain rfl : exponent = -(k : Int) := by omega
    have hzero : k ≠ 0 := by omega
    cases negative <;> simp [value, signedRatio, ratio, hzero, div_eq_mul_inv]

/-- The integer in a double is its value. -/
theorem Binary64.whole?_eq_some_iff {x : Binary64} {n : Int} :
    x.whole? = some n ↔ x.value = n := by
  have hpos := x.signedRatio_pos
  rw [value_eq]
  generalize hratio : x.signedRatio = r at hpos ⊢
  obtain ⟨num, den⟩ := r
  have hden : (den : ℚ) ≠ 0 := by exact_mod_cast hpos.ne'
  have hden' : (den : Int) ≠ 0 := by exact_mod_cast hpos.ne'
  have hwhole : x.whole? = if num % (den : Int) = 0 then some (num / den) else none := by
    rw [whole?, hratio]
  have hquotient : (num : ℚ) / den = n ↔ num = n * den := by
    rw [div_eq_iff hden]
    exact_mod_cast Iff.rfl
  rw [hwhole, hquotient]
  constructor
  · intro h
    split at h
    · next hdvd =>
      obtain rfl := Option.some.inj h
      exact (Int.ediv_mul_cancel (Int.dvd_of_emod_eq_zero hdvd)).symm
    · cases h
  · rintro rfl
    rw [if_pos (Int.mul_emod_left n den), Int.mul_ediv_cancel n hden']

/-- Mantissa and exponent of a double that can be written down. -/
structure Binary64.IsFinite (x : Binary64) : Prop where
  mantissa : x.mantissa < 2 ^ 53
  least : -1074 ≤ x.exponent
  greatest : x.exponent ≤ 971

/-- No double is nearer to a rational than this one. -/
def IsNearest (v z : ℚ) : Prop := ∀ x : Binary64, x.IsFinite → |v - z| ≤ |v - x.value|

/-! ## Signs and naturals -/

/-- A magnitude with its sign. -/
def signed (negative : Bool) (v : ℚ) : ℚ := if negative then -v else v

theorem abs_signed (negative : Bool) (v : ℚ) : |signed negative v| = |v| := by
  cases negative with
  | false => rfl
  | true => exact abs_neg v

theorem Binary64.value_eq_signed (x : Binary64) :
    x.value = signed x.negative (x.mantissa * 2 ^ x.exponent) := by
  obtain ⟨negative, mantissa, exponent⟩ := x
  cases negative <;> simp [value, signed]

theorem signed_eq_natural {negative : Bool} {v : ℚ} {n : Nat} (hv : 0 ≤ v) :
    signed negative v = n ↔ v = n ∧ (negative = true → n = 0) := by
  cases negative with
  | false => exact ⟨fun h => ⟨h, nofun⟩, And.left⟩
  | true =>
    have hn : (0 : ℚ) ≤ n := Nat.cast_nonneg n
    constructor
    · intro h
      have h : -v = n := h
      have hzero : (n : ℚ) = 0 := by linarith
      exact ⟨by linarith, fun _ => by exact_mod_cast hzero⟩
    · rintro ⟨rfl, hzero⟩
      rw [hzero rfl]
      simp [signed]

namespace IsNearest

variable {v z : ℚ} {n : Nat}

theorem neg (h : IsNearest v z) : IsNearest (-v) (-z) := by
  intro x hx
  have hmirrored := h ⟨!x.negative, x.mantissa, x.exponent⟩ ⟨hx.mantissa, hx.least, hx.greatest⟩
  have hvalue : (⟨!x.negative, x.mantissa, x.exponent⟩ : Binary64).value = -x.value := by
    rw [Binary64.value_eq_signed, Binary64.value_eq_signed]
    cases x.negative <;> simp [signed]
  rw [hvalue, sub_neg_eq_add] at hmirrored
  rw [neg_sub_neg, abs_sub_comm, ← abs_neg (-v - x.value), neg_sub, sub_neg_eq_add, add_comm x.value]
  exact hmirrored

theorem refl (z : ℚ) : IsNearest z z := by
  intro x _
  rw [sub_self, abs_zero]
  exact abs_nonneg _

/-- Zero is a double, so nothing farther from a value than zero is nearest to it. -/
theorem abs_sub_le_abs (h : IsNearest v z) : |v - z| ≤ |v| := by
  have hzero := h Binary64.zero ⟨by decide, by decide, by decide⟩
  have hvalue : Binary64.zero.value = 0 := by simp [Binary64.value, Binary64.zero]
  rwa [hvalue, sub_zero] at hzero

/-- A value that is not above zero has no natural nearest to it but zero. -/
theorem natural_of_nonpos (h : IsNearest v n) (hv : v ≤ 0) : n = 0 := by
  have hle := h.abs_sub_le_abs
  have hn : (0 : ℚ) ≤ n := Nat.cast_nonneg n
  rw [abs_of_nonpos hv, abs_of_nonpos (by linarith)] at hle
  have hzero : (n : ℚ) = 0 := by linarith
  exact_mod_cast hzero

/-- Below zero a sign leaves zero as the only natural. -/
theorem signed_iff (negative : Bool) (hv : 0 ≤ v) :
    IsNearest (signed negative v) n ↔ IsNearest v n ∧ (negative = true → n = 0) := by
  cases negative with
  | false => exact ⟨fun h => ⟨h, nofun⟩, And.left⟩
  | true =>
    constructor
    · intro h
      have h : IsNearest (-v) n := h
      obtain rfl := h.natural_of_nonpos (neg_nonpos.mpr hv)
      have hmirrored := h.neg
      rw [neg_neg, Nat.cast_zero, neg_zero] at hmirrored
      exact ⟨by rwa [Nat.cast_zero], fun _ => rfl⟩
    · rintro ⟨h, hzero⟩
      obtain rfl := hzero rfl
      have hmirrored := h.neg
      rwa [Nat.cast_zero, neg_zero, ← Nat.cast_zero] at hmirrored

/-- The natural 2^52 is a double, so no smaller one is nearest to a value beyond it. -/
theorem lt_of_natural (h : IsNearest v n) (hn : n < 2 ^ 52) : v < 2 ^ 52 := by
  by_contra hlarge
  have hv : (2 : ℚ) ^ 52 ≤ v := not_lt.mp hlarge
  have hnat : (n : ℚ) < 2 ^ 52 := by exact_mod_cast hn
  have hedge := h ⟨false, 2 ^ 52, 0⟩ ⟨by norm_num, by norm_num, by norm_num⟩
  have hvalue : (⟨false, 2 ^ 52, 0⟩ : Binary64).value = 2 ^ 52 := by norm_num [Binary64.value]
  rw [hvalue, abs_of_nonneg (by linarith), abs_of_nonneg (by linarith)] at hedge
  linarith

/-- Up to half the least double only zero is nearest. -/
theorem natural_iff_of_tiny (hv : |v| ≤ 2 ^ (-1075 : Int)) : IsNearest v n ↔ n = 0 := by
  constructor
  · intro h
    have hle := h.abs_sub_le_abs
    have hfar : |(n : ℚ)| - |v| ≤ |v - n| := by
      rw [abs_sub_comm]
      exact abs_sub_abs_le_abs_sub _ _
    have htiny : (2 : ℚ) ^ (-1075 : Int) < 2 ^ (-1 : Int) :=
      zpow_lt_zpow_right₀ one_lt_two (by norm_num)
    rw [zpow_neg_one] at htiny
    rw [Nat.abs_cast] at hfar
    have hless : (n : ℚ) < (1 : Nat) := by
      push_cast
      linarith
    exact Nat.lt_one_iff.mp (Nat.cast_lt.mp hless)
  · rintro rfl x hx
    rw [Nat.cast_zero, sub_zero]
    rcases Nat.eq_zero_or_pos x.mantissa with hzero | hpos
    · have hvalue : x.value = 0 := by simp [Binary64.value, hzero]
      rw [hvalue, sub_zero]
    · -- any other double is at least twice as far from zero
      have hsize : (2 : ℚ) ^ (-1074 : Int) ≤ |x.value| := by
        have hone : (1 : ℚ) ≤ x.mantissa := by exact_mod_cast hpos
        have hunit : (2 : ℚ) ^ (-1074 : Int) ≤ 2 ^ x.exponent :=
          zpow_le_zpow_right₀ one_le_two hx.least
        rw [x.value_eq_signed, abs_signed, abs_of_nonneg (by positivity)]
        exact hunit.trans (le_mul_of_one_le_left (by positivity) hone)
      have htwice : (2 : ℚ) ^ (-1074 : Int) = 2 * 2 ^ (-1075 : Int) := by
        rw [mul_comm, ← zpow_add_one₀ two_ne_zero]
        norm_num
      have hfar : |x.value| - |v| ≤ |v - x.value| := by
        rw [abs_sub_comm]
        exact abs_sub_abs_le_abs_sub _ _
      linarith

/-- A natural of thirty-one bits that is nearest to a value is within 2^-23 of it. -/
theorem abs_sub_le (h : IsNearest v n) (hn : n < 2 ^ 31) : |v - n| ≤ 1 / 2 ^ 23 := by
  have habove : |v - n| ≤ |v - (n + 1 / 2 ^ 22)| := by
    have hvalue : (⟨false, n * 2 ^ 22 + 1, -22⟩ : Binary64).value = n + 1 / 2 ^ 22 := by
      norm_num [Binary64.value]
      ring
    have hnear := h ⟨false, n * 2 ^ 22 + 1, -22⟩ ⟨by dsimp only; omega, by norm_num, by norm_num⟩
    rwa [hvalue] at hnear
  have hbelow : |v - n| ≤ |v - (n - 1 / 2 ^ 22)| := by
    rcases Nat.eq_zero_or_pos n with rfl | hpos
    · have hvalue : (⟨true, 1, -22⟩ : Binary64).value = ((0 : Nat) : ℚ) - 1 / 2 ^ 22 := by
        norm_num [Binary64.value]
      have hnear := h ⟨true, 1, -22⟩ ⟨by norm_num, by norm_num, by norm_num⟩
      rwa [hvalue] at hnear
    · have hvalue : (⟨false, n * 2 ^ 22 - 1, -22⟩ : Binary64).value = n - 1 / 2 ^ 22 := by
        have hone : 1 ≤ n * 2 ^ 22 := by omega
        rw [Binary64.value, Nat.cast_sub hone]
        norm_num
        ring
      have hnear := h ⟨false, n * 2 ^ 22 - 1, -22⟩
        ⟨by dsimp only; omega, by norm_num, by norm_num⟩
      rwa [hvalue] at hnear
  rcases le_total 0 (v - n) with hside | hside
  · rw [abs_of_nonneg hside] at habove ⊢
    rcases le_abs.mp habove with hover | hover
    · norm_num at hover
      linarith
    · linarith
  · rw [abs_of_nonpos hside] at hbelow ⊢
    rcases le_abs.mp hbelow with hover | hover
    · linarith
    · norm_num at hover

/-- A fraction with a small denominator that has a nearest natural is that natural. -/
theorem eq_of_fraction (h : IsNearest v n) (hn : n < 2 ^ 31) {num : Int} {den : Nat}
    (hpos : 0 < den) (hden : den < 2 ^ 23) (hv : v * den = num) : v = n := by
  have hdenPos : (0 : ℚ) < den := by exact_mod_cast hpos
  have hdenLess : (den : ℚ) < 2 ^ 23 := by exact_mod_cast hden
  have hgap : |(num : ℚ) - n * den| < 1 := by
    rw [← hv, ← sub_mul, abs_mul, abs_of_pos hdenPos]
    have hclose : |v - n| * den ≤ 1 / 2 ^ 23 * den :=
      mul_le_mul_of_nonneg_right (h.abs_sub_le hn) hdenPos.le
    linarith
  have hsame : num = n * den := by
    have hint : |num - n * den| < 1 := by exact_mod_cast hgap
    exact sub_eq_zero.mp (Int.abs_lt_one_iff.mp hint)
  have hnum : (num : ℚ) = n * den := by exact_mod_cast hsame
  exact mul_right_cancel₀ hdenPos.ne' (hv.trans hnum)

end IsNearest

/-! ## The unit of the last bit -/

theorem scaleDown_spec (num : Nat) {den : Nat} (hden : 0 < den) (e : Int) :
    0 < (scaleDown num den e).2 ∧
      ((scaleDown num den e).1 : ℚ) / (scaleDown num den e).2 = (num : ℚ) / den / 2 ^ e := by
  by_cases he : 0 ≤ e
  · obtain ⟨k, rfl⟩ := Int.eq_ofNat_of_zero_le he
    have hpos : 0 < den * Nat.pow 2 k := Nat.mul_pos hden (Nat.two_pow_pos k)
    have hpow : ((Nat.pow 2 k : Nat) : ℚ) = 2 ^ k := Nat.cast_pow 2 k
    rw [scaleDown, if_pos he, Int.toNat_natCast]
    refine ⟨hpos, ?_⟩
    rw [Nat.cast_mul, hpow, zpow_natCast, div_div]
  · obtain ⟨k, hk⟩ := Int.eq_ofNat_of_zero_le (show 0 ≤ -e by omega)
    obtain rfl : e = -(k : Int) := by omega
    have hpow : ((Nat.pow 2 k : Nat) : ℚ) = 2 ^ k := Nat.cast_pow 2 k
    rw [scaleDown, if_neg he, neg_neg, Int.toNat_natCast]
    refine ⟨hden, ?_⟩
    dsimp only
    rw [Nat.cast_mul, hpow, zpow_neg, zpow_natCast, div_inv_eq_mul]
    ring

theorem log2_spec {n : Nat} (h : 0 < n) :
    (2 : ℚ) ^ Nat.log2 n ≤ n ∧ (n : ℚ) < 2 * 2 ^ Nat.log2 n := by
  have hlow : 2 ^ Nat.log2 n ≤ n := Nat.log2_self_le h.ne'
  have hhigh : n < 2 * 2 ^ Nat.log2 n := Nat.pow_succ' ▸ Nat.lt_log2_self
  exact ⟨by exact_mod_cast hlow, by exact_mod_cast hhigh⟩

/-- The difference of the lengths tells the length of the ratio, but for one bit. -/
theorem ratio_bounds {num den : Nat} (hnum : 0 < num) (hden : 0 < den) :
    let guess : Int := (Nat.log2 num : Int) - (Nat.log2 den : Int) - 53
    2 ^ 52 ≤ (num : ℚ) / den / 2 ^ guess ∧ (num : ℚ) / den / 2 ^ guess < 2 ^ 54 := by
  intro guess
  obtain ⟨hnumLow, hnumHigh⟩ := log2_spec hnum
  obtain ⟨hdenLow, hdenHigh⟩ := log2_spec hden
  have hdenPos : (0 : ℚ) < den := by exact_mod_cast hden
  have hunit : (0 : ℚ) < 2 ^ guess := by positivity
  have hpowers : (2 : ℚ) ^ guess * (2 ^ 53 * 2 ^ Nat.log2 den) = 2 ^ Nat.log2 num := by
    rw [← zpow_natCast, ← zpow_natCast, ← zpow_natCast, ← zpow_add₀ two_ne_zero,
      ← zpow_add₀ two_ne_zero]
    congr 1
    omega
  rw [div_div, le_div_iff₀ (by positivity), div_lt_iff₀ (by positivity)]
  have hlow : (2 : ℚ) ^ guess * den < 2 ^ guess * (2 * 2 ^ Nat.log2 den) :=
    mul_lt_mul_of_pos_left hdenHigh hunit
  have hhigh : (2 : ℚ) ^ guess * 2 ^ Nat.log2 den ≤ 2 ^ guess * den :=
    mul_le_mul_of_nonneg_left hdenLow hunit.le
  constructor
  · linarith
  · linarith

/-- The exponent leaves less than fifty-three bits before the point, and no bit less unless it is the
least one. -/
theorem lastBitExponent_spec {num den : Nat} (hnum : 0 < num) (hden : 0 < den) :
    -1074 ≤ lastBitExponent num den ∧ (num : ℚ) / den / 2 ^ lastBitExponent num den < 2 ^ 53 ∧
      (lastBitExponent num den = -1074 ∨
        2 ^ 52 ≤ (num : ℚ) / den / 2 ^ lastBitExponent num den) := by
  obtain ⟨hlow, hhigh⟩ := ratio_bounds hnum hden
  set guess : Int := (Nat.log2 num : Int) - (Nat.log2 den : Int) - 53 with hguess
  obtain ⟨hpos, hscaled⟩ := scaleDown_spec num hden guess
  have htest : (scaleDown num den guess).1 < Nat.pow 2 53 * (scaleDown num den guess).2 ↔
      (num : ℚ) / den / 2 ^ guess < 2 ^ 53 := by
    have hposQ : (0 : ℚ) < (scaleDown num den guess).2 := by exact_mod_cast hpos
    rw [← hscaled, div_lt_iff₀ hposQ]
    exact_mod_cast Iff.rfl
  -- the exponent before it is raised to the least one
  obtain ⟨e, he, htight⟩ : ∃ e, lastBitExponent num den = (if e < -1074 then -1074 else e) ∧
      2 ^ 52 ≤ (num : ℚ) / den / 2 ^ e ∧ (num : ℚ) / den / 2 ^ e < 2 ^ 53 := by
    refine ⟨_, rfl, ?_⟩
    rw [← hguess]
    split
    · next h => exact ⟨hlow, htest.mp h⟩
    · next h =>
      have hmore := not_lt.mp (htest.not.mp h)
      rw [zpow_add_one₀ two_ne_zero, ← div_div, le_div_iff₀ two_pos, div_lt_iff₀ two_pos]
      exact ⟨by linarith, by linarith⟩
  rw [he]
  split
  · next hleast =>
    have hsmaller : (num : ℚ) / den / 2 ^ (-1074 : Int) ≤ (num : ℚ) / den / 2 ^ e :=
      div_le_div_of_nonneg_left (by positivity) (by positivity)
        (zpow_le_zpow_right₀ one_le_two hleast.le)
    exact ⟨le_rfl, hsmaller.trans_lt htight.2, .inl rfl⟩
  · next hleast => exact ⟨not_lt.mp hleast, htight.2, .inr htight.1⟩

/-! ## The nearest natural -/

theorem nearestEven_spec (num : Nat) {den : Nat} (hden : 0 < den) :
    |(num : ℚ) / den - nearestEven num den| ≤ 1 / 2 ∧
      (|(num : ℚ) / den - nearestEven num den| = 1 / 2 → Even (nearestEven num den)) := by
  have hdenPos : (0 : ℚ) < den := by exact_mod_cast hden
  -- the part of a whole that is left over
  set rest : ℚ := (num % den : Nat) / den with hrest
  have hsplit : (num : ℚ) / den = (num / den : Nat) + rest := by
    have h : ((den * (num / den) + num % den : Nat) : ℚ) = num := by rw [Nat.div_add_mod]
    rw [hrest, div_eq_iff hdenPos.ne', add_mul, div_mul_cancel₀ _ hdenPos.ne', ← h]
    push_cast
    ring
  have hnonneg : 0 ≤ rest := by positivity
  have hone : rest < 1 := by
    rw [hrest, div_lt_one hdenPos]
    exact_mod_cast Nat.mod_lt num hden
  unfold nearestEven
  dsimp only
  split
  · next hbelow =>
    have hhalf : rest < 1 / 2 := by
      have h : (2 * (num % den : Nat) : ℚ) < den := by exact_mod_cast hbelow
      rw [hrest, div_lt_iff₀ hdenPos]
      linarith
    rw [hsplit, add_sub_cancel_left, abs_of_nonneg hnonneg]
    exact ⟨hhalf.le, fun htie => absurd htie hhalf.ne⟩
  · next hbelow =>
    split
    · next habove =>
      have hhalf : 1 / 2 < rest := by
        have h : (den : ℚ) < 2 * (num % den : Nat) := by exact_mod_cast habove
        rw [hrest, lt_div_iff₀ hdenPos]
        linarith
      have hgap : |(num : ℚ) / den - ((num / den + 1 : Nat) : ℚ)| = 1 - rest := by
        rw [hsplit, abs_sub_comm, abs_of_nonneg]
        · push_cast
          ring
        · push_cast
          linarith
      rw [hgap]
      exact ⟨by linarith, fun htie => absurd htie (by linarith)⟩
    · next habove =>
      have hhalf : rest = 1 / 2 := by
        have h : (2 * (num % den : Nat) : ℚ) = den := by
          exact_mod_cast Nat.le_antisymm (not_lt.mp habove) (not_lt.mp hbelow)
        rw [hrest, div_eq_iff hdenPos.ne']
        linarith
      split
      · next heven =>
        rw [hsplit, add_sub_cancel_left, hhalf, abs_of_pos one_half_pos]
        exact ⟨le_rfl, fun _ => Nat.even_iff.mpr heven⟩
      · next hodd =>
        have hgap : |(num : ℚ) / den - ((num / den + 1 : Nat) : ℚ)| = 1 / 2 := by
          rw [hsplit, hhalf, abs_sub_comm, abs_of_nonneg]
          · push_cast
            ring
          · push_cast
            linarith
        rw [hgap]
        refine ⟨le_rfl, fun _ => Nat.even_add_one.mpr ?_⟩
        rwa [Nat.even_iff]

/-! ## The nearest double -/


/-- A double is a whole number of units, or below fifty-two bits of them. -/
theorem Binary64.IsFinite.units {x : Binary64} (hx : x.IsFinite) (e : Int) :
    (∃ k : Int, x.value = k * 2 ^ e) ∨ -1074 < e ∧ x.value < 2 ^ 52 * 2 ^ e := by
  obtain ⟨negative, mantissa, exponent⟩ := x
  have hmantissa : (mantissa : ℚ) < 2 ^ 53 := by exact_mod_cast hx.mantissa
  have hleast : -1074 ≤ exponent := hx.least
  by_cases he : e ≤ exponent
  · obtain ⟨shift, hshift⟩ := Int.eq_ofNat_of_zero_le (show 0 ≤ exponent - e by omega)
    obtain rfl : exponent = e + shift := by omega
    refine .inl ⟨(if negative then -1 else 1) * mantissa * 2 ^ shift, ?_⟩
    rw [value, zpow_add₀ two_ne_zero, zpow_natCast]
    cases negative
    · push_cast
      ring
    · push_cast
      ring
  · refine .inr ⟨by omega, ?_⟩
    have hunit : (0 : ℚ) < 2 ^ exponent := by positivity
    have hsteps : (2 : ℚ) * 2 ^ exponent ≤ 2 ^ e := by
      rw [mul_comm, ← zpow_add_one₀ two_ne_zero]
      exact zpow_le_zpow_right₀ one_le_two (by omega)
    have hsize : (mantissa : ℚ) * 2 ^ exponent < 2 ^ 53 * 2 ^ exponent :=
      mul_lt_mul_of_pos_right hmantissa hunit
    have hmagnitude : (0 : ℚ) ≤ mantissa * 2 ^ exponent := by positivity
    cases negative with
    | false =>
      rw [value]
      simp only [Bool.false_eq_true, if_false, one_mul]
      linarith
    | true =>
      rw [value]
      simp only [if_true, neg_mul, one_mul]
      linarith

/-- As many units as a mantissa can count are a double, and so is one more. -/
theorem Binary64.exists_units {count : Nat} {e : Int} (hcount : count ≤ 2 ^ 53) (hleast : -1074 ≤ e)
    (hgreatest : e < 971) : ∃ x : Binary64, x.IsFinite ∧ x.value = count * 2 ^ e := by
  rcases Nat.lt_or_eq_of_le hcount with hless | hfull
  · refine ⟨⟨false, count, e⟩, ⟨hless, hleast, hgreatest.le⟩, ?_⟩
    simp only [value, Bool.false_eq_true, if_false, one_mul]
  · refine ⟨⟨false, 2 ^ 52, e + 1⟩, ⟨by norm_num, by dsimp only; omega, hgreatest⟩, ?_⟩
    rw [value, hfull, zpow_add_one₀ two_ne_zero]
    push_cast
    simp only [one_mul]
    ring

theorem abs_sub_le_add (v : ℚ) (z k : Int) : ((|z - k| : Int) : ℚ) ≤ |v - z| + |v - k| := by
  rw [Int.cast_abs, Int.cast_sub, abs_sub_comm v]
  exact abs_sub_le _ _ _

/-- Two integers are not both within less than a half. -/
theorem one_le_add {z k : Int} (h : z ≠ k) (v : ℚ) : 1 ≤ |v - z| + |v - k| := by
  have hapart : ((1 : Int) : ℚ) ≤ (|z - k| : Int) :=
    Int.cast_le.mpr (Int.one_le_abs (sub_ne_zero.mpr h))
  rw [Int.cast_one] at hapart
  exact hapart.trans (abs_sub_le_add v z k)

/-- An integer within a half is a nearest one. -/
theorem closest_of_half {v : ℚ} {z : Int} (h : |v - z| ≤ 1 / 2) (k : Int) : |v - z| ≤ |v - k| := by
  by_cases hsame : z = k
  · rw [hsame]
  · have hsum := one_le_add hsame v
    linarith

theorem abs_sub_units {v z unit : ℚ} (h : 0 < unit) : |v - z * unit| = |v / unit - z| * unit := by
  rw [← abs_of_pos h, ← abs_mul, abs_of_pos h, sub_mul, div_mul_cancel₀ _ h.ne']

/-- Of two nearest naturals that are both even in the middle, there is only one. -/
theorem eq_of_tie {v : ℚ} {count other : Nat} (hhalf : |v - count| ≤ 1 / 2)
    (heven : |v - count| = 1 / 2 → Even count) (hother : |v - other| ≤ |v - count|)
    (hotherEven : Even other) : count = other := by
  by_contra hne
  have hapart := one_le_add (z := count) (k := other) (Nat.cast_injective.ne hne) v
  have hsum := abs_sub_le_add v count other
  rw [Int.cast_natCast, Int.cast_natCast] at hapart hsum
  have hnext : |(count : Int) - other| ≤ 1 := by
    rw [← Int.cast_le (R := ℚ), Int.cast_one]
    linarith
  -- so they are neighbours, both half away, and only one of them is even
  obtain ⟨hlow, hhigh⟩ := abs_le.mp hnext
  obtain ⟨i, rfl⟩ := heven (by linarith)
  obtain ⟨j, rfl⟩ := hotherEven
  omega

section
variable {num den : Nat}

/-- A ratio is rounded to a whole number of units of the last bit, which is the nearest and in the
middle even. Only a unit of one or more can make it too large. -/
theorem roundRatio_spec (hnum : 0 < num) (hden : 0 < den) : ∃ count : Nat,
    |(num : ℚ) / den / 2 ^ lastBitExponent num den - count| ≤ 1 / 2 ∧
      (|(num : ℚ) / den / 2 ^ lastBitExponent num den - count| = 1 / 2 → Even count) ∧
      (∀ m e, roundRatio num den = some (m, e) →
        (m : ℚ) * 2 ^ e = count * 2 ^ lastBitExponent num den) ∧
      (lastBitExponent num den < 0 → ∃ m e, roundRatio num den = some (m, e)) := by
  obtain ⟨hpos, hscaled⟩ := scaleDown_spec num hden (lastBitExponent num den)
  have hnearest := nearestEven_spec (scaleDown num den (lastBitExponent num den)).1 hpos
  rw [hscaled] at hnearest
  refine ⟨_, hnearest.1, hnearest.2, ?_⟩
  unfold roundRatio
  rw [if_neg hnum.ne']
  dsimp only
  split
  · next hcarry =>
    rw [hcarry]
    constructor
    · intro m e h
      split at h
      · cases h
      · obtain ⟨rfl, rfl⟩ := Prod.mk.inj (Option.some.inj h)
        rw [zpow_add_one₀ two_ne_zero]
        push_cast
        ring
    · intro hsmall
      exact ⟨_, _, if_neg (by omega)⟩
  · constructor
    · intro m e h
      split at h
      · cases h
      · obtain ⟨rfl, rfl⟩ := Prod.mk.inj (Option.some.inj h)
        rfl
    · intro hsmall
      exact ⟨_, _, if_neg (by omega)⟩

/-- No double is nearer to a ratio than the one that it is rounded to. -/
theorem roundRatio_nearest (hnum : 0 < num) (hden : 0 < den) {m : Nat} {e : Int}
    (h : roundRatio num den = some (m, e)) : IsNearest ((num : ℚ) / den) (m * 2 ^ e) := by
  intro x hx
  obtain ⟨-, -, htight⟩ := lastBitExponent_spec hnum hden
  obtain ⟨count, hhalf, -, hvalue, -⟩ := roundRatio_spec hnum hden
  have hunit : (0 : ℚ) < 2 ^ lastBitExponent num den := by positivity
  rw [hvalue m e h]
  have hclosest := closest_of_half (z := count) hhalf
  rcases hx.units (lastBitExponent num den) with ⟨k, hk⟩ | ⟨hleast, hbelow⟩
  · rw [hk, abs_sub_units hunit, abs_sub_units hunit]
    exact mul_le_mul_of_nonneg_right (hclosest k) hunit.le
  · -- the ratio has all bits, so a double with smaller units lies below the binade
    have hbits := htight.resolve_left hleast.ne'
    have hedge := hclosest (2 ^ 52)
    rw [Int.cast_pow, Int.cast_ofNat, abs_of_nonneg (sub_nonneg.mpr hbits)] at hedge
    have hfar : (num : ℚ) / den / 2 ^ lastBitExponent num den - 2 ^ 52 ≤
        |(num : ℚ) / den - x.value| / 2 ^ lastBitExponent num den := by
      rw [le_div_iff₀ hunit, sub_mul, div_mul_cancel₀ _ hunit.ne']
      exact le_trans (by linarith) (le_abs_self _)
    rw [abs_sub_units hunit, ← le_div_iff₀ hunit]
    exact hedge.trans hfar

/-- A natural below 2^52 is what a ratio is rounded to, if no double is nearer to the ratio. -/
theorem roundRatio_natural (hnum : 0 < num) (hden : 0 < den) {n : Nat} (hn : n < 2 ^ 52)
    (h : IsNearest ((num : ℚ) / den) n) :
    ∃ m e, roundRatio num den = some (m, e) ∧ (m : ℚ) * 2 ^ e = n := by
  obtain ⟨hleast, hbits, htight⟩ := lastBitExponent_spec hnum hden
  obtain ⟨count, hhalf, heven, hvalue, hsmall⟩ := roundRatio_spec hnum hden
  have hunit : (0 : ℚ) < 2 ^ lastBitExponent num den := by positivity
  -- with a unit of one or more the ratio would be beyond 2^52
  have hnegative : lastBitExponent num den < 0 := by
    by_contra hnonneg
    have hlarge : (2 : ℚ) ^ 52 ≤ num / den := by
      have hone : (1 : ℚ) ≤ 2 ^ lastBitExponent num den :=
        one_le_zpow₀ one_le_two (not_lt.mp hnonneg)
      have hall := htight.resolve_left (by omega)
      rw [le_div_iff₀ hunit] at hall
      nlinarith
    exact hlarge.not_gt (h.lt_of_natural hn)
  obtain ⟨bits, hbitsEq⟩ := Int.eq_ofNat_of_zero_le (show 0 ≤ -lastBitExponent num den - 1 by omega)
  -- so the natural is an even number of units
  have hunits : (n : ℚ) = (2 * (n * 2 ^ bits) : Nat) * 2 ^ lastBitExponent num den := by
    obtain heq : lastBitExponent num den = -((bits + 1 : Nat) : Int) := by omega
    rw [heq, zpow_neg, zpow_natCast]
    push_cast
    field_simp
    ring
  obtain ⟨m, e, hround⟩ := hsmall hnegative
  have hcount : count ≤ 2 ^ 53 := by
    have hbelow := (abs_le.mp hhalf).1
    have hless : (count : ℚ) < ((2 ^ 53 + 1 : Nat) : ℚ) := by
      push_cast
      linarith
    exact Nat.lt_succ_iff.mp (Nat.cast_lt.mp hless)
  have hgap : |(num : ℚ) / den / 2 ^ lastBitExponent num den - (2 * (n * 2 ^ bits) : Nat)| ≤
      |(num : ℚ) / den / 2 ^ lastBitExponent num den - count| := by
    obtain ⟨x, hx, hxvalue⟩ := Binary64.exists_units hcount hleast (by omega)
    have hnear := h x hx
    rw [hxvalue, hunits, abs_sub_units hunit, abs_sub_units hunit] at hnear
    exact le_of_mul_le_mul_right hnear hunit
  have hsame : count = 2 * (n * 2 ^ bits) :=
    eq_of_tie hhalf heven hgap (even_two_mul _)
  refine ⟨m, e, hround, ?_⟩
  rw [hvalue m e hround, hsame, ← hunits]

/-- A ratio is rounded to a natural below 2^52 exactly if no double is nearer to the ratio. -/
theorem roundRatio_natural_iff (num : Nat) (hden : 0 < den) {n : Nat} (hn : n < 2 ^ 52) :
    (∃ m e, roundRatio num den = some (m, e) ∧ (m : ℚ) * 2 ^ e = n) ↔
      IsNearest ((num : ℚ) / den) n := by
  rcases Nat.eq_zero_or_pos num with rfl | hnum
  · rw [Nat.cast_zero, zero_div]
    constructor
    · rintro ⟨m, e, hzero, hvalue⟩
      obtain ⟨rfl, rfl⟩ := Prod.mk.inj (Option.some.inj hzero)
      rw [← hvalue, Nat.cast_zero, zero_mul]
      exact .refl 0
    · intro h
      obtain rfl := h.natural_of_nonpos le_rfl
      exact ⟨0, -1074, rfl, by simp⟩
  · constructor
    · rintro ⟨m, e, hsome, hvalue⟩
      rw [← hvalue]
      exact roundRatio_nearest hnum hden hsome
    · exact roundRatio_natural hnum hden hn

theorem Binary64.ofRatio_natural (negative : Bool) (num : Nat) (hden : 0 < den) {n : Nat}
    (hn : n < 2 ^ 52) : (∃ x, ofRatio negative num den = some x ∧ x.value = n) ↔
      IsNearest (signed negative ((num : ℚ) / den)) n := by
  rw [IsNearest.signed_iff negative (by positivity), ← roundRatio_natural_iff num hden hn]
  constructor
  · rintro ⟨x, hx, hvalue⟩
    obtain ⟨⟨m, e⟩, hround, rfl⟩ := Option.map_eq_some_iff.mp hx
    rw [value_eq_signed, signed_eq_natural (by positivity)] at hvalue
    exact ⟨⟨m, e, hround, hvalue.1⟩, hvalue.2⟩
  · rintro ⟨⟨m, e, hround, hvalue⟩, hzero⟩
    refine ⟨⟨negative, m, e⟩, by rw [ofRatio, hround]; rfl, ?_⟩
    rw [value_eq_signed, signed_eq_natural (by positivity)]
    exact ⟨hvalue, hzero⟩

end

end Stockroom

import Stockroom.Proofs.Number.Rounding

/-!
Doubles that are integers. As long as the results stay below 2^52, differences and products are not
rounded, and an integer is rounded to itself.

Main statements: `Binary64.subInt_whole`, `Binary64.mulInt_whole`, `Binary64.roundHalfAway_whole`,
`Binary64.isPositive_iff`.
-/
namespace Stockroom
set_option autoImplicit false

namespace Binary64

/-- A ratio that is a small integer becomes that integer. -/
theorem ofSignedRatio_whole {den : Nat} (hden : 0 < den) {k : Int} (hk : k.natAbs < 2 ^ 52) :
    ∃ x, ofSignedRatio (k * den) den = some x ∧ x.value = k := by
  have hratio : (((k.natAbs * den : Nat) : ℚ)) / den = (k.natAbs : Nat) := by
    rw [Nat.cast_mul, mul_div_cancel_right₀ _ (by exact_mod_cast hden.ne')]
  obtain ⟨m, e, hround, hvalue⟩ := (roundRatio_natural_iff (k.natAbs * den) hden hk).mpr
    (hratio ▸ IsNearest.refl _)
  refine ⟨⟨decide (k * den < 0), m, e⟩, ?_, ?_⟩
  · rw [ofSignedRatio, ofRatio, Int.natAbs_mul, Int.natAbs_natCast, hround]
    rfl
  · have hpos : (0 : Int) < den := by exact_mod_cast hden
    have hsign : k * den < 0 ↔ k < 0 :=
      ⟨fun hneg => neg_of_mul_neg_left hneg hpos.le, fun hneg => mul_neg_of_neg_of_pos hneg hpos⟩
    rw [value_eq_signed, hvalue]
    dsimp only
    by_cases hneg : k < 0
    · rw [decide_eq_true (hsign.mpr hneg), signed, if_pos rfl]
      have habs : ((k.natAbs : Int)) = -k := by omega
      rw [← Int.cast_natCast, habs, Int.cast_neg, neg_neg]
    · rw [decide_eq_false (hsign.not.mpr hneg), signed, if_neg Bool.false_ne_true]
      have habs : ((k.natAbs : Int)) = k := by omega
      rw [← Int.cast_natCast, habs]

variable {x : Binary64} {n : Int} (h : x.value = n)
include h

theorem signedRatio_whole : x.signedRatio.1 = n * x.signedRatio.2 := by
  have hden : (x.signedRatio.2 : ℚ) ≠ 0 := by exact_mod_cast x.signedRatio_pos.ne'
  rw [value_eq, div_eq_iff hden] at h
  exact_mod_cast h

theorem subInt_whole {i : Int} (hsmall : (n - i).natAbs < 2 ^ 52) :
    ∃ y, x.subInt i = some y ∧ y.value = ((n - i : Int) : ℚ) := by
  show ∃ y, ofSignedRatio (x.signedRatio.1 - i * x.signedRatio.2) x.signedRatio.2 = some y ∧ _
  rw [signedRatio_whole h, ← Int.sub_mul]
  exact ofSignedRatio_whole x.signedRatio_pos hsmall

theorem mulInt_whole {i : Int} (hsmall : (n * i).natAbs < 2 ^ 52) :
    ∃ y, x.mulInt i = some y ∧ y.value = ((n * i : Int) : ℚ) := by
  show ∃ y, ofSignedRatio (x.signedRatio.1 * i) x.signedRatio.2 = some y ∧ _
  rw [signedRatio_whole h, Int.mul_right_comm]
  exact ofSignedRatio_whole x.signedRatio_pos hsmall

/-- An integer is rounded to itself. -/
theorem roundHalfAway_whole : x.roundHalfAway = n := by
  have hden : 0 < x.ratio.2 := x.signedRatio_pos
  have hwhole : (if x.negative then -(x.ratio.1 : Int) else x.ratio.1) = n * x.ratio.2 :=
    signedRatio_whole h
  have hnum : x.ratio.1 = n.natAbs * x.ratio.2 := by
    have hnatAbs := congrArg Int.natAbs hwhole
    rw [Int.natAbs_mul, Int.natAbs_natCast] at hnatAbs
    rw [← hnatAbs]
    split <;> simp
  have hnearest : (2 * x.ratio.1 + x.ratio.2) / (2 * x.ratio.2) = n.natAbs := by
    rw [hnum]
    refine Nat.div_eq_of_lt_le ?_ ?_ <;> nlinarith
  show (if x.negative then -(((2 * x.ratio.1 + x.ratio.2) / (2 * x.ratio.2) : Nat) : Int)
    else ((2 * x.ratio.1 + x.ratio.2) / (2 * x.ratio.2) : Nat)) = n
  rw [hnearest]
  have hnonzero : (x.ratio.2 : Int) ≠ 0 := by exact_mod_cast hden.ne'
  refine Int.eq_of_mul_eq_mul_right hnonzero ?_
  rw [← hwhole, hnum]
  split <;> push_cast <;> ring

end Binary64

theorem Binary64.isPositive_iff {x : Binary64} : x.isPositive = true ↔ 0 < x.value := by
  have hmagnitude : 0 < (x.mantissa : ℚ) * 2 ^ x.exponent ↔ 0 < x.mantissa := by
    rw [mul_pos_iff_of_pos_right (by positivity), Nat.cast_pos]
  rw [isPositive, value_eq_signed, signed, Bool.and_eq_true, decide_eq_true_eq, ← hmagnitude]
  cases x.negative with
  | false => simp
  | true =>
    have hnonneg : 0 ≤ (x.mantissa : ℚ) * 2 ^ x.exponent := by positivity
    simpa using hnonneg

end Stockroom

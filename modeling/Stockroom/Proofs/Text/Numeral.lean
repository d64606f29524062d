import Mathlib.Algebra.Group.Nat.Defs
import Stockroom.Proofs.Text.Utf8
import Stockroom.Text.Numeral

/-!
Decimal numbers written and read again. Numbers of one width are written in the order of their
values, which is what sorting times by their texts rests on.

Main definitions and statements:
* `digitsValue_toDigits`, `readInt_ofInt`, `readInt64_ofInt`: a number is read back;
* `fixedDigits`, `padded_eq`: a number with zeros in front;
* `Precedes`, `precedes_fixedDigits`: the order of bytes is the order of numbers.
-/
namespace Stockroom
set_option autoImplicit false

/-! ## Digits -/

theorem digitValue_digitChar : ∀ d < 10, digitValue (Nat.digitChar d) = some d := by decide

theorem digitsValueFrom_append (sofar : Nat) (ds : List Char) (c : Char) :
    digitsValueFrom sofar (ds ++ [c]) =
      (digitsValueFrom sofar ds).bind fun n => (digitValue c).map (n * 10 + ·) := by
  induction ds generalizing sofar with
  | nil =>
    rw [List.nil_append, digitsValueFrom, digitsValueFrom]
    cases digitValue c with
    | none => rfl
    | some d => rfl
  | cons d ds ih =>
    rw [List.cons_append, digitsValueFrom, digitsValueFrom]
    cases digitValue d with
    | none => rfl
    | some x => exact ih (sofar * 10 + x)

theorem digitsValueFrom_toDigits (n : Nat) : digitsValueFrom 0 (Nat.toDigits 10 n) = some n := by
  induction n using Nat.strongRecOn with
  | _ n ih =>
    by_cases hsmall : n < 10
    · rw [Nat.toDigits_of_lt_base hsmall, digitsValueFrom, digitValue_digitChar n hsmall]
      simp only [digitsValueFrom, Nat.zero_mul, Nat.zero_add]
    · have hlast : n % 10 < 10 := Nat.mod_lt n (by omega)
      rw [Nat.toDigits_of_base_le (by omega) (by omega), digitsValueFrom_append,
        ih (n / 10) (by omega), digitValue_digitChar _ hlast, Option.bind_some, Option.map_some]
      congr 1
      omega

theorem digitsValue_toDigits (n : Nat) : digitsValue (Nat.toDigits 10 n) = some n := by
  unfold digitsValue
  split
  · next hnil => exact absurd hnil Nat.toDigits_ne_nil
  · exact digitsValueFrom_toDigits n

/-- A digit is no sign. -/
theorem digit_ne {c d : Char} (hc : c.isDigit = true) (hd : d.isDigit = false) : c ≠ d := by
  rintro rfl
  rw [hc] at hd
  cases hd

theorem toDigits_eq_cons (n : Nat) :
    ∃ c cs, Nat.toDigits 10 n = c :: cs ∧ c.isDigit = true ∧ ∀ d ∈ cs, d.isDigit = true := by
  have hdigits : ∀ d ∈ Nat.toDigits 10 n, d.isDigit = true :=
    fun d hd => Nat.isDigit_of_mem_toDigits (by omega) (by omega) hd
  cases hds : Nat.toDigits 10 n with
  | nil => exact absurd hds Nat.toDigits_ne_nil
  | cons c cs =>
    rw [hds] at hdigits
    exact ⟨c, cs, rfl, hdigits c (by simp), fun d hd => hdigits d (by simp [hd])⟩

/-- Only the number zero starts with the digit zero. -/
theorem toDigits_head_ne_zero {n : Nat} (h : n ≠ 0) :
    ∃ c cs, Nat.toDigits 10 n = c :: cs ∧ c ≠ '0' := by
  induction n using Nat.strongRecOn with
  | _ n ih =>
    by_cases hsmall : n < 10
    · refine ⟨Nat.digitChar n, [], Nat.toDigits_of_lt_base hsmall, ?_⟩
      have hne : ∀ d < 10, d ≠ 0 → Nat.digitChar d ≠ '0' := by decide
      exact hne n hsmall h
    · obtain ⟨c, cs, hcs, hc⟩ := ih (n / 10) (by omega) (by omega)
      refine ⟨c, cs ++ [Nat.digitChar (n % 10)], ?_, hc⟩
      rw [Nat.toDigits_of_base_le (by omega) (by omega), hcs, List.cons_append]

/-! ## Integers -/

theorem toChars_ofInt (i : Int) : (Text.ofInt i).toChars =
    if i < 0 then '-' :: Nat.toDigits 10 i.natAbs else Nat.toDigits 10 i.natAbs := by
  unfold Text.ofInt
  split
  · exact congrArg ('-' :: ·) (Text.toChars_ofChars _)
  · exact Text.toChars_ofChars _

theorem readInt_digits (n : Nat) : readInt (Nat.toDigits 10 n) = some (n : Int) := by
  obtain ⟨c, cs, hcs, hc, -⟩ := toDigits_eq_cons n
  have hvalue := digitsValue_toDigits n
  unfold readInt
  split
  · next hminus => exact absurd (List.cons.inj (hcs.symm.trans hminus)).1 (digit_ne hc (by decide))
  · next hplus => exact absurd (List.cons.inj (hcs.symm.trans hplus)).1 (digit_ne hc (by decide))
  · rw [hvalue]
    rfl

/-- An integer is read back. -/
theorem readInt_ofInt (i : Int) : readInt (Text.ofInt i).toChars = some i := by
  rw [toChars_ofInt]
  split
  · next hneg =>
    have hvalue : -(i.natAbs : Int) = i := by omega
    rw [readInt, digitsValue_toDigits]
    exact congrArg some hvalue
  · rw [readInt_digits]
    congr 1
    omega

theorem readInt64_ofInt {i : Int} (h : fitsInt64 i = true) :
    readInt64 (Text.ofInt i).toChars = some i := by
  rw [readInt64, readInt_ofInt, Option.filter_some, if_pos h]

/-! ## Numbers of one width -/

/-- The last digits of a number, so many of them. -/
def fixedDigits : Nat → Nat → List Char
  | 0, _ => []
  | width + 1, n => fixedDigits width (n / 10) ++ [Nat.digitChar (n % 10)]

theorem fixedDigits_zero (width : Nat) : fixedDigits width 0 = List.replicate width '0' := by
  induction width with
  | zero => rfl
  | succ width ih => rw [fixedDigits, ih, List.replicate_succ', Nat.digitChar]; rfl

theorem fixedDigits_eq_toDigits {width n : Nat} (hwidth : 0 < width) (h : n < 10 ^ width) :
    (Nat.toDigits 10 n).length ≤ width ∧
      fixedDigits width n =
        List.replicate (width - (Nat.toDigits 10 n).length) '0' ++ Nat.toDigits 10 n := by
  induction width generalizing n with
  | zero => omega
  | succ width ih =>
    by_cases hsmall : n < 10
    · have hdiv : n / 10 = 0 := by omega
      have hmod : n % 10 = n := by omega
      rw [Nat.toDigits_of_lt_base hsmall, fixedDigits, hdiv, hmod, fixedDigits_zero]
      exact ⟨by simp, rfl⟩
    · have hpow : n < 10 * 10 ^ width := by rwa [Nat.pow_succ, Nat.mul_comm] at h
      have hrest : 0 < width := by
        cases width with
        | zero => omega
        | succ width => omega
      obtain ⟨hlength, hdigits⟩ := ih hrest (n := n / 10) (by omega)
      rw [Nat.toDigits_of_base_le (by omega) (by omega), fixedDigits, hdigits, List.length_append,
        List.length_singleton]
      refine ⟨by omega, ?_⟩
      rw [List.append_assoc, Nat.add_sub_add_right]

/-- A number filled up with zeros has its last digits and no others. -/
theorem padded_eq {width n : Nat} (hwidth : 0 < width) (h : n < 10 ^ width) :
    Text.padded width n = Text.ofChars (fixedDigits width n) := by
  have hfixed := (fixedDigits_eq_toDigits hwidth h).2
  have hlength : (Text.ofNat n).length = (Nat.toDigits 10 n).length := List.length_map ..
  rw [Text.padded, hlength, hfixed, Text.ofChars, List.map_append, List.map_replicate]
  rfl

theorem fixedDigits_two (n : Nat) :
    fixedDigits 2 n = [Nat.digitChar (n / 10 % 10), Nat.digitChar (n % 10)] := rfl

theorem fixedDigits_four (n : Nat) :
    fixedDigits 4 n = fixedDigits 2 (n / 100) ++ fixedDigits 2 (n % 100) := by
  have hthird : n / 10 / 10 / 10 % 10 = n / 100 / 10 % 10 := by omega
  have hsecond : n / 10 / 10 % 10 = n / 100 % 10 := by omega
  have hfirst : n / 10 % 10 = n % 100 / 10 % 10 := by omega
  have hlast : n % 10 = n % 100 % 10 := by omega
  simp only [fixedDigits, List.nil_append, List.cons_append, hthird, hsecond, hfirst, hlast]

theorem fixedDigits_isDigit (width n : Nat) : ∀ c ∈ fixedDigits width n, c.isDigit = true := by
  induction width generalizing n with
  | zero => simp [fixedDigits]
  | succ width ih =>
    intro c hc
    rw [fixedDigits, List.mem_append, List.mem_singleton] at hc
    obtain hc | rfl := hc
    · exact ih (n / 10) c hc
    · have hdigit : ∀ d < 10, (Nat.digitChar d).isDigit = true := by decide
      exact hdigit _ (Nat.mod_lt n (by omega))

/-! ## The order of bytes -/

/-- Two sequences of bytes part at a smaller and a greater byte. -/
def Precedes (p q : List UInt8) : Prop :=
  ∃ common a b restP restQ, p = common ++ a :: restP ∧ q = common ++ b :: restQ ∧ a < b

namespace Precedes

variable {p q : List UInt8}

theorem append (h : Precedes p q) (s t : List UInt8) : Precedes (p ++ s) (q ++ t) := by
  obtain ⟨common, a, b, restP, restQ, rfl, rfl, hlt⟩ := h
  exact ⟨common, a, b, restP ++ s, restQ ++ t, by simp, by simp, hlt⟩

theorem prepend (h : Precedes p q) (start : List UInt8) : Precedes (start ++ p) (start ++ q) := by
  obtain ⟨common, a, b, restP, restQ, rfl, rfl, hlt⟩ := h
  exact ⟨start ++ common, a, b, restP, restQ, by simp, by simp, hlt⟩

theorem bytesLe (h : Precedes p q) : Text.bytesLe p q = true := by
  obtain ⟨common, a, b, restP, restQ, rfl, rfl, hlt⟩ := h
  induction common with
  | nil => simp [Text.bytesLe, hlt]
  | cons c common ih => simp [Text.bytesLe, ih]

end Precedes

namespace Text

theorem bytes_append (s t : Text) : (s ++ t).bytes = s.bytes ++ t.bytes := List.flatMap_append ..

theorem ofChars_append (cs ds : List Char) : ofChars (cs ++ ds) = ofChars cs ++ ofChars ds :=
  List.map_append ..

end Text

theorem bytes_digit : ∀ d < 10, String.utf8EncodeChar (Nat.digitChar d) = [UInt8.ofNat (48 + d)] := by
  decide

theorem digit_precedes : ∀ d < 10, ∀ e < 10, d < e →
    Precedes (String.utf8EncodeChar (Nat.digitChar d)) (String.utf8EncodeChar (Nat.digitChar e)) := by
  intro d hd e he hlt
  rw [bytes_digit d hd, bytes_digit e he]
  refine ⟨[], _, _, [], [], rfl, rfl, ?_⟩
  rw [UInt8.lt_iff_toNat_lt, Text.toNat_ofNat_small (by omega), Text.toNat_ofNat_small (by omega)]
  omega

/-- Of two numbers of one width the smaller one comes first. -/
theorem precedes_fixedDigits {width m n : Nat} (hn : n < 10 ^ width) (h : m < n) :
    Precedes (Text.ofChars (fixedDigits width m)).bytes
      (Text.ofChars (fixedDigits width n)).bytes := by
  induction width generalizing m n with
  | zero => omega
  | succ width ih =>
    have hpow : n < 10 * 10 ^ width := by rwa [Nat.pow_succ, Nat.mul_comm] at hn
    rw [fixedDigits, fixedDigits, Text.ofChars_append, Text.ofChars_append, Text.bytes_append,
      Text.bytes_append]
    by_cases hdiv : m / 10 < n / 10
    · exact (ih (by omega) hdiv).append _ _
    · have hsame : m / 10 = n / 10 := by omega
      have hlast := digit_precedes (m % 10) (by omega) (n % 10) (by omega) (by omega)
      rw [hsame]
      simpa [Text.ofChars, Text.bytes, Glyph.bytes] using hlast.prepend _

end Stockroom

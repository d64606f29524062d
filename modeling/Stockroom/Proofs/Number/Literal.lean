import Mathlib.Data.Nat.Digits.Defs
import Stockroom.Number.Literal
import Stockroom.Proofs.Number.Rounding
import Stockroom.Proofs.Text.Numeral

/-!
Decimal numerals as they are written, and what is read of them. A numeral stands for a rational, of any
length and with any exponent. It is read as the double nearest to that rational, but for one thing: of an
exponent no more is read than its first five digits, zeros in front not counted. That changes what is
nearest only where the other digits are thousands.

Main definitions and statements:
* `WrittenDecimal`, `WrittenDecimal.written`: a numeral, and its characters;
* `WrittenDecimal.value`, `WrittenDecimal.read`: what it stands for, and what is read of it;
* `decimalValue_natural`: the powers of ten that are read as a natural below 2^52;
* `readNumeral_written`: a written numeral is taken apart as it was put together;
* `readDouble_written`: the numerals that are read as a natural below 2^52;
* `WrittenDecimal.Modest`, `WrittenDecimal.Modest.nearest_iff`: where reading all of the exponent would
  change nothing.
-/
namespace Stockroom
set_option autoImplicit false

/-! ## Written numerals -/

/-- The number that digits stand for, after some that were read before. -/
def digitsNumberFrom (sofar : Nat) : List (Fin 10) → Nat
  | [] => sofar
  | d :: ds => digitsNumberFrom (sofar * 10 + d) ds

def digitsNumber (ds : List (Fin 10)) : Nat := digitsNumberFrom 0 ds

/-- What is read of the digits of an exponent. -/
def digitsReadFrom (sofar : Nat) : List (Fin 10) → Nat
  | [] => sofar
  | d :: ds => digitsReadFrom (if sofar < 10000 then sofar * 10 + d else sofar) ds

def digitsRead (ds : List (Fin 10)) : Nat := digitsReadFrom 0 ds

def digitChar (d : Fin 10) : Char := Nat.digitChar d

def digitChars (ds : List (Fin 10)) : List Char := ds.map digitChar

inductive WrittenSign where
  | none
  | plus
  | minus
  deriving DecidableEq, Repr

namespace WrittenSign

def chars : WrittenSign → List Char
  | none => []
  | plus => ['+']
  | minus => ['-']

def negative (s : WrittenSign) : Bool := s == minus

/-- A number with this sign in front. -/
def apply (s : WrittenSign) (n : Nat) : Int := if s.negative then -(n : Int) else n

end WrittenSign

/-- An exponent with its mark. -/
structure WrittenPower where
  capital : Bool
  sign : WrittenSign
  digits : List (Fin 10)
  nonempty : digits ≠ []

def WrittenPower.chars (p : WrittenPower) : List Char :=
  (if p.capital then 'E' else 'e') :: (p.sign.chars ++ digitChars p.digits)

/-- A decimal numeral: a sign, digits, a point with digits after it, and an exponent, of which only some
digit must be there. -/
structure WrittenDecimal where
  sign : WrittenSign
  whole : List (Fin 10)
  fraction : Option (List (Fin 10))
  power : Option WrittenPower
  nonempty : whole ++ fraction.getD [] ≠ []

namespace WrittenDecimal

variable (d : WrittenDecimal)

/-- The digits before and after the point. -/
def digits : List (Fin 10) := d.whole ++ d.fraction.getD []

/-- How many digits stand after the point. -/
def scale : Nat := (d.fraction.getD []).length

def fractionChars : List Char :=
  match d.fraction with
  | none => []
  | some ds => '.' :: digitChars ds

def powerChars : List Char := (d.power.map WrittenPower.chars).getD []

def unsignedChars : List Char := digitChars d.whole ++ (d.fractionChars ++ d.powerChars)

/-- The characters of the numeral. -/
def written : List Char := d.sign.chars ++ d.unsignedChars

def exponent : Int :=
  match d.power with
  | none => 0
  | some p => p.sign.apply (digitsNumber p.digits)

/-- What is read of the exponent. -/
def exponentRead : Int :=
  match d.power with
  | none => 0
  | some p => p.sign.apply (digitsRead p.digits)

/-- What the numeral stands for with an exponent in place of its own. -/
def valueAt (e : Int) : ℚ :=
  signed d.sign.negative
    ((digitsNumber d.whole + digitsNumber (d.fraction.getD []) / 10 ^ d.scale) * 10 ^ e)

/-- What the numeral stands for. -/
def value : ℚ := d.valueAt d.exponent

/-- What the numeral stands for as far as its exponent is read. -/
def read : ℚ := d.valueAt d.exponentRead

end WrittenDecimal

/-! ## Digits -/

theorem digitsNumberFrom_eq (sofar : Nat) (ds : List (Fin 10)) :
    digitsNumberFrom sofar ds = sofar * 10 ^ ds.length + digitsNumber ds := by
  induction ds generalizing sofar with
  | nil => simp [digitsNumberFrom, digitsNumber]
  | cons d ds ih =>
    rw [digitsNumber, digitsNumberFrom, digitsNumberFrom, ih, ih (0 * 10 + d), List.length_cons,
      pow_succ]
    ring

theorem digitsNumber_append (ds es : List (Fin 10)) :
    digitsNumber (ds ++ es) = digitsNumber ds * 10 ^ es.length + digitsNumber es := by
  have happend (sofar : Nat) :
      digitsNumberFrom sofar (ds ++ es) = digitsNumberFrom (digitsNumberFrom sofar ds) es := by
    induction ds generalizing sofar with
    | nil => rfl
    | cons d ds ih => exact ih _
  rw [digitsNumber, happend, digitsNumberFrom_eq]
  rfl

theorem digitsNumber_lt (ds : List (Fin 10)) : digitsNumber ds < 10 ^ ds.length := by
  induction ds with
  | nil => exact Nat.one_pos
  | cons d ds ih =>
    have hfirst : (d : Nat) * 10 ^ ds.length ≤ 9 * 10 ^ ds.length :=
      Nat.mul_le_mul_right _ (Nat.le_of_lt_succ d.isLt)
    rw [digitsNumber, digitsNumberFrom, Nat.zero_mul, Nat.zero_add, digitsNumberFrom_eq,
      List.length_cons, pow_succ]
    omega

/-- Five digits are read whole, and of more digits at least five are read. -/
theorem digitsRead_spec (ds : List (Fin 10)) :
    digitsRead ds = digitsNumber ds ∨ 10000 ≤ digitsRead ds ∧ 100000 ≤ digitsNumber ds := by
  -- from a number below 10000 both readings go the same way
  have hfrom (sofar number : Nat) (h : sofar = number ∨ 10000 ≤ sofar ∧ 100000 ≤ number) :
      digitsReadFrom sofar ds = digitsNumberFrom number ds ∨
        10000 ≤ digitsReadFrom sofar ds ∧ 100000 ≤ digitsNumberFrom number ds := by
    induction ds generalizing sofar number with
    | nil => exact h
    | cons d ds ih =>
      refine ih _ _ ?_
      split
      · omega
      · omega
  exact hfrom 0 0 (.inl rfl)

theorem mantissaDigit_digitChar : ∀ d, mantissaDigit false (digitChar d) = some (d : Nat) := by
  decide

theorem digitChar_plain : ∀ d, digitChar d ∉ ['_', '.', 'x', 'X', '+', '-'] := by decide

theorem digitChars_plain {ds : List (Fin 10)} {c : Char}
    (hc : c ∈ ['_', '.', 'x', 'X', '+', '-']) : c ∉ digitChars ds := by
  intro hmem
  obtain ⟨d, -, rfl⟩ := List.mem_map.mp hmem
  exact digitChar_plain d hc

/-! ## Reading the mantissa -/

theorem readMantissa_digits (m : Mantissa) (ds : List (Fin 10)) (rest : List Char) :
    readMantissa false m (digitChars ds ++ rest) = readMantissa false
      { m with
        digits := digitsNumberFrom m.digits ds
        scale := if m.sawPoint then m.scale + ds.length else m.scale
        sawDigit := m.sawDigit || !ds.isEmpty } rest := by
  induction ds generalizing m with
  | nil =>
    obtain ⟨digits, scale, sawPoint, sawDigit⟩ := m
    cases sawPoint <;> simp [digitChars, digitsNumberFrom]
  | cons d ds ih =>
    have hplain := digitChar_plain d
    simp only [List.mem_cons, not_or] at hplain
    have hcons : digitChars (d :: ds) ++ rest = digitChar d :: (digitChars ds ++ rest) := rfl
    rw [hcons, readMantissa, if_neg (by simpa using hplain.1), if_neg (by simpa using hplain.2.1),
      mantissaDigit_digitChar]
    dsimp only
    rw [ih]
    obtain ⟨digits, scale, sawPoint, sawDigit⟩ := m
    cases sawPoint <;> simp [digitsNumberFrom, Nat.add_assoc, Nat.add_comm 1]

/-- An exponent ends the mantissa. -/
theorem readMantissa_power (m : Mantissa) (power : Option WrittenPower) :
    readMantissa false m ((power.map WrittenPower.chars).getD []) =
      (m, (power.map WrittenPower.chars).getD []) := by
  cases power with
  | none => rfl
  | some p =>
    have hmark : p.chars = 'E' :: (p.sign.chars ++ digitChars p.digits) ∨
        p.chars = 'e' :: (p.sign.chars ++ digitChars p.digits) := by
      rw [WrittenPower.chars]
      cases p.capital
      · exact .inr rfl
      · exact .inl rfl
    rw [Option.map_some, Option.getD_some]
    rcases hmark with hmark | hmark
    · rw [hmark]
      rfl
    · rw [hmark]
      rfl

/-- A mantissa is read as the number of its digits and how many of them stand after the point. -/
theorem readMantissa_written (d : WrittenDecimal) :
    readMantissa false {} d.unsignedChars =
      (⟨digitsNumber d.digits, d.scale, d.fraction.isSome, true⟩, d.powerChars) := by
  obtain ⟨sign, whole, fraction, power, hnonempty⟩ := d
  rw [WrittenDecimal.unsignedChars, readMantissa_digits]
  cases fraction with
  | none =>
    have hwhole : (!whole.isEmpty) = true := by simpa using hnonempty
    have hdigits : digitsNumberFrom 0 whole = digitsNumber (whole ++ []) := by
      rw [List.append_nil]
      rfl
    rw [WrittenDecimal.fractionChars, List.nil_append, WrittenDecimal.powerChars, readMantissa_power,
      hwhole, hdigits]
    rfl
  | some ds =>
    have hdigit : (!whole.isEmpty || !ds.isEmpty) = true := by
      simpa [imp_iff_not_or] using hnonempty
    have hdigits : digitsNumberFrom (digitsNumberFrom 0 whole) ds = digitsNumber (whole ++ ds) := by
      rw [digitsNumberFrom_eq, digitsNumber_append]
      rfl
    rw [WrittenDecimal.fractionChars, List.cons_append, readMantissa, if_neg (by decide),
      if_pos (by decide), if_neg Bool.false_ne_true, readMantissa_digits, WrittenDecimal.powerChars,
      readMantissa_power]
    dsimp only
    rw [hdigits, if_pos rfl, Bool.false_or, hdigit]
    simp [WrittenDecimal.scale, WrittenDecimal.digits]

/-! ## Reading the exponent -/

theorem digitValue_eq (d : Fin 10) : digitValue (digitChar d) = some (d : Nat) :=
  digitValue_digitChar d d.isLt

theorem exponentValue_digits (sofar : Nat) (ds : List (Fin 10)) :
    exponentValue sofar (digitChars ds) = some (digitsReadFrom sofar ds) := by
  induction ds generalizing sofar with
  | nil => rfl
  | cons d ds ih =>
    have hplain := digitChar_plain d
    simp only [List.mem_cons, not_or] at hplain
    have hcons : digitChars (d :: ds) = digitChar d :: digitChars ds := rfl
    rw [hcons, exponentValue, if_neg (by simpa using hplain.1), digitValue_eq]
    exact ih _

theorem readPower_digits {ds : List (Fin 10)} (h : ds ≠ []) :
    readPower (digitChars ds) = some (digitsRead ds) := by
  cases ds with
  | nil => exact absurd rfl h
  | cons d ds =>
    have hcons : digitChars (d :: ds) = digitChar d :: digitChars ds := rfl
    rw [hcons, readPower, digitValue_eq, Option.isSome_some, if_pos rfl, ← hcons,
      exponentValue_digits]
    rfl

theorem readSignedPower_written (p : WrittenPower) :
    readSignedPower (p.sign.chars ++ digitChars p.digits) =
      some (p.sign.apply (digitsRead p.digits)) := by
  have hread := readPower_digits p.nonempty
  cases hsign : p.sign with
  | plus =>
    rw [WrittenSign.chars, List.singleton_append, readSignedPower, hread]
    rfl
  | minus =>
    rw [WrittenSign.chars, List.singleton_append, readSignedPower, hread]
    rfl
  | none =>
    rw [WrittenSign.chars, List.nil_append, readSignedPower, hread]
    · rfl
    · intro rest h
      exact digitChars_plain (c := '+') (by decide) (h ▸ List.mem_cons_self)
    · intro rest h
      exact digitChars_plain (c := '-') (by decide) (h ▸ List.mem_cons_self)

/-! ## Reading the numeral -/

theorem readDecimal_written (d : WrittenDecimal) (negative : Bool) :
    readDecimal negative d.unsignedChars =
      some ⟨negative, false, digitsNumber d.digits, d.scale, d.exponentRead⟩ := by
  rw [readDecimal, readMantissa_written]
  dsimp only
  rw [if_neg (by decide), WrittenDecimal.powerChars, WrittenDecimal.exponentRead]
  cases d.power with
  | none => rfl
  | some p =>
    rw [Option.map_some, Option.getD_some, WrittenPower.chars]
    dsimp only
    rw [readSignedPower_written, if_pos (by cases p.capital <;> rfl)]
    rfl

theorem powerChars_plain {c : Char} (hdigits : ∀ ds, c ∉ digitChars ds)
    (hmarks : c ∉ ['e', 'E', '+', '-']) (p : WrittenPower) : c ∉ p.chars := by
  simp only [List.mem_cons, List.not_mem_nil, or_false, not_or] at hmarks
  obtain ⟨hsmall, hlarge, hplus, hminus⟩ := hmarks
  obtain ⟨capital, sign, digits, hnonempty⟩ := p
  rw [WrittenPower.chars, List.mem_cons, List.mem_append, not_or, not_or]
  refine ⟨?_, ?_, hdigits digits⟩
  · cases capital
    · exact hsmall
    · exact hlarge
  · cases sign with
    | none => exact List.not_mem_nil
    | plus => simpa [WrittenSign.chars] using hplus
    | minus => simpa [WrittenSign.chars] using hminus

/-- No underscore and no mark of another base stands in a decimal numeral. -/
theorem unsignedChars_plain (d : WrittenDecimal) {c : Char} (hc : c ∈ ['_', 'x', 'X']) :
    c ∉ d.unsignedChars := by
  have hnumeral : ['_', 'x', 'X'] ⊆ ['_', '.', 'x', 'X', '+', '-'] := by simp
  have hmarks : ['_', 'x', 'X'].Disjoint ['e', 'E', '+', '-'] := by simp
  have hpoint : c ≠ '.' := by rintro rfl; simp at hc
  have hdigits (ds : List (Fin 10)) : c ∉ digitChars ds := digitChars_plain (hnumeral hc)
  obtain ⟨sign, whole, fraction, power, hnonempty⟩ := d
  rw [WrittenDecimal.unsignedChars, List.mem_append, List.mem_append, not_or, not_or]
  refine ⟨hdigits whole, ?_, ?_⟩
  · cases fraction with
    | none => exact List.not_mem_nil
    | some ds => exact List.not_mem_cons_of_ne_of_not_mem hpoint (hdigits ds)
  · cases power with
    | none => exact List.not_mem_nil
    | some p => exact powerChars_plain hdigits (hmarks hc) p

theorem underscoresStand_of_not_mem {hex : Bool} {last : LastSeen} {cs : List Char}
    (h : '_' ∉ cs) (hlast : last ≠ .underscore) : underscoresStand hex last cs = true := by
  induction cs generalizing last with
  | nil => simpa [underscoresStand] using hlast
  | cons c rest ih =>
    obtain ⟨hfirst, hrest⟩ := List.ne_and_not_mem_of_not_mem_cons h
    have hnext : ∀ next : LastSeen, next ≠ .underscore → underscoresStand hex next rest = true :=
      fun next => ih hrest
    rw [underscoresStand]
    split
    · exact hnext .digit (by decide)
    · rw [if_neg (by simpa using Ne.symm hfirst), hnext .other (by decide)]
      simpa using hlast

theorem toLower_ne_underscore {c : Char} (h : '_' ≠ c) : '_' ≠ c.toLower := by
  unfold Char.toLower
  split
  · next hupper =>
    -- only the question mark would become an underscore, and it is no letter
    intro heq
    have hval : (95 : UInt32) = c.val + 32 := congrArg Char.val heq
    have hc : c.val = 95 - 32 := by rw [hval, UInt32.add_sub_cancel]
    rw [hc] at hupper
    exact absurd hupper.1 (by decide)
  · exact h

theorem underscoresOk_of_not_mem {cs : List Char} (h : '_' ∉ cs) : underscoresOk cs = true := by
  unfold underscoresOk
  split
  · next c rest =>
    obtain ⟨hzero, hsecond, hrest⟩ : '_' ≠ '0' ∧ '_' ≠ c ∧ '_' ∉ rest := by simpa using h
    have hlower : '_' ∉ '0' :: c.toLower :: rest := by
      simpa using ⟨toLower_ne_underscore hsecond, hrest⟩
    dsimp only
    split
    · exact underscoresStand_of_not_mem hrest (by decide)
    · split
      · exact underscoresStand_of_not_mem hrest (by decide)
      · exact underscoresStand_of_not_mem hlower (by decide)
  · exact underscoresStand_of_not_mem h (by decide)

theorem readUnsignedNumeral_written (d : WrittenDecimal) (negative : Bool) :
    readUnsignedNumeral negative d.unsignedChars =
      some ⟨negative, false, digitsNumber d.digits, d.scale, d.exponentRead⟩ := by
  rw [readUnsignedNumeral,
    if_pos (underscoresOk_of_not_mem (unsignedChars_plain d (by decide)))]
  · exact readDecimal_written d negative
  · intro c rest h
    exact unsignedChars_plain d (c := 'x') (by decide) (h ▸ by simp)
  · intro c rest h
    exact unsignedChars_plain d (c := 'X') (by decide) (h ▸ by simp)

/-- A numeral without a sign starts with a digit or with the point. -/
theorem unsignedChars_ne_sign (d : WrittenDecimal) {c : Char} (hc : c ∈ ['+', '-'])
    (rest : List Char) : d.unsignedChars ≠ c :: rest := by
  have hmark : ['+', '-'] ⊆ ['_', '.', 'x', 'X', '+', '-'] := by simp
  have hpoint : c ≠ '.' := by rintro rfl; simp at hc
  obtain ⟨sign, whole, fraction, power, hnonempty⟩ := d
  intro hstart
  cases whole with
  | cons first more =>
    obtain ⟨rfl, -⟩ := List.cons.inj hstart
    exact digitChar_plain first (hmark hc)
  | nil =>
    cases fraction with
    | none => exact hnonempty rfl
    | some ds =>
      obtain ⟨rfl, -⟩ := List.cons.inj hstart
      exact hpoint rfl

/-- A written numeral is taken apart as it was put together, but for a long exponent. -/
theorem readNumeral_written (d : WrittenDecimal) : readNumeral d.written =
    some ⟨d.sign.negative, false, digitsNumber d.digits, d.scale, d.exponentRead⟩ := by
  have hread := readUnsignedNumeral_written d d.sign.negative
  have hplus := unsignedChars_ne_sign d (c := '+') (by decide)
  have hminus := unsignedChars_ne_sign d (c := '-') (by decide)
  have hwritten : d.written = d.sign.chars ++ d.unsignedChars := rfl
  cases hsign : d.sign with
  | none =>
    rw [hsign] at hread hwritten
    rw [hwritten, WrittenSign.chars, List.nil_append, readNumeral]
    · exact hread
    · exact hminus
    · exact hplus
  | plus =>
    rw [hsign] at hread hwritten
    rw [hwritten]
    exact hread
  | minus =>
    rw [hsign] at hread hwritten
    rw [hwritten]
    exact hread

/-! ## Powers of ten -/

section
variable {negative : Bool} {magnitude : ℚ} {n : Nat}

theorem not_nearest_of_huge (hn : n < 2 ^ 52) (h : 2 ^ 52 ≤ magnitude) :
    ¬ IsNearest (signed negative magnitude) n := by
  intro hnearest
  have hnonneg : 0 ≤ magnitude := le_trans (by positivity) h
  exact h.not_gt (((IsNearest.signed_iff negative hnonneg).mp hnearest).1.lt_of_natural hn)

theorem nearest_iff_of_tiny (hnonneg : 0 ≤ magnitude) (h : magnitude ≤ 2 ^ (-1075 : Int)) :
    IsNearest (signed negative magnitude) n ↔ n = 0 := by
  refine IsNearest.natural_iff_of_tiny ?_
  rwa [abs_signed, abs_of_nonneg hnonneg]

end

theorem length_toDigits_spec {n : Nat} (h : 0 < n) :
    (10 : ℚ) ^ ((Nat.toDigits 10 n).length - 1 : Int) ≤ n ∧
      (n : ℚ) < 10 ^ ((Nat.toDigits 10 n).length : Int) := by
  have hlength : 0 < (Nat.toDigits 10 n).length := List.length_pos_iff.mpr Nat.toDigits_ne_nil
  obtain ⟨k, hk⟩ := Nat.exists_eq_add_of_lt hlength
  rw [Nat.zero_add] at hk
  have hhigh : n < 10 ^ (k + 1) :=
    (Nat.length_toDigits_le_iff (by decide) (Nat.succ_pos k)).mp hk.le
  have hlow : 10 ^ k ≤ n := by
    rcases Nat.eq_zero_or_pos k with rfl | hpos
    · exact h
    · by_contra hless
      have := (Nat.length_toDigits_le_iff (b := 10) (by decide) hpos).mpr (not_le.mp hless)
      omega
  rw [hk, Nat.cast_succ, add_sub_cancel_right, zpow_natCast]
  exact ⟨by exact_mod_cast hlow, by exact_mod_cast hhigh⟩

theorem ten_power_tiny : (10 : ℚ) ^ (-325 : Int) ≤ 2 ^ (-1075 : Int) := by
  have hten : (10 : ℚ) ^ (-325 : Int) = ((10 ^ 13) ^ 25)⁻¹ := by rw [← pow_mul]; rfl
  have htwo : (2 : ℚ) ^ (-1075 : Int) = ((2 ^ 43) ^ 25)⁻¹ := by rw [← pow_mul]; rfl
  rw [hten, htwo]
  exact inv_anti₀ (by positivity) (pow_le_pow_left₀ (by positivity) (by norm_num) 25)

/-- A power of ten is read as a natural below 2^52 exactly if no double is nearer to it. -/
theorem decimalValue_natural (negative : Bool) (digits : Nat) (power : Int) {n : Nat}
    (hn : n < 2 ^ 52) : (∃ x, decimalValue negative digits power = some x ∧ x.value = n) ↔
      IsNearest (signed negative (digits * 10 ^ power)) n := by
  have hten : (10 : ℚ) ≠ 0 := by norm_num
  have hzero : (∃ x, some ({ Binary64.zero with negative } : Binary64) = some x ∧ x.value = n) ↔
      n = 0 := by
    have hvalue : ({ Binary64.zero with negative } : Binary64).value = 0 := by
      simp [Binary64.value, Binary64.zero]
    simp only [Option.some.injEq, exists_eq_left', hvalue]
    rw [eq_comm]
    exact_mod_cast Iff.rfl
  unfold decimalValue
  dsimp only
  split
  · next hdigits =>
    rw [hzero, hdigits, Nat.cast_zero, zero_mul]
    exact (nearest_iff_of_tiny le_rfl (by positivity)).symm
  · next hdigits =>
    obtain ⟨hlow, hhigh⟩ := length_toDigits_spec (Nat.pos_of_ne_zero hdigits)
    have hpower : (0 : ℚ) < 10 ^ power := by positivity
    split
    · next hlarge =>
      -- the value is at least 10^309
      have hhuge : (2 : ℚ) ^ 52 ≤ digits * 10 ^ power := by
        calc (2 : ℚ) ^ 52 ≤ 10 ^ (16 : Int) := by norm_num
          _ ≤ 10 ^ (309 : Int) := zpow_le_zpow_right₀ (by norm_num) (by decide)
          _ ≤ 10 ^ ((Nat.toDigits 10 digits).length - 1 + power : Int) :=
            zpow_le_zpow_right₀ (by norm_num) hlarge
          _ = 10 ^ ((Nat.toDigits 10 digits).length - 1 : Int) * 10 ^ power := zpow_add₀ hten _ _
          _ ≤ digits * 10 ^ power := mul_le_mul_of_nonneg_right hlow hpower.le
      refine iff_of_false ?_ (not_nearest_of_huge hn hhuge)
      rintro ⟨_, ⟨⟩, -⟩
    · split
      · next hsmall =>
        -- the value is at most 10^-325
        have htiny : (digits : ℚ) * 10 ^ power ≤ 2 ^ (-1075 : Int) := by
          calc (digits : ℚ) * 10 ^ power
              ≤ 10 ^ ((Nat.toDigits 10 digits).length : Int) * 10 ^ power :=
                mul_le_mul_of_nonneg_right hhigh.le hpower.le
            _ = 10 ^ ((Nat.toDigits 10 digits).length + power : Int) := (zpow_add₀ hten _ _).symm
            _ ≤ 10 ^ (-325 : Int) := zpow_le_zpow_right₀ (by norm_num) hsmall
            _ ≤ 2 ^ (-1075 : Int) := ten_power_tiny
        rw [hzero, nearest_iff_of_tiny (by positivity) htiny]
      · split
        · next hsign =>
          obtain ⟨k, rfl⟩ := Int.eq_ofNat_of_zero_le hsign
          have hpow : ((Nat.pow 10 k : Nat) : ℚ) = 10 ^ k := Nat.cast_pow 10 k
          rw [Binary64.ofRatio_natural negative _ Nat.one_pos hn, Int.toNat_natCast, Nat.cast_mul,
            hpow, Nat.cast_one, div_one, zpow_natCast]
        · next hsign =>
          obtain ⟨k, hk⟩ := Int.eq_ofNat_of_zero_le (show 0 ≤ -power by omega)
          obtain rfl : power = -(k : Int) := by omega
          have hpow : ((Nat.pow 10 k : Nat) : ℚ) = 10 ^ k := Nat.cast_pow 10 k
          have hpos : 0 < Nat.pow 10 k := Nat.pow_pos (by decide)
          rw [neg_neg, Int.toNat_natCast, Binary64.ofRatio_natural negative _ hpos hn, hpow,
            zpow_neg, zpow_natCast, div_eq_mul_inv]

/-! ## The number of a numeral -/

namespace WrittenDecimal

variable (d : WrittenDecimal)

theorem valueAt_eq (e : Int) :
    d.valueAt e = signed d.sign.negative (digitsNumber d.digits * 10 ^ (e - d.scale)) := by
  have hdigits : (digitsNumber d.digits : ℚ) =
      digitsNumber d.whole * 10 ^ d.scale + digitsNumber (d.fraction.getD []) := by
    rw [digits, digitsNumber_append]
    push_cast
    rfl
  have hten : (10 : ℚ) ^ d.scale ≠ 0 := by positivity
  rw [valueAt, hdigits, zpow_sub₀ (by norm_num), zpow_natCast]
  congr 1
  field_simp

/-- A numeral is read as a natural below 2^52 exactly if no double is nearer to what is read of it. -/
theorem readDouble_written {n : Nat} (hn : n < 2 ^ 52) :
    (∃ x, readDouble d.written = some x ∧ x.value = n) ↔ IsNearest d.read n := by
  have hread : readDouble d.written =
      decimalValue d.sign.negative (digitsNumber d.digits) (d.exponentRead - d.scale) := by
    rw [readDouble, readNumeral_written]
    rfl
  rw [hread, decimalValue_natural _ _ _ hn, read, valueAt_eq]

/-- Of the exponent nothing is left out, or what is left out does not matter: a mantissa of no more
than so many digits cannot make up for it. -/
def Modest : Prop := d.exponent.natAbs < 100000 ∨ d.digits.length ≤ 9000

theorem scale_le : d.scale ≤ d.digits.length := by
  rw [scale, digits, List.length_append]
  exact Nat.le_add_left _ _

/-- The exponent is read whole, or five digits of it, with its sign. -/
theorem exponentRead_spec : d.exponentRead = d.exponent ∨
    (10000 ≤ d.exponentRead ∧ 100000 ≤ d.exponent) ∨
      (d.exponentRead ≤ -10000 ∧ d.exponent ≤ -100000) := by
  rw [exponentRead, exponent]
  cases d.power with
  | none => exact .inl rfl
  | some p =>
    dsimp only [WrittenSign.apply]
    rcases digitsRead_spec p.digits with hall | ⟨hread, hnumber⟩
    · rw [hall]
      exact .inl rfl
    · cases p.sign.negative
      · simp only [Bool.false_eq_true, if_false]
        omega
      · simp only [if_true]
        omega

/-- A large exponent makes a short mantissa huge. -/
theorem huge_of_exponent (hdigits : d.digits.length ≤ 9000) (hnonzero : digitsNumber d.digits ≠ 0)
    {e : Int} (he : 10000 ≤ e) : (2 : ℚ) ^ 52 ≤ digitsNumber d.digits * 10 ^ (e - d.scale) := by
  have hscale := d.scale_le
  have hone : (1 : ℚ) ≤ digitsNumber d.digits := by
    exact_mod_cast Nat.one_le_iff_ne_zero.mpr hnonzero
  calc (2 : ℚ) ^ 52 ≤ 10 ^ (16 : Int) := by norm_num
    _ ≤ 10 ^ (e - d.scale) := zpow_le_zpow_right₀ (by norm_num) (by omega)
    _ ≤ digitsNumber d.digits * 10 ^ (e - d.scale) :=
      le_mul_of_one_le_left (by positivity) hone

/-- A small exponent makes a short mantissa tiny. -/
theorem tiny_of_exponent (hdigits : d.digits.length ≤ 9000) {e : Int} (he : e ≤ -10000) :
    (digitsNumber d.digits : ℚ) * 10 ^ (e - d.scale) ≤ 2 ^ (-1075 : Int) := by
  have hless : (digitsNumber d.digits : ℚ) ≤ 10 ^ (d.digits.length : Int) := by
    rw [zpow_natCast]
    exact_mod_cast (digitsNumber_lt d.digits).le
  calc (digitsNumber d.digits : ℚ) * 10 ^ (e - d.scale)
      ≤ 10 ^ (d.digits.length : Int) * 10 ^ (e - d.scale) :=
        mul_le_mul_of_nonneg_right hless (by positivity)
    _ = 10 ^ (d.digits.length + (e - d.scale) : Int) := (zpow_add₀ (by norm_num) _ _).symm
    _ ≤ 10 ^ (-325 : Int) := zpow_le_zpow_right₀ (by norm_num) (by omega)
    _ ≤ 2 ^ (-1075 : Int) := ten_power_tiny

/-- Where what is left out of the exponent does not matter, the same naturals are nearest. -/
theorem Modest.nearest_iff {d : WrittenDecimal} (h : d.Modest) {n : Nat} (hn : n < 2 ^ 52) :
    IsNearest d.read n ↔ IsNearest d.value n := by
  rcases d.exponentRead_spec with hall | hlong
  · rw [read, value, hall]
  · have hdigits : d.digits.length ≤ 9000 := h.resolve_left (by omega)
    rw [read, value, valueAt_eq, valueAt_eq]
    by_cases hzero : digitsNumber d.digits = 0
    · rw [hzero, Nat.cast_zero, zero_mul, zero_mul]
    · rcases hlong with ⟨hread, hexact⟩ | ⟨hread, hexact⟩
      · exact iff_of_false (not_nearest_of_huge hn (d.huge_of_exponent hdigits hzero hread))
          (not_nearest_of_huge hn (d.huge_of_exponent hdigits hzero (by omega)))
      · rw [nearest_iff_of_tiny (by positivity) (d.tiny_of_exponent hdigits hread),
          nearest_iff_of_tiny (by positivity) (d.tiny_of_exponent hdigits (by omega))]

end WrittenDecimal

end Stockroom

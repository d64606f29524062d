import Stockroom.Proofs.Json.RoundTrip
import Stockroom.Proofs.Number.Literal

/-!
Number literals as JSON has them, and what is read of them. A literal of any form is one value of a
text. It is an integer of sixty-four bits only if it has neither a fraction nor an exponent, and then
the integer it spells.

Main definitions and statements:
* `Json.WrittenNumber`, `Json.WrittenNumber.chars`: a literal, and its characters;
* `Json.WrittenNumber.int64?`: the integer it is;
* `Json.read_written`: a literal is read whole;
* `Json.readInt64_written`: an integer is read of the literals that are one.
-/
namespace Stockroom
set_option autoImplicit false

namespace Json

/-! ## Literals -/

/-- A number literal: a sign, the digits of a number without zeros in front, perhaps digits after a
point, and perhaps an exponent. -/
structure WrittenNumber where
  negative : Bool
  whole : Nat
  fraction : Option (List (Fin 10))
  power : Option WrittenPower
  nonempty : ∀ ds ∈ fraction, ds ≠ []

namespace WrittenNumber

variable (w : WrittenNumber)

def fractionChars : List Char :=
  match w.fraction with
  | none => []
  | some ds => '.' :: digitChars ds

def powerChars : List Char := (w.power.map WrittenPower.chars).getD []

def unsignedChars : List Char := Nat.toDigits 10 w.whole ++ (w.fractionChars ++ w.powerChars)

/-- The characters of the literal. -/
def chars : List Char := if w.negative then '-' :: w.unsignedChars else w.unsignedChars

/-- Whether there is neither a fraction nor an exponent. -/
def isWhole : Bool := w.fraction.isNone && w.power.isNone

/-- The number before the point. -/
def value : Int := if w.negative then -(w.whole : Int) else w.whole

/-- The integer of sixty-four bits that the literal is. -/
def int64? : Option Int := if w.isWhole && fitsInt64 w.value then some w.value else none

end WrittenNumber

/-! ## Literals are read whole -/

theorem isDigit_digitChars (ds : List (Fin 10)) : ∀ c ∈ digitChars ds, isDigit c = true := by
  have hdigit : ∀ d, isDigit (digitChar d) = true := by decide
  intro c hc
  obtain ⟨d, -, rfl⟩ := List.mem_map.mp hc
  exact hdigit d

theorem halts_nil : Halts [] := nofun

theorem readDigits_digitChars {ds : List (Fin 10)} (h : ds ≠ []) {rest : List Char}
    (hrest : Halts rest) : readDigits (digitChars ds ++ rest) = some (digitChars ds, rest) :=
  readDigits_append (fun hnil => h (List.map_eq_nil_iff.mp hnil)) (isDigit_digitChars ds) hrest

theorem readSignedDigits_written (p : WrittenPower) :
    readSignedDigits (p.sign.chars ++ digitChars p.digits) =
      some (p.sign.chars ++ digitChars p.digits, []) := by
  have hread := readDigits_digitChars p.nonempty halts_nil
  rw [List.append_nil] at hread
  cases p.sign with
  | plus =>
    rw [WrittenSign.chars, List.singleton_append, readSignedDigits, hread, Option.map_some]
  | minus =>
    rw [WrittenSign.chars, List.singleton_append, readSignedDigits, hread, Option.map_some]
  | none =>
    rw [WrittenSign.chars, List.nil_append, readSignedDigits, hread]
    · intro rest h
      exact digitChars_plain (c := '+') (by decide) (h ▸ List.mem_cons_self)
    · intro rest h
      exact digitChars_plain (c := '-') (by decide) (h ▸ List.mem_cons_self)

section
variable (w : WrittenNumber)

theorem readExponent_written : readExponent w.powerChars = some (w.powerChars, []) := by
  unfold WrittenNumber.powerChars
  cases w.power with
  | none => rfl
  | some p =>
    have hread := readSignedDigits_written p
    rw [Option.map_some, Option.getD_some, WrittenPower.chars]
    cases p.capital
    · rw [if_neg Bool.false_ne_true, readExponent, hread]
      rfl
    · rw [if_pos rfl, readExponent, hread]
      rfl

/-- An exponent starts with its mark. -/
theorem head_powerChars : ∀ c ∈ w.powerChars.head?, c = 'e' ∨ c = 'E' := by
  intro c hc
  unfold WrittenNumber.powerChars at hc
  cases hpower : w.power with
  | none =>
    rw [hpower] at hc
    cases hc
  | some p =>
    rw [hpower, Option.map_some, Option.getD_some, WrittenPower.chars, List.head?_cons] at hc
    obtain rfl := Option.some.inj hc
    cases p.capital <;> simp

theorem halts_powerChars : Halts w.powerChars := by
  intro c hc
  obtain rfl | rfl := head_powerChars w c hc <;> decide

theorem readFraction_written :
    readFraction (w.fractionChars ++ w.powerChars) = some (w.fractionChars, w.powerChars) := by
  unfold WrittenNumber.fractionChars
  cases hfraction : w.fraction with
  | some ds =>
    have hread := readDigits_digitChars (w.nonempty ds hfraction) (halts_powerChars w)
    rw [List.cons_append, readFraction, hread]
    rfl
  | none =>
    rw [List.nil_append]
    unfold readFraction
    split
    · next hpoint =>
      have hhead := head_powerChars w '.' (by rw [hpoint]; rfl)
      exact absurd hhead (by decide)
    · rfl

theorem halts_fractionChars : Halts (w.fractionChars ++ w.powerChars) := by
  unfold WrittenNumber.fractionChars
  cases w.fraction with
  | none => exact halts_powerChars w
  | some ds =>
    intro c hc
    obtain rfl := Option.some.inj hc
    decide

theorem readUnsigned_written : readUnsigned w.unsignedChars = some (w.unsignedChars, []) := by
  simp only [readUnsigned, WrittenNumber.unsignedChars, readWhole_toDigits _ (halts_fractionChars w),
    readFraction_written, readExponent_written, Option.bind_eq_bind, Option.bind_some,
    Option.pure_def, List.append_assoc]

theorem unsignedChars_eq_cons : ∃ c cs, w.unsignedChars = c :: cs ∧ c.isDigit = true := by
  obtain ⟨c, cs, hcs, hc, -⟩ := toDigits_eq_cons w.whole
  exact ⟨c, _, by rw [WrittenNumber.unsignedChars, hcs, List.cons_append], hc⟩

theorem readNumber_written : readNumber w.chars = some (w.chars, []) := by
  have hread := readUnsigned_written w
  unfold WrittenNumber.chars
  cases w.negative with
  | true => rw [if_pos rfl, readNumber, hread, Option.map_some]
  | false =>
    obtain ⟨c, cs, hcs, hc⟩ := unsignedChars_eq_cons w
    rw [hcs] at hread
    rw [if_neg Bool.false_ne_true, hcs]
    unfold readNumber
    split
    · next hhead => exact absurd (List.cons.inj hhead).1 (digit_ne hc (by decide))
    · exact hread

theorem chars_eq_cons : ∃ c cs, w.chars = c :: cs ∧ (c = '-' ∨ c.isDigit = true) := by
  unfold WrittenNumber.chars
  split
  · exact ⟨'-', _, rfl, .inl rfl⟩
  · obtain ⟨c, cs, hcs, hc⟩ := unsignedChars_eq_cons w
    exact ⟨c, cs, hcs, .inr hc⟩

/-- A literal is the one value of its text. -/
theorem read_written : read w.chars = some (.number w.chars) := by
  obtain ⟨c, cs, hcs, hc⟩ := chars_eq_cons w
  have hread := readNumber_written w
  have hspace : isSpace c = false := by
    obtain rfl | hdigit := hc
    · decide
    · have hne {d : Char} (hd : d.isDigit = false) : c ≠ d := digit_ne hdigit hd
      simp [isSpace, hne (d := ' ') (by decide), hne (d := '\t') (by decide),
        hne (d := '\n') (by decide), hne (d := '\r') (by decide)]
  have hvalue : readValue (2 * w.chars.length + 1 + 1) 0 w.chars = some (.number w.chars, []) := by
    rw [hcs] at hread ⊢
    exact readValue_number hc hread
  have hfirst : readFirst w.chars = some (.number w.chars, []) := by
    rw [readFirst, hcs, skipSpace_cons hspace, ← hcs]
    exact hvalue
  rw [read, hfirst]
  rfl

end

/-! ## Literals that are integers -/

theorem digitsValueFrom_eq_none {cs : List Char} {c : Char} (hc : c ∈ cs) (h : digitValue c = none)
    (sofar : Nat) : digitsValueFrom sofar cs = none := by
  induction cs generalizing sofar with
  | nil => cases hc
  | cons d rest ih =>
    rw [digitsValueFrom]
    obtain rfl | hrest := List.mem_cons.mp hc
    · rw [h]
    · cases digitValue d with
      | none => rfl
      | some n => exact ih hrest _

section
variable (w : WrittenNumber)

/-- A point or the mark of an exponent is no digit. -/
theorem exists_mark (h : w.isWhole = false) :
    ∃ c ∈ w.fractionChars ++ w.powerChars, digitValue c = none := by
  unfold WrittenNumber.fractionChars WrittenNumber.powerChars
  cases hfraction : w.fraction with
  | some ds => exact ⟨'.', List.mem_append_left _ List.mem_cons_self, by decide⟩
  | none =>
    cases hpower : w.power with
    | none =>
      rw [WrittenNumber.isWhole, hfraction, hpower] at h
      cases h
    | some p =>
      refine ⟨if p.capital then 'E' else 'e', List.mem_append_right _ List.mem_cons_self, ?_⟩
      cases p.capital <;> decide

theorem digitsValue_unsigned :
    digitsValue w.unsignedChars = if w.isWhole then some w.whole else none := by
  cases hwhole : w.isWhole with
  | true =>
    obtain ⟨hfraction, hpower⟩ := Bool.and_eq_true_iff.mp hwhole
    have hrest : w.fractionChars ++ w.powerChars = [] := by
      rw [WrittenNumber.fractionChars, WrittenNumber.powerChars, Option.isNone_iff_eq_none.mp hfraction,
        Option.isNone_iff_eq_none.mp hpower]
      rfl
    rw [WrittenNumber.unsignedChars, hrest, List.append_nil, digitsValue_toDigits, if_pos rfl]
  | false =>
    obtain ⟨mark, hmem, hmark⟩ := exists_mark w hwhole
    obtain ⟨c, cs, hcs, -⟩ := unsignedChars_eq_cons w
    have hmem : mark ∈ w.unsignedChars := List.mem_append_right _ hmem
    have hnone := digitsValueFrom_eq_none hmem hmark 0
    rw [hcs] at hnone ⊢
    rw [digitsValue, hnone, if_neg Bool.false_ne_true]
    exact List.cons_ne_nil _ _

/-- An integer is read of a literal exactly when it is one. -/
theorem readInt64_written : readInt64 w.chars = w.int64? := by
  have hint : readInt w.chars = if w.isWhole then some w.value else none := by
    have hdigits := digitsValue_unsigned w
    unfold WrittenNumber.chars WrittenNumber.value
    cases w.negative with
    | true =>
      rw [if_pos rfl, if_pos rfl, readInt, hdigits]
      cases w.isWhole <;> rfl
    | false =>
      obtain ⟨c, cs, hcs, hc⟩ := unsignedChars_eq_cons w
      rw [if_neg Bool.false_ne_true, if_neg Bool.false_ne_true]
      unfold readInt
      split
      · next hminus =>
        exact absurd (List.cons.inj (hcs.symm.trans hminus)).1 (digit_ne hc (by decide))
      · next hplus =>
        exact absurd (List.cons.inj (hcs.symm.trans hplus)).1 (digit_ne hc (by decide))
      · rw [hdigits]
        cases w.isWhole <;> rfl
  rw [readInt64, hint, WrittenNumber.int64?]
  cases w.isWhole with
  | true => rw [if_pos rfl, Option.filter_some, Bool.true_and]
  | false => rfl

end

end Json
end Stockroom

import Mathlib.Data.List.DropRight
import Mathlib.Data.Nat.Digits.Defs
import Stockroom.Intake.Normalize
import Stockroom.Proofs.Intake.Legible
import Stockroom.Proofs.Text.Numeral

/-!
Fields that were cleaned once: cleaning them again changes nothing. It holds of every text of a cell
and of every existing date.

Main statements:
* `Text.trim_trim`, `Cell.value_trim`, `Mapping.text_trim`;
* `dateText_settled`.
-/
namespace Stockroom
set_option autoImplicit false

/-! ## Space at the ends -/

namespace Text

theorem trimStart_eq_self {t : Text} (h : ∀ g ∈ t.head?, g.isBlank = false) : t.trimStart = t := by
  cases t with
  | nil => rfl
  | cons g rest => exact List.dropWhile_cons_of_neg (by rw [h g rfl]; decide)

theorem head?_trimStart (t : Text) : ∀ g ∈ t.trimStart.head?, g.isBlank = false := by
  intro g hg
  have hhead := List.head?_dropWhile_not Glyph.isBlank t
  rw [← trimStart, Option.mem_def.mp hg] at hhead
  exact hhead

theorem trimEnd_start (t : Text) : t.trimEnd <+: t := List.rdropWhile_prefix Glyph.isBlank t

theorem trim_trim (t : Text) : t.trim.trim = t.trim := by
  have hstart : t.trim.trimStart = t.trim := by
    refine trimStart_eq_self fun g hg => head?_trimStart t g ?_
    obtain ⟨rest, hrest⟩ := trimEnd_start t.trimStart
    rw [← trim] at hrest
    rw [← hrest, List.head?_append, Option.mem_def.mp hg]
    rfl
  have hend : t.trim.trimEnd = t.trim := List.rdropWhile_idempotent Glyph.isBlank t.trimStart
  rw [trim, hstart, hend]

theorem trim_eq_self {t : Text} (h : ∀ g ∈ t, g.isBlank = false) : t.trim = t := by
  have hstart : t.trimStart = t := trimStart_eq_self fun g hg => h g (List.mem_of_mem_head? hg)
  have hend : t.trimEnd = t :=
    List.rdropWhile_eq_self_iff.mpr fun hne => by
      rw [h _ (List.getLast_mem hne)]
      decide
  rw [trim, hstart, hend]

theorem trim_eq_nil {t : Text} (h : t.isBlank = true) : t.trim = [] := by
  have hstart : t.trimStart = [] := List.dropWhile_eq_nil_iff.mpr (List.all_eq_true.mp h)
  rw [trim, hstart]
  rfl

theorem ne_nil_of_isBlank {t : Text} (h : t.isBlank = false) : t ≠ [] := by
  rintro rfl
  cases h

theorem isBlank_eq_false {t : Text} (htrim : t.trim = t) (hne : t ≠ []) : t.isBlank = false := by
  rw [Bool.eq_false_iff]
  exact fun hblank => hne (htrim.symm.trans (trim_eq_nil hblank))

end Text

/-! ## Texts of cells -/

theorem isBlankChar_printed {c : Char} (hlow : 0x20 < c.toNat) (hhigh : c.toNat < 0x85) :
    isBlankChar c = false := by
  simp only [isBlankChar, Bool.or_eq_false_iff, Bool.and_eq_false_iff, decide_eq_false_iff_not,
    beq_eq_false_iff_ne]
  omega

theorem isBlankChar_digit {c : Char} (h : c.isDigit = true) : isBlankChar c = false := by
  have hlow : 48 ≤ c.toNat ∧ c.toNat ≤ 57 := by
    simpa [Char.isDigit, UInt32.le_iff_toNat_le] using h
  exact isBlankChar_printed (by omega) (by omega)

/-- A number in positional notation is written without white space. -/
theorem Decimal.positional_printed (d : Decimal) : ∀ c ∈ d.positional, isBlankChar c = false := by
  have hdigits : ∀ c ∈ Nat.toDigits 10 d.digits, isBlankChar c = false := fun c hc =>
    isBlankChar_digit (Nat.isDigit_of_mem_toDigits (by omega) (by omega) hc)
  have hzeros (n : Nat) : ∀ c ∈ List.replicate n '0', isBlankChar c = false := fun c hc =>
    List.eq_of_mem_replicate hc ▸ by decide
  have hfilled (n : Nat) : ∀ c ∈ List.replicate n '0' ++ Nat.toDigits 10 d.digits,
      isBlankChar c = false :=
    fun c hc => (List.mem_append.mp hc).elim (hzeros n c) (hdigits c)
  unfold positional
  dsimp only
  split
  · split
    · exact List.forall_mem_singleton.mpr (by decide)
    · exact fun c hc => (List.mem_append.mp hc).elim (hdigits c) (hzeros _ c)
  · have hwhole (n k : Nat) : ∀ c ∈ (List.replicate n '0' ++ Nat.toDigits 10 d.digits).take k,
        isBlankChar c = false := fun c hc => hfilled n c (List.mem_of_mem_take hc)
    split
    · exact hwhole _ _
    · intro c hc
      obtain hc | hc := List.mem_append.mp hc
      · exact hwhole _ _ c hc
      obtain rfl | hc := List.mem_cons.mp hc
      · decide
      have hfraction := (List.dropWhile_sublist _).subset (List.mem_reverse.mp hc)
      exact hfilled _ c (List.mem_of_mem_drop (List.mem_reverse.mp hfraction))

theorem Binary64.positional_printed (x : Binary64) : ∀ c ∈ x.positional, isBlankChar c = false := by
  have hmagnitude : ∀ c ∈ if x.mantissa = 0 then ['0']
      else (shortestDigits x.mantissa x.exponent).positional, isBlankChar c = false := by
    split
    · exact List.forall_mem_singleton.mpr (by decide)
    · exact Decimal.positional_printed _
  unfold positional
  dsimp only
  split
  · intro c hc
    obtain rfl | hc := List.mem_cons.mp hc
    · decide
    · exact hmagnitude c hc
  · exact hmagnitude

@[simp] theorem Cell.isBlank_ofText (t : Text) : (Cell.ofText t).isBlank = t.isBlank := rfl

theorem Cell.value_trim (c : Cell) : c.value.trim = c.value := by
  unfold value
  dsimp only
  split
  · next x _ =>
    split
    · refine Text.trim_eq_self fun g hg => ?_
      obtain ⟨k, hk, rfl⟩ := List.mem_map.mp hg
      exact x.positional_printed k hk
    · exact Text.trim_trim _
  · exact Text.trim_trim _

theorem Mapping.text_trim (m : Mapping) (row : Row) (field : Text) :
    (m.text row field).trim = m.text row field := by
  unfold text
  split
  · exact Cell.value_trim _
  · rfl

/-- No stray byte of a cell's text is a character of its own. -/
theorem Mapping.text_stray {row : Row} (hrow : ∀ c ∈ row, c.text.Spelled) (m : Mapping)
    (field : Text) {b : UInt8} (h : .stray b ∈ m.text row field) : ¬ b < 0x80 := by
  unfold text at h
  split at h
  · next c hcell =>
    have htrimmed (hb : .stray b ∈ c.text.trim) : ¬ b < 0x80 :=
      (hrow c (cell?_mem hcell)).stray (c.text.trim_sublist.subset hb)
    unfold Cell.value at h
    dsimp only at h
    split at h
    · split at h
      · obtain ⟨_, -, hchar⟩ := List.mem_map.mp h
        cases hchar
      · exact htrimmed h
    · exact htrimmed h
  · cases h

/-! ## Dates -/

section
variable {n : Nat} {cs rest : List Char}

theorem takeTwoDigits_eq_some (h : takeTwoDigits cs = some (n, rest)) :
    ∃ a b, cs = a :: b :: rest ∧ isDigitChar a = true ∧ isDigitChar b = true := by
  match cs, h with
  | a :: b :: more, h =>
    obtain ⟨x, ha, h⟩ := Option.bind_eq_some_iff.mp h
    obtain ⟨y, hb, h⟩ := Option.bind_eq_some_iff.mp h
    obtain ⟨-, rfl⟩ := Prod.mk.inj (Option.some.inj h)
    exact ⟨a, b, rfl, by rw [isDigitChar, ha]; rfl, by rw [isDigitChar, hb]; rfl⟩

theorem takeFourDigits_eq_some (h : takeFourDigits cs = some (n, rest)) :
    ∃ a b c d, cs = a :: b :: c :: d :: rest ∧ isDigitChar a = true ∧ isDigitChar b = true ∧
      isDigitChar c = true ∧ isDigitChar d = true := by
  obtain ⟨⟨high, middle⟩, hhigh, h⟩ := Option.bind_eq_some_iff.mp h
  obtain ⟨⟨low, last⟩, hlow, h⟩ := Option.bind_eq_some_iff.mp h
  obtain ⟨-, rfl⟩ := Prod.mk.inj (Option.some.inj h)
  obtain ⟨a, b, rfl, ha, hb⟩ := takeTwoDigits_eq_some hhigh
  obtain ⟨c, d, rfl, hc, hd⟩ := takeTwoDigits_eq_some hlow
  exact ⟨a, b, c, d, rfl, ha, hb, hc, hd⟩

theorem readParts_eq_some {r out : Reading} {part : LayoutPart} {parts : List LayoutPart}
    (h : readParts r (part :: parts) cs = some out) :
    ∃ r' rest, part.take r cs = some (r', rest) ∧ readParts r' parts rest = some out := by
  rw [readParts.eq_def] at h
  dsimp only at h
  split at h
  · next r' rest htake => exact ⟨r', rest, htake, h⟩
  · cases h

theorem takeHyphen_eq_some {r r' : Reading}
    (h : (LayoutPart.literal '-').take r cs = some (r', rest)) : cs = '-' :: rest := by
  cases cs with
  | nil => cases h
  | cons d more =>
    have hstep : (if '-' == d then some (r, more) else none) = some (r', rest) := h
    split at hstep
    · next hd =>
      obtain ⟨-, rfl⟩ := Prod.mk.inj (Option.some.inj hstep)
      rw [eq_of_beq hd]
    · cases hstep

theorem takeYear_eq_some {r r' : Reading} (h : LayoutPart.year.take r cs = some (r', rest)) :
    ∃ a b c d, cs = a :: b :: c :: d :: rest ∧ isDigitChar a = true ∧ isDigitChar b = true ∧
      isDigitChar c = true ∧ isDigitChar d = true := by
  obtain ⟨⟨n, more⟩, htake, heq⟩ := Option.map_eq_some_iff.mp h
  obtain ⟨-, rfl⟩ := Prod.mk.inj heq
  exact takeFourDigits_eq_some htake

theorem takeMonth_eq_some {r r' : Reading} (h : LayoutPart.month.take r cs = some (r', rest)) :
    ∃ a b, cs = a :: b :: rest ∧ isDigitChar a = true ∧ isDigitChar b = true := by
  obtain ⟨⟨n, more⟩, htake, heq⟩ := Option.bind_eq_some_iff.mp h
  dsimp only at heq
  split at heq
  · obtain ⟨-, rfl⟩ := Prod.mk.inj (Option.some.inj heq)
    exact takeTwoDigits_eq_some htake
  · cases heq

theorem takeDay_eq_some {r r' : Reading} (h : LayoutPart.day.take r cs = some (r', rest)) :
    ∃ a b, cs = a :: b :: rest ∧ isDigitChar a = true ∧ isDigitChar b = true := by
  obtain ⟨⟨n, more⟩, htake, heq⟩ := Option.map_eq_some_iff.mp h
  obtain ⟨-, rfl⟩ := Prod.mk.inj heq
  exact takeTwoDigits_eq_some htake

end

/-- An existing date is four, two and two digits with hyphens between them. -/
theorem isIsoDate_chars {t : Text} (h : isIsoDate t = true) :
    ∃ a b c d e f g k, t.toChars = [a, b, c, d, '-', e, f, '-', g, k] ∧
      ∀ x ∈ [a, b, c, d, e, f, g, k], isDigitChar x = true := by
  obtain ⟨r, hr⟩ := Option.isSome_iff_exists.mp h
  obtain ⟨hparts, -⟩ := Option.filter_eq_some_iff.mp hr
  obtain ⟨_, _, hyear, hparts⟩ := readParts_eq_some hparts
  obtain ⟨_, _, hfirst, hparts⟩ := readParts_eq_some hparts
  obtain ⟨_, _, hmonth, hparts⟩ := readParts_eq_some hparts
  obtain ⟨_, _, hsecond, hparts⟩ := readParts_eq_some hparts
  obtain ⟨_, last, hday, hend⟩ := readParts_eq_some hparts
  obtain ⟨a, b, c, d, hchars, ha, hb, hc, hd⟩ := takeYear_eq_some hyear
  obtain rfl := takeHyphen_eq_some hfirst
  obtain ⟨e, f, rfl, he, hf⟩ := takeMonth_eq_some hmonth
  obtain rfl := takeHyphen_eq_some hsecond
  obtain ⟨g, k, rfl, hg, hk⟩ := takeDay_eq_some hday
  cases last with
  | nil => exact ⟨a, b, c, d, e, f, g, k, hchars, by simp [ha, hb, hc, hd, he, hf, hg, hk]⟩
  | cons => cases hend

section
variable {c : Char}

theorem isDigitChar_bounds (h : isDigitChar c = true) : '0' ≤ c ∧ c ≤ '9' := by
  unfold isDigitChar digitValue at h
  split at h
  · assumption
  · cases h

theorem isDigitChar_ne (h : isDigitChar c = true) {d : Char} (hd : isDigitChar d = false) :
    c ≠ d := by
  rintro rfl
  rw [h] at hd
  cases hd

theorem isDigitChar_unspaced (h : isDigitChar c = true) : isBlankChar c = false := by
  obtain ⟨hlow, hhigh⟩ := isDigitChar_bounds h
  have hlow : 48 ≤ c.toNat := hlow
  have hhigh : c.toNat ≤ 57 := hhigh
  exact isBlankChar_printed (by omega) (by omega)

/-- A digit at the front of a mantissa is read. -/
theorem readMantissa_digit (h : isDigitChar c = true) (m : Mantissa) (rest : List Char) :
    ∃ m', readMantissa false m (c :: rest) = readMantissa false m' rest := by
  have hunderscore : (c == '_') = false := beq_false_of_ne (isDigitChar_ne h (by decide))
  have hpoint : (c == '.') = false := beq_false_of_ne (isDigitChar_ne h (by decide))
  have hdigit : mantissaDigit false c = some (c.toNat - 48) := if_pos (isDigitChar_bounds h)
  rw [readMantissa, hunderscore, hpoint, hdigit]
  exact ⟨_, rfl⟩

end

/-- What is no number: a mantissa with something after it that starts no exponent. -/
theorem readDouble_eq_none {cs rest : List Char} {m : Mantissa} {c : Char}
    (hsign : cs.head? ≠ some '-' ∧ cs.head? ≠ some '+')
    (hmark : cs[1]? ≠ some 'x' ∧ cs[1]? ≠ some 'X')
    (hread : readMantissa false {} cs = (m, c :: rest)) (hpower : c ≠ 'e' ∧ c ≠ 'E') :
    readDouble cs = none := by
  have hdecimal : readDecimal false cs = none := by
    rw [readDecimal, hread]
    dsimp only
    split
    · rfl
    · exact if_neg (by simpa using hpower)
  have hunsigned : readUnsignedNumeral false cs = none := by
    unfold readUnsignedNumeral
    split
    · split
      · exact absurd rfl hmark.1
      · exact absurd rfl hmark.2
      · exact hdecimal
    · rfl
  have hnumeral : readNumeral cs = none := by
    unfold readNumeral
    split
    · exact absurd rfl hsign.1
    · exact absurd rfl hsign.2
    · exact hunsigned
  rw [readDouble, hnumeral]
  rfl

/-- A date is no number: its first hyphen ends the mantissa and starts no exponent. -/
theorem readDouble_isIsoDate {t : Text} (h : isIsoDate t = true) : readDouble t.toChars = none := by
  obtain ⟨a, b, c, d, e, f, g, k, hchars, hdigits⟩ := isIsoDate_chars h
  simp only [List.forall_mem_cons, List.not_mem_nil, false_implies, implies_true, and_true]
    at hdigits
  obtain ⟨ha, hb, hc, hd, -⟩ := hdigits
  have hne {x y : Char} (hx : isDigitChar x = true) (hy : isDigitChar y = false) : some x ≠ some y :=
    fun heq => isDigitChar_ne hx hy (Option.some.inj heq)
  obtain ⟨m₁, h₁⟩ := readMantissa_digit ha {} [b, c, d, '-', e, f, '-', g, k]
  obtain ⟨m₂, h₂⟩ := readMantissa_digit hb m₁ [c, d, '-', e, f, '-', g, k]
  obtain ⟨m₃, h₃⟩ := readMantissa_digit hc m₂ [d, '-', e, f, '-', g, k]
  obtain ⟨m₄, h₄⟩ := readMantissa_digit hd m₃ ['-', e, f, '-', g, k]
  rw [hchars]
  exact readDouble_eq_none ⟨hne ha (by decide), hne ha (by decide)⟩
    ⟨hne hb (by decide), hne hb (by decide)⟩ (h₁.trans (h₂.trans (h₃.trans h₄))) (by decide)

theorem Glyph.isBlank_eq_false {g : Glyph} (h : isBlankChar g.toChar = false) :
    g.isBlank = false := by
  cases g with
  | char c => exact h
  | stray b => rfl

section
variable {t : Text} (h : isIsoDate t = true)
include h

theorem isIsoDate_unspaced : ∀ x ∈ t, x.isBlank = false := by
  obtain ⟨a, b, c, d, e, f, g, k, hchars, hdigits⟩ := isIsoDate_chars h
  intro x hx
  refine Glyph.isBlank_eq_false ?_
  have hmem : x.toChar ∈ t.toChars := List.mem_map_of_mem hx
  by_cases hdigit : isDigitChar x.toChar = true
  · exact isDigitChar_unspaced hdigit
  · have hhyphen : x.toChar = '-' := by
      rw [hchars] at hmem
      simp only [List.mem_cons, List.not_mem_nil, or_false] at hmem hdigits
      grind
    rw [hhyphen]
    decide

theorem isIsoDate_filled : t.isBlank = false := by
  obtain ⟨a, b, c, d, e, f, g, k, hchars, -⟩ := isIsoDate_chars h
  cases t with
  | nil => cases hchars
  | cons x rest =>
    have hfirst : x.isBlank = false := isIsoDate_unspaced h x List.mem_cons_self
    rw [Text.isBlank, List.all_cons, hfirst, Bool.false_and]

/-- An existing date is read as itself. -/
theorem dateText_settled : dateText (Cell.ofText t) = t := by
  have htrim : t.trim = t := Text.trim_eq_self (isIsoDate_unspaced h)
  have hshape : hasIsoShape t.toChars = true := by
    obtain ⟨a, b, c, d, e, f, g, k, hchars, hdigits⟩ := isIsoDate_chars h
    simp only [List.forall_mem_cons, List.not_mem_nil, false_implies, implies_true, and_true]
      at hdigits
    rw [hchars]
    simp [hasIsoShape, hdigits]
  have hnumber : (Cell.ofText t).number = none := by
    rw [Cell.ofText, htrim]
    exact readDouble_isIsoDate h
  have htext : (Cell.ofText t).text.trim = t := htrim
  rw [dateText, hnumber]
  dsimp only
  rw [htext, dateOfText, if_pos hshape]

end

end Stockroom

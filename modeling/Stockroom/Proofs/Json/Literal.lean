import Stockroom.Proofs.Text.Numeral
import Stockroom.Json.Reader

/-!
Written numbers and strings are read back. A number ends where no digit, point or exponent follows;
a string ends at its closing quote, and its stray bytes come back as U+FFFD.

Main definitions and statements:
* `Text.mended`: U+FFFD in place of stray bytes;
* `Json.Ends`, `Json.readNumber_ofInt`: an integer is read up to what follows it;
* `Json.readString_escaped`: a string is read back, mended.
-/
namespace Stockroom
set_option autoImplicit false

namespace Text

/-- The text with U+FFFD in place of every stray byte. -/
def mended (t : Text) : Text := ofChars t.toChars

theorem mended_of_wellFormed {t : Text} (h : t.wellFormed = true) : t.mended = t :=
  ofChars_toChars h

theorem mended_ofChars (cs : List Char) : (ofChars cs).mended = ofChars cs := by
  rw [mended, toChars_ofChars]

theorem mended_ofString (s : String) : (ofString s).mended = ofString s := mended_ofChars _

end Text

namespace Json

/-! ## Numbers -/

/-- What follows a number does not go on with it. -/
def Ends (rest : List Char) : Prop :=
  ∀ c ∈ rest.head?, isDigit c = false ∧ c ≠ '.' ∧ c ≠ 'e' ∧ c ≠ 'E'

theorem ends_cons {c : Char} (rest : List Char)
    (h : isDigit c = false ∧ c ≠ '.' ∧ c ≠ 'e' ∧ c ≠ 'E') : Ends (c :: rest) := by
  intro d hd
  cases hd
  exact h

theorem ends_nil : Ends [] := by
  intro c hc
  cases hc

section
variable {rest : List Char}

theorem isDigit_eq (c : Char) : isDigit c = c.isDigit := by
  rw [isDigit, Char.isDigit]
  rfl

/-- What follows digits does not go on with them. -/
def Halts (rest : List Char) : Prop := ∀ c ∈ rest.head?, isDigit c = false

theorem Ends.halts (h : Ends rest) : Halts rest := fun c hc => (h c hc).1

theorem Halts.not_digit (h : Halts rest) : rest.takeWhile isDigit = [] ∧
    rest.dropWhile isDigit = rest := by
  cases rest with
  | nil => exact ⟨rfl, rfl⟩
  | cons c rest =>
    have hc := h c rfl
    exact ⟨by rw [List.takeWhile_cons, hc]; rfl, by rw [List.dropWhile_cons, hc]; rfl⟩

theorem readDigits_append {ds : List Char} (hne : ds ≠ []) (hds : ∀ c ∈ ds, isDigit c = true)
    (h : Halts rest) : readDigits (ds ++ rest) = some (ds, rest) := by
  obtain ⟨htake, hdrop⟩ := h.not_digit
  have htaken : (ds ++ rest).takeWhile isDigit = ds := by
    rw [List.takeWhile_append_of_pos hds, htake, List.append_nil]
  have hdropped : (ds ++ rest).dropWhile isDigit = rest := by
    rw [List.dropWhile_append_of_pos hds, hdrop]
  unfold readDigits
  rw [htaken, hdropped]
  cases ds with
  | nil => exact absurd rfl hne
  | cons c ds => rfl

theorem readFraction_of_ends (h : Ends rest) : readFraction rest = some ([], rest) := by
  unfold readFraction
  split
  · exact absurd rfl (h '.' rfl).2.1
  · rfl

theorem readExponent_of_ends (h : Ends rest) : readExponent rest = some ([], rest) := by
  unfold readExponent
  split
  · exact absurd rfl (h 'e' rfl).2.2.1
  · exact absurd rfl (h 'E' rfl).2.2.2
  · rfl

/-- Digits of a number do not start with a zero unless it is zero. -/
theorem readWhole_toDigits (n : Nat) (h : Halts rest) :
    readWhole (Nat.toDigits 10 n ++ rest) = some (Nat.toDigits 10 n, rest) := by
  by_cases hzero : n = 0
  · subst hzero
    rfl
  · obtain ⟨c, cs, hcs, hc⟩ := toDigits_head_ne_zero hzero
    have hdigits : ∀ d ∈ Nat.toDigits 10 n, isDigit d = true := fun d hd =>
      (isDigit_eq d).trans (Nat.isDigit_of_mem_toDigits (by omega) (by omega) hd)
    have hread := readDigits_append Nat.toDigits_ne_nil hdigits h
    rw [hcs, List.cons_append] at hread ⊢
    unfold readWhole
    split
    · next hhead => exact absurd (List.cons.inj hhead).1 hc
    · exact hread

theorem readUnsigned_toDigits (n : Nat) (h : Ends rest) :
    readUnsigned (Nat.toDigits 10 n ++ rest) = some (Nat.toDigits 10 n, rest) := by
  simp only [readUnsigned, readWhole_toDigits n h.halts, readFraction_of_ends h, readExponent_of_ends h,
    Option.bind_eq_bind, Option.bind_some, Option.pure_def, List.append_nil]

/-- An integer is read up to what follows it. -/
theorem readNumber_ofInt (i : Int) (h : Ends rest) :
    readNumber ((Text.ofInt i).toChars ++ rest) = some ((Text.ofInt i).toChars, rest) := by
  rw [toChars_ofInt]
  split
  · rw [List.cons_append, readNumber, readUnsigned_toDigits _ h, Option.map_some]
  · obtain ⟨c, cs, hcs, hc, -⟩ := toDigits_eq_cons i.natAbs
    have hread := readUnsigned_toDigits i.natAbs h
    rw [hcs, List.cons_append] at hread ⊢
    unfold readNumber
    split
    · next hhead => exact absurd (List.cons.inj hhead).1 (digit_ne hc (by decide))
    · exact hread

end

/-! ## Strings -/

/-- Whether a character is written by its number. -/
def isNumbered (c : Char) : Bool :=
  (c.toNat < 0x20 && c.toNat != 8 && c.toNat != 9 && c.toNat != 10 && c.toNat != 12 &&
    c.toNat != 13) || c == '<' || c == '>' || c == '&' || c.toNat == 0x2028 || c.toNat == 0x2029

/-- What a glyph of a written string is read as. -/
def pieceOf : Glyph → Piece
  | .char c => if isNumbered c then .unit c.toNat else .char c
  | .stray _ => .unit 0xFFFD

theorem isNumbered_lt {c : Char} (h : isNumbered c = true) : c.toNat < 0xD800 := by
  unfold isNumbered at h
  by_cases hcases : c = '<' ∨ c = '>' ∨ c = '&'
  · obtain rfl | rfl | rfl := hcases <;> decide
  · simp only [not_or] at hcases
    simp [hcases] at h
    omega

theorem hexUnit_hexDigits : ∀ n < 0x10000, ∃ a b c d, hexDigits 4 n = [a, b, c, d] ∧
    hexUnit a b c d = some n := by
  intro n hn
  have hdigit : ∀ m < 16, hexValue (hexDigit m) = some m := by decide
  refine ⟨_, _, _, _, rfl, ?_⟩
  have hvalue : ((n / 16 / 16 / 16 % 16 * 16 + n / 16 / 16 % 16) * 16 + n / 16 % 16) * 16 + n % 16 =
      n := by omega
  simp only [hexUnit, hdigit _ (Nat.mod_lt _ (by omega : 0 < 16)), Option.bind_eq_bind,
    Option.bind_some, Option.pure_def, hvalue]

theorem readPieces_numbered {n : Nat} (hn : n < 0x10000) (more : List Char) :
    readPieces ('\\' :: 'u' :: hexDigits 4 n ++ more) =
      (readPieces more).map fun p => (.unit n :: p.1, p.2) := by
  obtain ⟨a, b, c, d, hdigits, hunit⟩ := hexUnit_hexDigits n hn
  rw [hdigits]
  simp only [List.cons_append, List.nil_append, readPieces, hunit]

theorem readPieces_simple {e c : Char} (he : e ≠ 'u') (h : simpleEscape e = some c)
    (more : List Char) :
    readPieces ('\\' :: e :: more) = (readPieces more).map fun p => (.char c :: p.1, p.2) := by
  rw [readPieces.eq_def]
  split
  · next hnil => cases hnil
  · next hquote => cases hquote
  · next hunit =>
    cases hunit
    exact absurd rfl he
  · next e' rest hnot heq =>
    cases heq
    simp only [h]
  · next c' rest hquote hnot hother heq =>
    cases heq
    exact absurd rfl (hother _ _ rfl)

theorem readPieces_plain {c : Char} (hquote : c ≠ '"') (hslash : c ≠ '\\') (hlow : ¬ c.toNat < 0x20)
    (more : List Char) :
    readPieces (c :: more) = (readPieces more).map fun p => (.char c :: p.1, p.2) := by
  rw [readPieces.eq_def]
  split
  · next hnil => cases hnil
  · next heq =>
    cases heq
    exact absurd rfl hquote
  · next heq =>
    cases heq
    exact absurd rfl hslash
  · next heq =>
    cases heq
    exact absurd rfl hslash
  · next heq =>
    cases heq
    simp [hlow, hslash]

theorem char_eq_of_toNat {c : Char} {n : Nat} (h : c.toNat = n) : Char.ofNat n = c := by
  rw [← h, Char.ofNat_toNat]

/-- A written glyph is one piece of the string. -/
theorem readPieces_escaped (g : Glyph) (more : List Char) :
    readPieces (escapedGlyph g ++ more) =
      (readPieces more).map fun p => (pieceOf g :: p.1, p.2) := by
  cases g with
  | stray b => exact readPieces_numbered (n := 0xFFFD) (by omega) more
  | char c =>
    have hplain (h : isNumbered c = false) : pieceOf (.char c) = .char c := by
      rw [pieceOf, h]
      rfl
    have hletter {e : Char} {n : Nat} (hn : c.toNat = n) (he : e ≠ 'u')
        (hsimple : simpleEscape e = some (Char.ofNat n)) (hnot : isNumbered c = false) :
        readPieces (['\\', e] ++ more) =
          (readPieces more).map fun p => (pieceOf (.char c) :: p.1, p.2) := by
      rw [hplain hnot, ← char_eq_of_toNat hn]
      exact readPieces_simple he hsimple more
    simp only [escapedGlyph, escapedChar]
    split
    · next hquoted =>
      obtain rfl | rfl : c = '"' ∨ c = '\\' := by simpa using hquoted
      · exact readPieces_simple (by decide) rfl more
      · exact readPieces_simple (by decide) rfl more
    next hquoted =>
    simp only [Bool.or_eq_true, beq_iff_eq, not_or] at hquoted
    obtain ⟨hquote, hslash⟩ := hquoted
    have hnot {n : Nat} (hn : c.toNat = n) (hchar : isNumbered (Char.ofNat n) = false) :
        isNumbered c = false := by rwa [char_eq_of_toNat hn] at hchar
    split
    · next hn => exact hletter (beq_iff_eq.mp hn) (by decide) rfl (hnot (beq_iff_eq.mp hn) (by decide))
    next hback =>
    split
    · next hn => exact hletter (beq_iff_eq.mp hn) (by decide) rfl (hnot (beq_iff_eq.mp hn) (by decide))
    next htab =>
    split
    · next hn => exact hletter (beq_iff_eq.mp hn) (by decide) rfl (hnot (beq_iff_eq.mp hn) (by decide))
    next hline =>
    split
    · next hn => exact hletter (beq_iff_eq.mp hn) (by decide) rfl (hnot (beq_iff_eq.mp hn) (by decide))
    next hform =>
    split
    · next hn => exact hletter (beq_iff_eq.mp hn) (by decide) rfl (hnot (beq_iff_eq.mp hn) (by decide))
    next hreturn =>
    split
    · next hnumbered =>
      have hpiece : isNumbered c = true := by
        simp only [beq_iff_eq] at hback htab hline hform hreturn
        simp only [Bool.or_eq_true, decide_eq_true_eq] at hnumbered
        simp only [isNumbered, hback, htab, hline, hform, hreturn, Bool.or_eq_true, Bool.and_eq_true,
          decide_eq_true_eq, bne_iff_ne, ne_eq, not_false_eq_true, and_true]
        exact hnumbered
      have hlt := isNumbered_lt hpiece
      rw [pieceOf, hpiece]
      exact readPieces_numbered (by omega) more
    · next hnumbered =>
      simp only [Bool.or_eq_true, decide_eq_true_eq, not_or] at hnumbered
      obtain ⟨⟨⟨⟨⟨hlow, hless⟩, hgreater⟩, hand⟩, hlineSep⟩, hparSep⟩ := hnumbered
      have hpiece : isNumbered c = false := by
        simp [isNumbered, hlow, hless, hgreater, hand, hlineSep, hparSep]
      rw [hplain hpiece]
      exact readPieces_plain hquote hslash hlow more

theorem joinPieces_unit {n : Nat} (h : isSurrogate n = false) (ps : List Piece) :
    joinPieces (.unit n :: ps) = unitChar n :: joinPieces ps := by
  have hhigh : isHighSurrogate n = false := by
    simp only [isSurrogate, isHighSurrogate, Bool.and_eq_false_iff, decide_eq_false_iff_not] at h ⊢
    omega
  cases ps with
  | nil => rfl
  | cons p ps =>
    cases p with
    | char c => rfl
    | unit low => rw [joinPieces, hhigh, Bool.false_and, if_neg (by simp)]

theorem joinPieces_pieceOf (t : Text) : joinPieces (t.map pieceOf) = t.toChars := by
  induction t with
  | nil => rfl
  | cons g t ih =>
    have hchars : Text.toChars (g :: t) = g.toChar :: Text.toChars t := rfl
    rw [List.map_cons, hchars, ← ih]
    cases g with
    | stray b => exact joinPieces_unit (by decide) _
    | char c =>
      rw [pieceOf]
      split
      · next hnumbered =>
        have hlt := isNumbered_lt hnumbered
        have hsurrogate : isSurrogate c.toNat = false := by
          simp only [isSurrogate, Bool.and_eq_false_iff, decide_eq_false_iff_not]
          omega
        rw [joinPieces_unit hsurrogate, unitChar, hsurrogate, if_neg (by simp), Char.ofNat_toNat]
        rfl
      · rfl

theorem readPieces_escapes (t : Text) (rest : List Char) :
    readPieces (t.flatMap escapedGlyph ++ '"' :: rest) = some (t.map pieceOf, rest) := by
  induction t with
  | nil => rw [List.flatMap_nil, List.nil_append, readPieces, List.map_nil]
  | cons g t ih =>
    rw [List.flatMap_cons, List.append_assoc, readPieces_escaped, ih]
    rfl

/-- A written string is read back, with U+FFFD in place of stray bytes. -/
theorem readString_escaped (t : Text) (rest : List Char) :
    readString (t.flatMap escapedGlyph ++ '"' :: rest) = some (t.mended, rest) := by
  simp only [readString, readPieces_escapes, Option.map_some, joinPieces_pieceOf]
  rfl

end Json
end Stockroom

import Stockroom.Text.Basic

/-!
Text written as bytes and read again. A character is read back from the bytes it is written as,
whatever follows them, so a text without stray bytes is read back as it was. A character of one byte
is read from that byte only.

Main definitions and statements:
* `firstChar_encode`, `ofBytes_bytes`: a text read back from what it is written as;
* `Text.Spelled`: a text that was read from bytes;
* `stray_ofBytesAfter`, `Spelled.stray`: which bytes are never stray;
* `firstChar_takeWhile`, `firstChar_length`: how far reading one character looks ahead;
* `encode_firstChar`, `bytes_ofBytes`: what is read is written as the bytes it was read from.
-/
namespace Stockroom
set_option autoImplicit false

namespace Text

/-! ## The bytes of one character -/

theorem toNat_ofNat_small {n : Nat} (h : n < 256) : (UInt8.ofNat n).toNat = n := by
  simpa using h

theorem within_iff {n : Nat} {low high : UInt8} (h : n < 256) :
    (low ≤ UInt8.ofNat n ∧ UInt8.ofNat n ≤ high) ↔ low.toNat ≤ n ∧ n ≤ high.toNat := by
  rw [UInt8.le_iff_toNat_le, UInt8.le_iff_toNat_le, toNat_ofNat_small h]

theorem continuation_tail {n : Nat} (low high : UInt8) (h : n < 64) (hlow : low.toNat ≤ n + 128)
    (hhigh : n + 128 ≤ high.toNat) : continuation low high (UInt8.ofNat (n + 128)) = some n := by
  rw [continuation, if_pos ((within_iff (by omega)).mpr ⟨hlow, hhigh⟩),
    toNat_ofNat_small (by omega)]
  congr 1
  omega

/-- A byte after the first or the second one of a character. -/
theorem continuation_any {n : Nat} (h : n < 64) :
    continuation 0x80 0xBF (UInt8.ofNat (n + 128)) = some n :=
  continuation_tail 0x80 0xBF h (by simp only [UInt8.reduceToNat]; omega)
    (by simp only [UInt8.reduceToNat]; omega)

theorem twoByte_encode {n : Nat} (hlow : 128 ≤ n) (hhigh : n < 2048) :
    twoByte (UInt8.ofNat (n / 64 % 32 + 192)) (UInt8.ofNat (n % 64 + 128)) =
      some (Char.ofNat n) := by
  have hlead := toNat_ofNat_small (n := n / 64 % 32 + 192) (by omega)
  have hwithin : 0xC2 ≤ UInt8.ofNat (n / 64 % 32 + 192) ∧
      UInt8.ofNat (n / 64 % 32 + 192) ≤ 0xDF := by
    rw [within_iff (by omega)]
    simp only [UInt8.reduceToNat]
    omega
  have hsum : (n / 64 % 32 + 192) % 32 * 64 + n % 64 = n := by omega
  have hlast := continuation_any (Nat.mod_lt n (by omega : 0 < 64))
  simp only [twoByte, hwithin, and_self, if_true, hlast, hlead, hsum, Option.bind_eq_bind,
    Option.bind_some, Option.pure_def]

/-- The first byte of a longer character starts none of two bytes. -/
theorem twoByte_none {n : Nat} (b : UInt8) (hlow : 224 ≤ n) (hhigh : n < 256) :
    twoByte (UInt8.ofNat n) b = none := by
  have hwithin : ¬ (0xC2 ≤ UInt8.ofNat n ∧ UInt8.ofNat n ≤ 0xDF) := by
    rw [within_iff hhigh]
    simp only [UInt8.reduceToNat]
    omega
  simp only [twoByte, hwithin, if_false]

/-- The bounds of the second byte hold what comes after the first byte of a character. -/
theorem secondOfThree_encode {n : Nat} (hlow : 2048 ≤ n) (hhigh : n < 65536)
    (hpair : n < 0xD800 ∨ 0xDFFF < n) :
    ∃ low high, secondOfThree (UInt8.ofNat (n / 4096 % 16 + 224)) = some (low, high) ∧
      low.toNat ≤ n / 64 % 64 + 128 ∧ n / 64 % 64 + 128 ≤ high.toNat := by
  have hlead : n / 4096 % 16 + 224 < 256 := by omega
  have heq (k : UInt8) : (UInt8.ofNat (n / 4096 % 16 + 224) == k) =
      decide (n / 4096 % 16 + 224 = k.toNat) := by
    rw [Bool.eq_iff_iff, beq_iff_eq, decide_eq_true_iff, ← UInt8.toNat_inj,
      toNat_ofNat_small hlead]
  unfold secondOfThree
  rw [heq, heq]
  simp only [UInt8.reduceToNat, decide_eq_true_eq]
  split
  · exact ⟨0xA0, 0xBF, rfl, by simp only [UInt8.reduceToNat]; omega,
      by simp only [UInt8.reduceToNat]; omega⟩
  split
  · exact ⟨0x80, 0x9F, rfl, by simp only [UInt8.reduceToNat]; omega,
      by simp only [UInt8.reduceToNat]; omega⟩
  · have hwithin : 0xE1 ≤ UInt8.ofNat (n / 4096 % 16 + 224) ∧
        UInt8.ofNat (n / 4096 % 16 + 224) ≤ 0xEF := by
      rw [within_iff hlead]
      simp only [UInt8.reduceToNat]
      omega
    rw [if_pos hwithin]
    exact ⟨0x80, 0xBF, rfl, by simp only [UInt8.reduceToNat]; omega,
      by simp only [UInt8.reduceToNat]; omega⟩

theorem threeByte_encode {n : Nat} (hlow : 2048 ≤ n) (hhigh : n < 65536)
    (hpair : n < 0xD800 ∨ 0xDFFF < n) :
    threeByte (UInt8.ofNat (n / 4096 % 16 + 224)) (UInt8.ofNat (n / 64 % 64 + 128))
      (UInt8.ofNat (n % 64 + 128)) = some (Char.ofNat n) := by
  obtain ⟨low, high, hbounds, hmin, hmax⟩ := secondOfThree_encode hlow hhigh hpair
  have hlead := toNat_ofNat_small (n := n / 4096 % 16 + 224) (by omega)
  have hsecond := continuation_tail low high (n := n / 64 % 64) (by omega) hmin hmax
  have hsum : (n / 4096 % 16 + 224) % 16 * 4096 + n / 64 % 64 * 64 + n % 64 = n := by omega
  have hlast := continuation_any (Nat.mod_lt n (by omega : 0 < 64))
  simp only [threeByte, hbounds, hsecond, hlast, hlead, hsum, Option.bind_eq_bind,
    Option.bind_some, Option.pure_def]

/-- The first byte of a character of four bytes starts none of three. -/
theorem threeByte_none {n : Nat} (b c : UInt8) (hlow : 240 ≤ n) (hhigh : n < 256) :
    threeByte (UInt8.ofNat n) b c = none := by
  have hne (k : UInt8) (hk : k.toNat < 240) : (UInt8.ofNat n == k) = false := by
    rw [beq_eq_false_iff_ne, ne_eq, ← UInt8.toNat_inj, toNat_ofNat_small hhigh]
    omega
  have hwithin : ¬ (0xE1 ≤ UInt8.ofNat n ∧ UInt8.ofNat n ≤ 0xEF) := by
    rw [within_iff hhigh]
    simp only [UInt8.reduceToNat]
    omega
  have hbounds : secondOfThree (UInt8.ofNat n) = none := by
    rw [secondOfThree, hne 0xE0 (by decide), hne 0xED (by decide), if_neg hwithin]
    rfl
  simp only [threeByte, hbounds, Option.bind_eq_bind, Option.bind_none]

theorem secondOfFour_encode {n : Nat} (hlow : 65536 ≤ n) (hhigh : n < 1114112) :
    ∃ low high, secondOfFour (UInt8.ofNat (n / 262144 % 8 + 240)) = some (low, high) ∧
      low.toNat ≤ n / 4096 % 64 + 128 ∧ n / 4096 % 64 + 128 ≤ high.toNat := by
  have hlead : n / 262144 % 8 + 240 < 256 := by omega
  have heq (k : UInt8) : (UInt8.ofNat (n / 262144 % 8 + 240) == k) =
      decide (n / 262144 % 8 + 240 = k.toNat) := by
    rw [Bool.eq_iff_iff, beq_iff_eq, decide_eq_true_iff, ← UInt8.toNat_inj,
      toNat_ofNat_small hlead]
  unfold secondOfFour
  rw [heq, heq]
  simp only [UInt8.reduceToNat, decide_eq_true_eq]
  split
  · exact ⟨0x90, 0xBF, rfl, by simp only [UInt8.reduceToNat]; omega,
      by simp only [UInt8.reduceToNat]; omega⟩
  split
  · exact ⟨0x80, 0x8F, rfl, by simp only [UInt8.reduceToNat]; omega,
      by simp only [UInt8.reduceToNat]; omega⟩
  · have hwithin : 0xF1 ≤ UInt8.ofNat (n / 262144 % 8 + 240) ∧
        UInt8.ofNat (n / 262144 % 8 + 240) ≤ 0xF3 := by
      rw [within_iff hlead]
      simp only [UInt8.reduceToNat]
      omega
    rw [if_pos hwithin]
    exact ⟨0x80, 0xBF, rfl, by simp only [UInt8.reduceToNat]; omega,
      by simp only [UInt8.reduceToNat]; omega⟩

theorem fourByte_encode {n : Nat} (hlow : 65536 ≤ n) (hhigh : n < 1114112) :
    fourByte (UInt8.ofNat (n / 262144 % 8 + 240)) (UInt8.ofNat (n / 4096 % 64 + 128))
      (UInt8.ofNat (n / 64 % 64 + 128)) (UInt8.ofNat (n % 64 + 128)) = some (Char.ofNat n) := by
  obtain ⟨low, high, hbounds, hmin, hmax⟩ := secondOfFour_encode hlow hhigh
  have hlead := toNat_ofNat_small (n := n / 262144 % 8 + 240) (by omega)
  have hsecond := continuation_tail low high (n := n / 4096 % 64) (by omega) hmin hmax
  have hsum : (n / 262144 % 8 + 240) % 8 * 262144 + n / 4096 % 64 * 4096 + n / 64 % 64 * 64 +
      n % 64 = n := by omega
  simp only [fourByte, hbounds, hsecond, continuation_any (Nat.mod_lt _ (by omega : 0 < 64)), hlead,
    hsum, Option.bind_eq_bind, Option.bind_some, Option.pure_def]

/-- The first byte of a character of several bytes is no character of its own. -/
theorem not_single {n : Nat} (hlow : 128 ≤ n) (hhigh : n < 256) : ¬ UInt8.ofNat n < 0x80 := by
  rw [UInt8.lt_iff_toNat_lt, toNat_ofNat_small hhigh]
  simp only [UInt8.reduceToNat]
  omega

/-- A character is read from the bytes it is written as, whatever follows them. -/
theorem firstChar_encode (c : Char) (rest : List UInt8) :
    ∃ a more, String.utf8EncodeChar c = a :: more ∧
      firstChar a (more ++ rest) = some (c, more.length) := by
  have hval : c.val.toNat = c.toNat := rfl
  have hchar := Char.ofNat_toNat c
  have hpair : c.toNat < 0xD800 ∨ 0xDFFF < c.toNat ∧ c.toNat < 0x110000 := c.valid
  unfold String.utf8EncodeChar
  simp only [hval]
  split
  · next hn =>
    refine ⟨_, [], rfl, ?_⟩
    have hsmall : UInt8.ofNat c.toNat < 0x80 := by
      rw [UInt8.lt_iff_toNat_lt, toNat_ofNat_small (by omega)]
      simp only [UInt8.reduceToNat]
      omega
    unfold firstChar
    rw [if_pos hsmall, toNat_ofNat_small (by omega), hchar]
    rfl
  split
  · refine ⟨_, [_], rfl, ?_⟩
    unfold firstChar
    rw [if_neg (not_single (by omega) (by omega)), List.singleton_append]
    simp only [twoByte_encode (n := c.toNat) (by omega) (by omega), hchar, List.length_singleton]
  split
  · refine ⟨_, [_, _], rfl, ?_⟩
    unfold firstChar
    rw [if_neg (not_single (by omega) (by omega))]
    have hlead : 224 ≤ c.toNat / 4096 % 16 + 224 := by omega
    simp only [List.cons_append, List.nil_append, twoByte_none _ hlead (by omega),
      threeByte_encode (n := c.toNat) (by omega) (by omega) (by omega), hchar, List.length_cons,
      List.length_nil]
  · refine ⟨_, [_, _, _], rfl, ?_⟩
    unfold firstChar
    rw [if_neg (not_single (by omega) (by omega))]
    have hlead : 240 ≤ c.toNat / 262144 % 8 + 240 := by omega
    have hlow : 224 ≤ c.toNat / 262144 % 8 + 240 := by omega
    simp only [List.cons_append, List.nil_append, twoByte_none _ hlow (by omega),
      threeByte_none _ _ hlead (by omega),
      fourByte_encode (n := c.toNat) (by omega) (by omega), hchar, Option.map_some,
      List.length_cons, List.length_nil]

/-! ## Whole texts -/

theorem ofBytesAfter_skip (used rest : List UInt8) :
    ofBytesAfter used.length (used ++ rest) = ofBytesAfter 0 rest := by
  induction used with
  | nil => rfl
  | cons b used ih => exact ih

theorem ofBytesAfter_encode (c : Char) (rest : List UInt8) :
    ofBytesAfter 0 (String.utf8EncodeChar c ++ rest) = .char c :: ofBytesAfter 0 rest := by
  obtain ⟨a, more, hbytes, hfirst⟩ := firstChar_encode c rest
  rw [hbytes, List.cons_append, ofBytesAfter, hfirst]
  simp only [ofBytesAfter_skip]

/-- A text without stray bytes is read back from its written form. -/
theorem ofBytes_bytes {t : Text} (h : t.wellFormed = true) : ofBytes t.bytes = t := by
  unfold ofBytes
  induction t with
  | nil => rfl
  | cons g t ih =>
    rw [wellFormed, List.all_cons, Bool.and_eq_true] at h
    cases g with
    | stray b => cases h.1
    | char c =>
      have hbytes : bytes (.char c :: t) = String.utf8EncodeChar c ++ bytes t := rfl
      rw [hbytes, ofBytesAfter_encode, ih h.2]

theorem wellFormed_ofChars (cs : List Char) : (ofChars cs).wellFormed = true := by
  simp [wellFormed, ofChars, Glyph.isChar]

theorem toChars_ofChars (cs : List Char) : (ofChars cs).toChars = cs := by
  rw [toChars, ofChars, List.map_map]
  exact List.map_id cs

/-- A text without stray bytes is its characters. -/
theorem ofChars_toChars {t : Text} (h : t.wellFormed = true) : ofChars t.toChars = t := by
  induction t with
  | nil => rfl
  | cons g t ih =>
    rw [wellFormed, List.all_cons, Bool.and_eq_true] at h
    cases g with
    | stray b => cases h.1
    | char c => exact congrArg (Glyph.char c :: ·) (ih h.2)

/-! ## Characters of one byte -/

theorem toNat_ofNat_of_large {n : Nat} (h : 128 ≤ n) :
    (Char.ofNat n).toNat = 0 ∨ 128 ≤ (Char.ofNat n).toNat := by
  by_cases hvalid : n.isValidChar
  · refine .inr ?_
    rw [Char.ofNat, dif_pos hvalid]
    exact h
  · refine .inl ?_
    rw [Char.ofNat, dif_neg hvalid]
    rfl

theorem continuation_eq {low high b : UInt8} {n : Nat} (h : continuation low high b = some n) :
    n = b.toNat % 64 ∧ low.toNat ≤ b.toNat ∧ b.toNat ≤ high.toNat := by
  unfold continuation at h
  split at h
  · next hwithin => exact ⟨(Option.some.inj h).symm, hwithin.1, hwithin.2⟩
  · cases h

/-- The lead bytes of three-byte characters, with what their second bytes stay within. The bounds
leave out the overlong spellings and the surrogates. -/
theorem secondOfThree_bounds {a low high : UInt8} (h : secondOfThree a = some (low, high)) :
    (224 ≤ a.toNat ∧ a.toNat ≤ 239) ∧ 128 ≤ low.toNat ∧ high.toNat ≤ 191 ∧
      (a.toNat = 224 → 160 ≤ low.toNat) ∧ (a.toNat = 237 → high.toNat ≤ 159) := by
  unfold secondOfThree at h
  split at h
  · next ha =>
    obtain ⟨rfl, rfl⟩ := Prod.mk.inj (Option.some.inj h)
    obtain rfl := eq_of_beq ha
    decide
  split at h
  · next ha =>
    obtain ⟨rfl, rfl⟩ := Prod.mk.inj (Option.some.inj h)
    obtain rfl := eq_of_beq ha
    decide
  split at h
  · next hed ha =>
    obtain ⟨rfl, rfl⟩ := Prod.mk.inj (Option.some.inj h)
    have hmin : 0xE1 ≤ a.toNat := ha.1
    have hmax : a.toNat ≤ 0xEF := ha.2
    have hne : a.toNat ≠ 237 := fun heq => hed (beq_iff_eq.mpr (UInt8.toNat_inj.mp heq))
    simp only [UInt8.reduceToNat]
    omega
  · cases h

/-- The lead bytes of four-byte characters, with what their second bytes stay within. The bounds
leave out the overlong spellings and what lies past the last character. -/
theorem secondOfFour_bounds {a low high : UInt8} (h : secondOfFour a = some (low, high)) :
    (240 ≤ a.toNat ∧ a.toNat ≤ 244) ∧ 128 ≤ low.toNat ∧ high.toNat ≤ 191 ∧
      (a.toNat = 240 → 144 ≤ low.toNat) ∧ (a.toNat = 244 → high.toNat ≤ 143) := by
  unfold secondOfFour at h
  split at h
  · next ha =>
    obtain ⟨rfl, rfl⟩ := Prod.mk.inj (Option.some.inj h)
    obtain rfl := eq_of_beq ha
    decide
  split at h
  · next ha =>
    obtain ⟨rfl, rfl⟩ := Prod.mk.inj (Option.some.inj h)
    obtain rfl := eq_of_beq ha
    decide
  split at h
  · next ha =>
    obtain ⟨rfl, rfl⟩ := Prod.mk.inj (Option.some.inj h)
    have hmin : 0xF1 ≤ a.toNat := ha.1
    have hmax : a.toNat ≤ 0xF3 := ha.2
    simp only [UInt8.reduceToNat]
    omega
  · cases h

theorem twoByte_large {a b : UInt8} {c : Char} (h : twoByte a b = some c) :
    c.toNat = 0 ∨ 128 ≤ c.toNat := by
  unfold twoByte at h
  split at h
  · next hlead =>
    obtain ⟨y, -, hc⟩ := Option.bind_eq_some_iff.mp h
    obtain rfl := Option.some.inj hc
    have hlow : 0xC2 ≤ a.toNat := hlead.1
    have hhigh : a.toNat ≤ 0xDF := hlead.2
    exact toNat_ofNat_of_large (by omega)
  · cases h

theorem threeByte_large {a b d : UInt8} {c : Char} (h : threeByte a b d = some c) :
    c.toNat = 0 ∨ 128 ≤ c.toNat := by
  obtain ⟨⟨low, high⟩, hbounds, h⟩ := Option.bind_eq_some_iff.mp h
  obtain ⟨y, hy, h⟩ := Option.bind_eq_some_iff.mp h
  obtain ⟨z, -, hc⟩ := Option.bind_eq_some_iff.mp h
  obtain rfl := Option.some.inj hc
  obtain ⟨rfl, hlow, hhigh⟩ := continuation_eq hy
  refine toNat_ofNat_of_large ?_
  have hwithin := secondOfThree_bounds hbounds
  omega

theorem fourByte_large {a b d e : UInt8} {c : Char} (h : fourByte a b d e = some c) :
    c.toNat = 0 ∨ 128 ≤ c.toNat := by
  obtain ⟨⟨low, high⟩, hbounds, h⟩ := Option.bind_eq_some_iff.mp h
  obtain ⟨y, hy, h⟩ := Option.bind_eq_some_iff.mp h
  obtain ⟨z, -, h⟩ := Option.bind_eq_some_iff.mp h
  obtain ⟨w, -, hc⟩ := Option.bind_eq_some_iff.mp h
  obtain rfl := Option.some.inj hc
  obtain ⟨rfl, hlow, hhigh⟩ := continuation_eq hy
  refine toNat_ofNat_of_large ?_
  have hwithin := secondOfFour_bounds hbounds
  omega

/-- A character of several bytes is none that one byte could spell. -/
theorem firstChar_large {a : UInt8} {rest : List UInt8} {c : Char} {extra : Nat}
    (ha : ¬ a < 0x80) (h : firstChar a rest = some (c, extra)) : c.toNat = 0 ∨ 128 ≤ c.toNat := by
  unfold firstChar at h
  rw [if_neg ha] at h
  split at h
  · cases h
  split at h
  · next htwo =>
    obtain ⟨rfl, -⟩ := Prod.mk.inj (Option.some.inj h)
    exact twoByte_large htwo
  split at h
  · cases h
  split at h
  · next hthree =>
    obtain ⟨rfl, -⟩ := Prod.mk.inj (Option.some.inj h)
    exact threeByte_large hthree
  split at h
  · cases h
  · obtain ⟨x, hfour, hx⟩ := Option.map_eq_some_iff.mp h
    obtain ⟨rfl, -⟩ := Prod.mk.inj hx
    exact fourByte_large hfour

/-- A byte that spells a character by itself is never stray. -/
theorem stray_ofBytesAfter {b : UInt8} {used : Nat} {bs : List UInt8}
    (h : .stray b ∈ ofBytesAfter used bs) : ¬ b < 0x80 := by
  induction bs generalizing used with
  | nil => cases used <;> cases h
  | cons a rest ih =>
    cases used with
    | succ used => exact ih h
    | zero =>
      rw [ofBytesAfter] at h
      split at h
      · obtain h | h := List.mem_cons.mp h
        · cases h
        · exact ih h
      · next hnone =>
        obtain h | h := List.mem_cons.mp h
        · obtain rfl := Glyph.stray.inj h
          intro hlow
          unfold firstChar at hnone
          rw [if_pos hlow] at hnone
          cases hnone
        · exact ih h

/-- A byte that spells a character stands in no other character. -/
theorem mem_utf8EncodeChar {c : Char} {b : UInt8} (h : b ∈ String.utf8EncodeChar c)
    (hb : b < 0x80) : c = Char.ofNat b.toNat := by
  have hval : c.val.toNat = c.toNat := rfl
  have hno {n : Nat} (hlow : 128 ≤ n) (hhigh : n < 256) : b ≠ UInt8.ofNat n :=
    fun heq => not_single hlow hhigh (heq ▸ hb)
  unfold String.utf8EncodeChar at h
  simp only [hval] at h
  split at h
  · next hn =>
    rw [List.mem_singleton.mp h, toNat_ofNat_small (by omega), Char.ofNat_toNat]
  split at h
  · simp only [List.mem_cons, List.not_mem_nil, or_false] at h
    obtain h | h := h
    · exact absurd h (hno (by omega) (by omega))
    · exact absurd h (hno (by omega) (by omega))
  split at h
  · simp only [List.mem_cons, List.not_mem_nil, or_false] at h
    obtain h | h | h := h
    · exact absurd h (hno (by omega) (by omega))
    · exact absurd h (hno (by omega) (by omega))
    · exact absurd h (hno (by omega) (by omega))
  · simp only [List.mem_cons, List.not_mem_nil, or_false] at h
    obtain h | h | h | h := h
    · exact absurd h (hno (by omega) (by omega))
    · exact absurd h (hno (by omega) (by omega))
    · exact absurd h (hno (by omega) (by omega))
    · exact absurd h (hno (by omega) (by omega))

/-- The text was read from bytes. -/
def Spelled (t : Text) : Prop := ∃ bs, t = ofBytes bs

theorem spelled_of_wellFormed {t : Text} (h : t.wellFormed = true) : t.Spelled :=
  ⟨t.bytes, (ofBytes_bytes h).symm⟩

theorem Spelled.stray {t : Text} (ht : t.Spelled) {b : UInt8} (h : .stray b ∈ t) : ¬ b < 0x80 := by
  obtain ⟨bs, rfl⟩ := ht
  exact stray_ofBytesAfter h

/-! ## Where a character ends -/

/-- Whether a byte belongs to a character of several bytes. -/
def isHigh (b : UInt8) : Bool := 0x80 ≤ b

theorem continuation_low {low high b : UInt8} (hlow : 0x80 ≤ low) (hb : isHigh b = false) :
    continuation low high b = none := by
  refine if_neg fun h => ?_
  have hle : 0x80 ≤ b := UInt8.le_trans hlow h.1
  simp [isHigh, hle] at hb

theorem twoByte_low {a b : UInt8} (hb : isHigh b = false) : twoByte a b = none := by
  unfold twoByte
  rw [continuation_low (by decide) hb]
  split <;> rfl

theorem threeByte_low {a b c : UInt8} (h : isHigh b = false ∨ isHigh c = false) :
    threeByte a b c = none := by
  have hlast {b : UInt8} (hb : isHigh b = false) : continuation 0x80 0xBF b = none :=
    continuation_low (by decide) hb
  unfold threeByte
  cases hs : secondOfThree a with
  | none => rfl
  | some bounds =>
    obtain ⟨low, high⟩ := bounds
    have hlow : 0x80 ≤ low := (secondOfThree_bounds hs).2.1
    obtain hb | hc := h
    · simp [continuation_low hlow hb]
    · simp [hlast hc]

theorem fourByte_low {a b c d : UInt8}
    (h : isHigh b = false ∨ isHigh c = false ∨ isHigh d = false) : fourByte a b c d = none := by
  have hlast {b : UInt8} (hb : isHigh b = false) : continuation 0x80 0xBF b = none :=
    continuation_low (by decide) hb
  unfold fourByte
  cases hs : secondOfFour a with
  | none => rfl
  | some bounds =>
    obtain ⟨low, high⟩ := bounds
    have hlow : 0x80 ≤ low := (secondOfFour_bounds hs).2.1
    obtain hb | hc | hd := h
    · simp [continuation_low hlow hb]
    · simp [hlast hc]
    · simp [hlast hd]

/-- A character ends before the next byte that is a character of its own. -/
theorem firstChar_takeWhile (a : UInt8) (rest : List UInt8) :
    firstChar a (rest.takeWhile isHigh) = firstChar a rest := by
  unfold firstChar
  by_cases ha : a < 0x80
  · rw [if_pos ha, if_pos ha]
  rw [if_neg ha, if_neg ha]
  cases rest with
  | nil => rfl
  | cons b rest =>
    cases hb : isHigh b with
    | false =>
      rw [List.takeWhile_cons_of_neg (by simp [hb])]
      simp only [twoByte_low hb, threeByte_low (.inl hb), fourByte_low (.inl hb), Option.map_none]
      split
      · rfl
      · split <;> rfl
    | true =>
      rw [List.takeWhile_cons_of_pos hb]
      dsimp only
      split
      · rfl
      cases rest with
      | nil => rfl
      | cons c rest =>
        cases hc : isHigh c with
        | false =>
          rw [List.takeWhile_cons_of_neg (by simp [hc])]
          simp only [threeByte_low (.inr hc), fourByte_low (.inr (.inl hc)), Option.map_none]
          split <;> rfl
        | true =>
          rw [List.takeWhile_cons_of_pos hc]
          dsimp only
          split
          · rfl
          cases rest with
          | nil => rfl
          | cons d rest =>
            cases hd : isHigh d with
            | false =>
              rw [List.takeWhile_cons_of_neg (by simp [hd])]
              simp only [fourByte_low (.inr (.inr hd)), Option.map_none]
            | true => rw [List.takeWhile_cons_of_pos hd]

theorem firstChar_length {a : UInt8} {rest : List UInt8} {c : Char} {extra : Nat}
    (h : firstChar a rest = some (c, extra)) : extra ≤ (rest.takeWhile isHigh).length := by
  rw [← firstChar_takeWhile] at h
  generalize rest.takeWhile isHigh = bytes at h
  unfold firstChar at h
  split at h
  · cases h
    exact Nat.zero_le _
  split at h
  · cases h
  split at h
  · cases h
    simp
  split at h
  · cases h
  split at h
  · cases h
    simp
  split at h
  · cases h
  · obtain ⟨x, -, hx⟩ := Option.map_eq_some_iff.mp h
    cases hx
    simp

/-! ## Written as it was read -/

theorem toNat_ofNat_valid {n : Nat} (h : n.isValidChar) : (Char.ofNat n).toNat = n := by
  rw [Char.ofNat, dif_pos h]
  rfl

theorem ofNat_eq_byte {b : UInt8} {n : Nat} (h : n = b.toNat) : UInt8.ofNat n = b := by
  rw [h, UInt8.ofNat_toNat]

theorem encode_twoByte {a b : UInt8} {c : Char} (h : twoByte a b = some c) :
    String.utf8EncodeChar c = [a, b] := by
  unfold twoByte at h
  split at h
  · next hlead =>
    obtain ⟨y, hy, hc⟩ := Option.bind_eq_some_iff.mp h
    obtain rfl := Option.some.inj hc
    obtain ⟨rfl, hlow, hhigh⟩ := continuation_eq hy
    have hmin : 0xC2 ≤ a.toNat := hlead.1
    have hmax : a.toNat ≤ 0xDF := hlead.2
    simp only [UInt8.reduceToNat] at hlow hhigh
    have hval : (Char.ofNat (a.toNat % 32 * 64 + b.toNat % 64)).val.toNat =
        a.toNat % 32 * 64 + b.toNat % 64 := toNat_ofNat_valid (.inl (by omega))
    unfold String.utf8EncodeChar
    simp only [hval]
    rw [if_neg (by omega), if_pos (by omega), ofNat_eq_byte (b := a) (by omega),
      ofNat_eq_byte (b := b) (by omega)]
  · cases h

theorem encode_threeByte {a b d : UInt8} {c : Char} (h : threeByte a b d = some c) :
    String.utf8EncodeChar c = [a, b, d] := by
  obtain ⟨⟨low, high⟩, hbounds, h⟩ := Option.bind_eq_some_iff.mp h
  obtain ⟨y, hy, h⟩ := Option.bind_eq_some_iff.mp h
  obtain ⟨z, hz, hc⟩ := Option.bind_eq_some_iff.mp h
  obtain rfl := Option.some.inj hc
  obtain ⟨rfl, hlow, hhigh⟩ := continuation_eq hy
  obtain ⟨rfl, hlow', hhigh'⟩ := continuation_eq hz
  simp only [UInt8.reduceToNat] at hlow' hhigh'
  have hwithin := secondOfThree_bounds hbounds
  have hval : (Char.ofNat (a.toNat % 16 * 4096 + b.toNat % 64 * 64 + d.toNat % 64)).val.toNat =
      a.toNat % 16 * 4096 + b.toNat % 64 * 64 + d.toNat % 64 :=
    toNat_ofNat_valid (by unfold Nat.isValidChar; omega)
  unfold String.utf8EncodeChar
  simp only [hval]
  rw [if_neg (by omega), if_neg (by omega), if_pos (by omega), ofNat_eq_byte (b := a) (by omega),
    ofNat_eq_byte (b := b) (by omega), ofNat_eq_byte (b := d) (by omega)]

theorem encode_fourByte {a b d e : UInt8} {c : Char} (h : fourByte a b d e = some c) :
    String.utf8EncodeChar c = [a, b, d, e] := by
  obtain ⟨⟨low, high⟩, hbounds, h⟩ := Option.bind_eq_some_iff.mp h
  obtain ⟨y, hy, h⟩ := Option.bind_eq_some_iff.mp h
  obtain ⟨z, hz, h⟩ := Option.bind_eq_some_iff.mp h
  obtain ⟨w, hw, hc⟩ := Option.bind_eq_some_iff.mp h
  obtain rfl := Option.some.inj hc
  obtain ⟨rfl, hlow, hhigh⟩ := continuation_eq hy
  obtain ⟨rfl, hlow', hhigh'⟩ := continuation_eq hz
  obtain ⟨rfl, hlow'', hhigh''⟩ := continuation_eq hw
  simp only [UInt8.reduceToNat] at hlow' hhigh' hlow'' hhigh''
  have hwithin := secondOfFour_bounds hbounds
  have hval : (Char.ofNat (a.toNat % 8 * 262144 + b.toNat % 64 * 4096 + d.toNat % 64 * 64 +
      e.toNat % 64)).val.toNat =
      a.toNat % 8 * 262144 + b.toNat % 64 * 4096 + d.toNat % 64 * 64 + e.toNat % 64 :=
    toNat_ofNat_valid (by unfold Nat.isValidChar; omega)
  unfold String.utf8EncodeChar
  simp only [hval]
  rw [if_neg (by omega), if_neg (by omega), if_neg (by omega), ofNat_eq_byte (b := a) (by omega),
    ofNat_eq_byte (b := b) (by omega), ofNat_eq_byte (b := d) (by omega),
    ofNat_eq_byte (b := e) (by omega)]

/-- A character that was read is written as the bytes that it was read from. -/
theorem encode_firstChar {a : UInt8} {rest : List UInt8} {c : Char} {extra : Nat}
    (h : firstChar a rest = some (c, extra)) :
    ∃ used more, rest = used ++ more ∧ used.length = extra ∧ String.utf8EncodeChar c = a :: used := by
  unfold firstChar at h
  split at h
  · next ha =>
    cases h
    have hsmall : a.toNat < 128 := ha
    have hval : (Char.ofNat a.toNat).val.toNat = a.toNat := toNat_ofNat_valid (.inl (by omega))
    refine ⟨[], rest, rfl, rfl, ?_⟩
    unfold String.utf8EncodeChar
    simp only [hval]
    rw [if_pos (by omega), ofNat_eq_byte rfl]
  cases rest with
  | nil => cases h
  | cons b rest =>
    dsimp only at h
    split at h
    · next htwo =>
      cases h
      exact ⟨[b], rest, rfl, rfl, encode_twoByte htwo⟩
    cases rest with
    | nil => cases h
    | cons d rest =>
      dsimp only at h
      split at h
      · next hthree =>
        cases h
        exact ⟨[b, d], rest, rfl, rfl, encode_threeByte hthree⟩
      cases rest with
      | nil => cases h
      | cons e rest =>
        obtain ⟨x, hfour, hx⟩ := Option.map_eq_some_iff.mp h
        cases hx
        exact ⟨[b, d, e], rest, rfl, rfl, encode_fourByte hfour⟩

/-- Reading loses no byte. -/
theorem bytes_ofBytesAfter (used : Nat) (bs : List UInt8) :
    bytes (ofBytesAfter used bs) = bs.drop used := by
  induction bs generalizing used with
  | nil => cases used <;> rfl
  | cons a rest ih =>
    cases used with
    | succ used => exact ih used
    | zero =>
      rw [ofBytesAfter]
      split
      · next c extra hfirst =>
        obtain ⟨used, more, rfl, rfl, hencode⟩ := encode_firstChar hfirst
        have hsplit (t : Text) : bytes (.char c :: t) = String.utf8EncodeChar c ++ bytes t := rfl
        rw [hsplit, ih, hencode, List.drop_left]
        rfl
      · have hsplit (t : Text) : bytes (.stray a :: t) = a :: bytes t := rfl
        rw [hsplit, ih]
        rfl

theorem bytes_ofBytes (bs : List UInt8) : (ofBytes bs).bytes = bs := bytes_ofBytesAfter 0 bs

end Text
end Stockroom

import Stockroom.Proofs.Text.Numeral
import Stockroom.Proofs.Text.Utf8

/-!
Texts taken apart: at a separator, between two bytes, and at a character of one byte. Such a character
stands for itself wherever it stands, so a text that was read from bytes falls apart there into texts
that were read from bytes, and one-byte characters may be replaced before or after reading.

Main definitions and statements:
* `Text.splitOn_eq_pair`: the texts that a separator splits in two;
* `Text.rejoin_eq`, `Text.Spelled.rejoin`: reading a text again;
* `Text.spelled_cut`: what is left and right of a character of one byte;
* `Text.bytes_take`: what is left of a text when its bytes are cut off;
* `Text.Replacement`, `Text.Replacement.rejoin_map`: characters of one byte replaced.
-/
namespace Stockroom
set_option autoImplicit false

namespace Text

/-! ## Separators -/

theorem splitOn_of_not_mem {sep : Glyph} {t : Text} (h : sep ∉ t) : splitOn sep t = [t] := by
  induction t with
  | nil => rfl
  | cons g t ih =>
    simp only [List.mem_cons, not_or] at h
    rw [splitOn, if_neg (Ne.symm h.1), ih h.2]

theorem splitOn_append {sep : Glyph} {t : Text} (h : sep ∉ t) (rest : Text) :
    splitOn sep (t ++ sep :: rest) = t :: splitOn sep rest := by
  induction t with
  | nil => rw [List.nil_append, splitOn, if_pos rfl]
  | cons g t ih =>
    simp only [List.mem_cons, not_or] at h
    rw [List.cons_append, splitOn, if_neg (Ne.symm h.1), ih h.2]

/-- The first piece ends where the first separator stands, or takes all. -/
theorem splitOn_first (sep : Glyph) (t : Text) :
    (sep ∉ t ∧ splitOn sep t = [t]) ∨
      ∃ first rest, sep ∉ first ∧ t = first ++ sep :: rest ∧
        splitOn sep t = first :: splitOn sep rest := by
  by_cases h : sep ∈ t
  · obtain ⟨first, rest, rfl, hfirst⟩ := List.eq_append_cons_of_mem h
    exact .inr ⟨first, rest, hfirst, rfl, splitOn_append hfirst rest⟩
  · exact .inl ⟨h, splitOn_of_not_mem h⟩

/-- There are two pieces when there is one separator. -/
theorem splitOn_eq_pair {sep : Glyph} {t left right : Text} :
    splitOn sep t = [left, right] ↔ t = left ++ sep :: right ∧ sep ∉ left ∧ sep ∉ right := by
  constructor
  · intro h
    obtain ⟨-, hone⟩ | ⟨first, rest, hfirst, rfl, hsplit⟩ := splitOn_first sep t
    · rw [hone] at h
      cases h
    obtain ⟨hrest, hone⟩ | ⟨second, more, -, -, hmore⟩ := splitOn_first sep rest
    · rw [hsplit, hone] at h
      cases h
      exact ⟨rfl, hfirst, hrest⟩
    · rw [hsplit, hmore] at h
      obtain ⟨third, others, hthird⟩ : ∃ third others, splitOn sep more = third :: others := by
        obtain ⟨-, h⟩ | ⟨_, _, -, -, h⟩ := splitOn_first sep more
        · exact ⟨_, _, h⟩
        · exact ⟨_, _, h⟩
      rw [hthird] at h
      cases h
  · rintro ⟨rfl, hleft, hright⟩
    rw [splitOn_append hleft, splitOn_of_not_mem hright]

/-! ## Reading again -/

theorem rejoin_eq (t : Text) : t.rejoin = ofBytes t.bytes := by
  unfold rejoin
  split
  · next h => exact (ofBytes_bytes h).symm
  · rfl

theorem spelled_rejoin (t : Text) : t.rejoin.Spelled := ⟨t.bytes, rejoin_eq t⟩

@[simp] theorem bytes_rejoin (t : Text) : t.rejoin.bytes = t.bytes := by
  rw [rejoin_eq, bytes_ofBytes]

theorem spelled_iff {t : Text} : t.Spelled ↔ ofBytes t.bytes = t := by
  constructor
  · rintro ⟨bs, rfl⟩
    rw [bytes_ofBytes]
  · exact fun h => ⟨t.bytes, h.symm⟩

theorem Spelled.rejoin {t : Text} (h : t.Spelled) : t.rejoin = t := by
  rw [rejoin_eq, spelled_iff.mp h]

/-! ## Cutting at a character of one byte -/

theorem firstChar_low {b : UInt8} (hb : isHigh b = false) (rest : List UInt8) :
    firstChar b rest = some (Char.ofNat b.toNat, 0) := by
  have hsmall : b < 0x80 := by simpa [isHigh] using hb
  unfold firstChar
  rw [if_pos hsmall]

theorem takeWhile_isHigh {b : UInt8} (hb : isHigh b = false) (xs ys : List UInt8) :
    (xs ++ b :: ys).takeWhile isHigh = xs.takeWhile isHigh := by
  rw [List.takeWhile_append]
  split
  · next hall => rw [List.takeWhile_cons_of_neg (by simp [hb]), List.append_nil,
      (List.takeWhile_prefix isHigh).eq_of_length hall]
  · rfl

/-- Reading stops at a character of one byte and starts again behind it. -/
theorem ofBytesAfter_cut {b : UInt8} (hb : isHigh b = false) {used : Nat} {xs : List UInt8}
    (hused : used ≤ xs.length) (ys : List UInt8) :
    ofBytesAfter used (xs ++ b :: ys) =
      ofBytesAfter used xs ++ .char (Char.ofNat b.toNat) :: ofBytesAfter 0 ys := by
  induction xs generalizing used with
  | nil =>
    obtain rfl : used = 0 := Nat.le_zero.mp hused
    have hstart : ofBytesAfter 0 (b :: ys) =
        .char (Char.ofNat b.toNat) :: ofBytesAfter 0 ys := by
      rw [ofBytesAfter, firstChar_low hb]
    exact hstart
  | cons a xs ih =>
    cases used with
    | succ used => exact ih (Nat.le_of_succ_le_succ hused)
    | zero =>
      have hfirst : firstChar a (xs ++ b :: ys) = firstChar a xs := by
        rw [← firstChar_takeWhile, takeWhile_isHigh hb, firstChar_takeWhile]
      rw [List.cons_append, ofBytesAfter, ofBytesAfter, hfirst]
      split
      · next c extra hchar =>
        have hextra := Nat.le_trans (firstChar_length hchar) (List.takeWhile_prefix isHigh).length_le
        rw [ih hextra]
        rfl
      · rw [ih (Nat.zero_le _)]
        rfl

theorem glyph_bytes_low {b : UInt8} (hb : isHigh b = false) :
    Glyph.bytes (.char (Char.ofNat b.toNat)) = [b] := by
  have hsmall : b.toNat < 128 := by
    have hle : ¬ (0x80 : UInt8) ≤ b := of_decide_eq_false hb
    rw [UInt8.le_iff_toNat_le] at hle
    exact Nat.lt_of_not_le hle
  have hnumber : (Char.ofNat b.toNat).val.toNat = b.toNat :=
    toNat_ofNat_valid (.inl (by omega))
  show String.utf8EncodeChar (Char.ofNat b.toNat) = [b]
  unfold String.utf8EncodeChar
  simp only [hnumber]
  rw [if_pos (by omega), ofNat_eq_byte rfl]

/-- A character of one byte, and its byte. -/
theorem exists_low {c : Char} (hc : c.toNat < 128) :
    ∃ b, isHigh b = false ∧ c = Char.ofNat b.toNat := by
  have hnumber : (UInt8.ofNat c.toNat).toNat = c.toNat := toNat_ofNat_small (by omega)
  have hlow : ¬ (0x80 : UInt8) ≤ UInt8.ofNat c.toNat := by
    rw [UInt8.le_iff_toNat_le, hnumber]
    exact Nat.not_le.mpr hc
  exact ⟨UInt8.ofNat c.toNat, decide_eq_false hlow, by rw [hnumber, Char.ofNat_toNat]⟩

theorem bytes_ne_nil {t : Text} (h : t ≠ []) : t.bytes ≠ [] := by
  cases t with
  | nil => exact absurd rfl h
  | cons g rest =>
    cases g with
    | char c => exact List.append_ne_nil_of_left_ne_nil (String.utf8EncodeChar_ne_nil) _
    | stray b => exact List.cons_ne_nil b _

/-- Two beginnings of a text with the same bytes are the same. -/
theorem eq_of_bytes_eq {s t more others : Text} (h : s ++ more = t ++ others)
    (hbytes : s.bytes = t.bytes) : s = t := by
  have hnone {s more : Text} (h : (s ++ more).bytes = s.bytes) : more = [] := by
    rw [bytes_append, List.append_right_eq_self] at h
    exact Decidable.byContradiction fun hne => bytes_ne_nil hne h
  obtain ⟨gap, rfl, -⟩ | ⟨gap, rfl, -⟩ := List.append_eq_append_iff.mp h
  · rw [hnone hbytes.symm, List.append_nil]
  · rw [hnone hbytes, List.append_nil]

/-- A text with a character of one byte was read from bytes just if both its parts were. -/
theorem spelled_cut {c : Char} (hc : c.toNat < 128) {left right : Text} :
    (left ++ .char c :: right).Spelled ↔ left.Spelled ∧ right.Spelled := by
  obtain ⟨b, hb, rfl⟩ := exists_low hc
  have hbytes : bytes (.char (Char.ofNat b.toNat) :: right) = b :: right.bytes := by
    rw [bytes, List.flatMap_cons, glyph_bytes_low hb]
    rfl
  have hread : ofBytes (left ++ .char (Char.ofNat b.toNat) :: right).bytes =
      ofBytes left.bytes ++ .char (Char.ofNat b.toNat) :: ofBytes right.bytes := by
    rw [bytes_append, hbytes, ofBytes, ofBytesAfter_cut hb (Nat.zero_le _)]
    rfl
  rw [spelled_iff, spelled_iff, spelled_iff, hread]
  constructor
  · intro h
    have hleft : ofBytes left.bytes = left := eq_of_bytes_eq h (bytes_ofBytes _)
    rw [hleft, List.append_cancel_left_eq, List.cons.injEq] at h
    exact ⟨hleft, h.2⟩
  · rintro ⟨hleft, hright⟩
    rw [hleft, hright]

/-! ## Cutting between two bytes -/

/-- A character of several bytes has high bytes only. -/
theorem isHigh_of_long {c : Char} (h : 1 < (String.utf8EncodeChar c).length) {b : UInt8}
    (hb : b ∈ String.utf8EncodeChar c) : isHigh b = true := by
  cases hlow : isHigh b with
  | true => rfl
  | false =>
    have hsmall : b < 0x80 := by simpa [isHigh] using hlow
    have hone : String.utf8EncodeChar c = [b] := by
      rw [mem_utf8EncodeChar hb hsmall]
      exact glyph_bytes_low hlow
    rw [hone] at h
    exact absurd h (by simp)

/-- The first bytes of a text are whole characters, and high bytes of a character that is cut off. -/
theorem bytes_take (cs : List Char) (n : Nat) :
    ∃ kept rest high, cs = kept ++ rest ∧
      (ofChars cs).bytes.take n = (ofChars kept).bytes ++ high ∧ (∀ b ∈ high, isHigh b = true) ∧
      (n < (ofChars cs).bytes.length → rest ≠ []) := by
  induction cs generalizing n with
  | nil => exact ⟨[], [], [], rfl, List.take_nil, (fun _ hb => nomatch hb), (fun h => nomatch h)⟩
  | cons c cs ih =>
    have hsplit (ds : List Char) :
        (ofChars (c :: ds)).bytes = String.utf8EncodeChar c ++ (ofChars ds).bytes := rfl
    by_cases hfits : (String.utf8EncodeChar c).length ≤ n
    · obtain ⟨kept, rest, high, rfl, htake, hhigh, hrest⟩ :=
        ih (n - (String.utf8EncodeChar c).length)
      refine ⟨c :: kept, rest, high, rfl, ?_, hhigh, fun h => hrest ?_⟩
      · rw [hsplit, hsplit, List.take_append, List.take_of_length_le hfits, htake,
          List.append_assoc]
      · rw [hsplit, List.length_append] at h
        omega
    · have hcut : n < (String.utf8EncodeChar c).length := Nat.lt_of_not_le hfits
      refine ⟨[], c :: cs, (String.utf8EncodeChar c).take n, rfl, ?_, fun b hb => ?_,
        fun _ => List.cons_ne_nil c cs⟩
      · rw [hsplit, List.take_append_of_le_length (Nat.le_of_lt hcut)]
        rfl
      · have hpos : 0 < n := by
          rcases Nat.eq_zero_or_pos n with rfl | hpos
          · cases hb
          · exact hpos
        exact isHigh_of_long (by omega) (List.mem_of_mem_take hb)

theorem ofBytes_append (cs : List Char) (bs : List UInt8) :
    ofBytes ((ofChars cs).bytes ++ bs) = ofChars cs ++ ofBytes bs := by
  induction cs with
  | nil => rfl
  | cons c cs ih =>
    have hsplit : (ofChars (c :: cs)).bytes = String.utf8EncodeChar c ++ (ofChars cs).bytes := rfl
    rw [hsplit, List.append_assoc, ofBytes, ofBytesAfter_encode]
    exact congrArg (List.cons (.char c)) ih

/-- High bytes spell no character of one byte. -/
theorem large_of_high {bs : List UInt8} (h : ∀ b ∈ bs, isHigh b = true) {c : Char}
    (hc : c ∈ (ofBytes bs).toChars) : 128 ≤ c.toNat := by
  obtain ⟨g, hg, rfl⟩ := List.mem_map.mp hc
  cases g with
  | stray b =>
    show 128 ≤ '\uFFFD'.toNat
    decide
  | char c =>
    refine Nat.le_of_not_lt fun hsmall => ?_
    obtain ⟨b, hb, rfl⟩ := exists_low hsmall
    have hmem : b ∈ (ofBytes bs).bytes :=
      List.mem_flatMap.mpr ⟨_, hg, glyph_bytes_low hb ▸ List.mem_singleton_self b⟩
    rw [bytes_ofBytes] at hmem
    rw [h b hmem] at hb
    cases hb

/-! ## Characters of one byte replaced -/

/-- The bytes and glyphs after characters of one byte were replaced by others of one byte. -/
structure Replacement (onBytes : UInt8 → UInt8) (onGlyphs : Glyph → Glyph) : Prop where
  low : ∀ b, isHigh b = false → isHigh (onBytes b) = false ∧
    onGlyphs (.char (Char.ofNat b.toNat)) = .char (Char.ofNat (onBytes b).toNat)
  high : ∀ b, isHigh b = true → onBytes b = b ∧ onGlyphs (.stray b) = .stray b
  large : ∀ c : Char, c.toNat = 0 ∨ 128 ≤ c.toNat → onGlyphs (.char c) = .char c

namespace Replacement

variable {onBytes : UInt8 → UInt8} {onGlyphs : Glyph → Glyph} (h : Replacement onBytes onGlyphs)
include h

theorem takeWhile_map (bs : List UInt8) :
    (bs.map onBytes).takeWhile isHigh = bs.takeWhile isHigh := by
  induction bs with
  | nil => rfl
  | cons b bs ih =>
    cases hb : isHigh b with
    | true =>
      rw [List.map_cons, (h.high b hb).1, List.takeWhile_cons_of_pos hb,
        List.takeWhile_cons_of_pos hb, ih]
    | false =>
      rw [List.map_cons, List.takeWhile_cons_of_neg (by simp [(h.low b hb).1]),
        List.takeWhile_cons_of_neg (by simp [hb])]

theorem ofBytesAfter_map (used : Nat) (bs : List UInt8) :
    ofBytesAfter used (bs.map onBytes) = (ofBytesAfter used bs).map onGlyphs := by
  induction bs generalizing used with
  | nil => cases used <;> rfl
  | cons a rest ih =>
    cases used with
    | succ used => exact ih used
    | zero =>
      rw [List.map_cons, ofBytesAfter, ofBytesAfter]
      cases ha : isHigh a with
      | false =>
        rw [firstChar_low (h.low a ha).1, firstChar_low ha]
        dsimp only
        rw [List.map_cons, ih, (h.low a ha).2]
      | true =>
        have hlead : ¬ a < 0x80 := by simpa [isHigh] using ha
        have hfirst : firstChar (onBytes a) (rest.map onBytes) = firstChar a rest := by
          rw [(h.high a ha).1, ← firstChar_takeWhile, h.takeWhile_map, firstChar_takeWhile]
        rw [hfirst]
        cases hchar : firstChar a rest with
        | none =>
          dsimp only
          rw [List.map_cons, ih, (h.high a ha).1, (h.high a ha).2]
        | some found =>
          dsimp only
          rw [List.map_cons, ih, h.large found.1 (firstChar_large hlead hchar)]

theorem glyph_bytes {g : Glyph} (hg : ∀ b, g = .stray b → ¬ b < 0x80) :
    (onGlyphs g).bytes = g.bytes.map onBytes := by
  cases g with
  | stray b =>
    obtain ⟨hbyte, hglyph⟩ := h.high b (by simpa [isHigh] using hg b rfl)
    rw [hglyph]
    exact congrArg (fun x => [x]) hbyte.symm
  | char c =>
    by_cases hc : c.toNat < 128
    · obtain ⟨b, hb, rfl⟩ := exists_low hc
      obtain ⟨hlow, hglyph⟩ := h.low b hb
      rw [hglyph, glyph_bytes_low hlow, glyph_bytes_low hb]
      rfl
    · rw [h.large c (.inr (Nat.le_of_not_lt hc))]
      have hkept : ∀ b ∈ Glyph.bytes (.char c), onBytes b = b := by
        intro b hb
        refine (h.high b ?_).1
        cases hlow : isHigh b with
        | true => rfl
        | false =>
          -- a character with such a byte has no other
          have hsmall : b < 0x80 := by simpa [isHigh] using hlow
          have hnumber : b.toNat < 128 := hsmall
          obtain rfl := mem_utf8EncodeChar hb hsmall
          rw [toNat_ofNat_valid (.inl (by omega))] at hc
          exact absurd hnumber hc
      calc Glyph.bytes (.char c) = (Glyph.bytes (.char c)).map id := (List.map_id _).symm
        _ = (Glyph.bytes (.char c)).map onBytes :=
          List.map_congr_left fun b hb => (hkept b hb).symm

section
variable {t : Text} (ht : ∀ b, .stray b ∈ t → ¬ b < 0x80)
include ht

theorem bytes_map : bytes (t.map onGlyphs) = t.bytes.map onBytes := by
  rw [bytes, bytes, List.flatMap_map, List.map_flatMap, List.flatMap_def, List.flatMap_def]
  exact congrArg List.flatten (List.map_congr_left fun g hg =>
    h.glyph_bytes fun b hb => ht b (hb ▸ hg))

/-- Replacing and reading again can be done in either order. -/
theorem rejoin_map : Text.rejoin (t.map onGlyphs) = t.rejoin.map onGlyphs := by
  rw [rejoin_eq, rejoin_eq, h.bytes_map ht]
  exact h.ofBytesAfter_map 0 t.bytes

end

end Replacement

end Text
end Stockroom

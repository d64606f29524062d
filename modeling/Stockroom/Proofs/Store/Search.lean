import Mathlib.Data.List.Basic
import Mathlib.Data.List.Forall2
import Mathlib.Data.List.TakeWhile
import Stockroom.Proofs.Store.Soundness
import Stockroom.Proofs.Text.Order

/-!
What a search finds. The pattern for a text holds marks before the signs that would stand for
something else, so that it is fitted by the text itself and by nothing else but for the case of ASCII
letters. A null character ends a pattern, though, and with it the sign for any characters at its end:
such a search finds what ends in the text before the null character.

Main definitions and statements:
* `Pattern.fits_escaped`: what fits a text with its marks;
* `charactersOf_holding`: the pattern that a search text is made into;
* `Text.Matches`, `Text.mentions_iff`: what a search finds, for all texts;
* `Text.isSearchable`, `Text.matches_iff_holds`: texts of which a search sees every character;
* `Store.consumableList_search`: the listing for a filter.
-/
namespace Stockroom
set_option autoImplicit false

/-! ## Patterns -/

namespace Pattern

theorem somewhere_iff {cond : List Nat → Bool} {text : List Nat} :
    somewhere cond text = true ↔ ∃ before after, text = before ++ after ∧ cond after = true := by
  induction text with
  | nil =>
    rw [somewhere]
    refine ⟨fun h => ⟨[], [], rfl, h⟩, ?_⟩
    rintro ⟨before, after, heq, h⟩
    rwa [(List.append_eq_nil_iff.mp heq.symm).2] at h
  | cons n rest ih =>
    rw [somewhere, Bool.or_eq_true, ih]
    constructor
    · rintro (h | ⟨before, after, rfl, h⟩)
      · exact ⟨[], n :: rest, rfl, h⟩
      · exact ⟨n :: before, after, rfl, h⟩
    · rintro ⟨before, after, heq, h⟩
      cases before with
      | nil => exact .inl (heq ▸ h)
      | cons m before =>
        rw [List.cons_append, List.cons.injEq] at heq
        exact .inr ⟨before, after, heq.2, h⟩

/-- A sign that stands for something else than itself. -/
def IsSign (n : Nat) : Prop := n = mark.toNat ∨ n = anyRun.toNat ∨ n = anyOne.toNat

instance (n : Nat) : Decidable (IsSign n) := inferInstanceAs (Decidable (_ ∨ _))

/-- Characters with marks before the signs. -/
def escaped (part : List Nat) : List Nat :=
  part.flatMap fun n => if IsSign n then [mark.toNat, n] else [n]

theorem escaped_append (part more : List Nat) : escaped (part ++ more) = escaped part ++ escaped more :=
  List.flatMap_append

theorem escaped_cons (n : Nat) (part : List Nat) :
    escaped (n :: part) = (if IsSign n then [mark.toNat, n] else [n]) ++ escaped part :=
  List.flatMap_cons

variable {n m : Nat} {part rest text : List Nat}

theorem fits_nil : fits [] text = true ↔ text = [] := by
  rw [fits.eq_def]
  exact List.isEmpty_iff

theorem fits_anyRun : fits (anyRun.toNat :: rest) text = somewhere (fits rest) text := by
  rw [fits.eq_def]
  rfl

/-- What follows a mark stands for itself. -/
theorem fits_mark : fits (mark.toNat :: n :: rest) text =
    match text with
    | [] => false
    | m :: text => sameLetter n m && fits rest text := by
  rw [fits.eq_def]
  cases text with
  | nil => rfl
  | cons m text => rfl

theorem fits_plain (h : ¬IsSign n) : fits (n :: rest) text =
    match text with
    | [] => false
    | m :: text => sameLetter n m && fits rest text := by
  simp only [IsSign, not_or] at h
  rw [fits.eq_def]
  dsimp only
  rw [if_neg (by simpa using h.2.1), if_neg (by simpa using h.1), beq_eq_false_iff_ne.mpr h.2.2]
  cases text with
  | nil => rfl
  | cons m text => rfl

/-- With its mark or without one, a character stands for itself. -/
theorem fits_escaped_cons : fits (escaped (n :: part) ++ rest) text =
    match text with
    | [] => false
    | m :: text => sameLetter n m && fits (escaped part ++ rest) text := by
  rw [escaped_cons]
  split
  · exact fits_mark
  · next hplain => exact fits_plain hplain

/-- A text fits characters with their marks when it starts with these characters, and what follows
fits the rest of the pattern. -/
theorem fits_escaped : fits (escaped part ++ rest) text = true ↔ ∃ before after,
    text = before ++ after ∧ before.map lowerNumber = part.map lowerNumber ∧
      fits rest after = true := by
  induction part generalizing text with
  | nil =>
    refine ⟨fun h => ⟨[], text, rfl, rfl, h⟩, ?_⟩
    rintro ⟨before, after, rfl, hbefore, h⟩
    rw [List.map_nil, List.map_eq_nil_iff] at hbefore
    rw [hbefore]
    exact h
  | cons n part ih =>
    cases text with
    | nil =>
      rw [fits_escaped_cons]
      refine iff_of_false Bool.false_ne_true ?_
      rintro ⟨before, after, heq, hbefore, -⟩
      rw [(List.append_eq_nil_iff.mp heq.symm).1] at hbefore
      cases hbefore
    | cons m text =>
      rw [fits_escaped_cons]
      dsimp only
      rw [Bool.and_eq_true, ih, sameLetter, beq_iff_eq]
      constructor
      · rintro ⟨hsame, before, after, rfl, hbefore, h⟩
        exact ⟨m :: before, after, rfl, by rw [List.map_cons, List.map_cons, hsame, hbefore], h⟩
      · rintro ⟨before, after, heq, hbefore, h⟩
        cases before with
        | nil => cases hbefore
        | cons k before =>
          rw [List.cons_append, List.cons.injEq] at heq
          obtain ⟨rfl, rfl⟩ := heq
          rw [List.map_cons, List.map_cons, List.cons.injEq] at hbefore
          exact ⟨hbefore.1.symm, before, after, rfl, hbefore.2, h⟩

/-- Between two signs for any characters a text fits when it is in there somewhere. -/
theorem fits_within : fits (anyRun.toNat :: (escaped part ++ [anyRun.toNat])) text = true ↔
    part.map lowerNumber <:+: text.map lowerNumber := by
  simp only [fits_anyRun, somewhere_iff, fits_escaped, fits_nil]
  constructor
  · rintro ⟨before, _, rfl, found, after, rfl, hfound, -⟩
    refine ⟨before.map lowerNumber, after.map lowerNumber, ?_⟩
    rw [← hfound, List.map_append, List.map_append, List.append_assoc]
  · rintro ⟨before, after, heq⟩
    obtain ⟨front, last, rfl, hfront, rfl⟩ := List.map_eq_append_iff.mp heq.symm
    obtain ⟨first, found, rfl, rfl, hfound⟩ := List.map_eq_append_iff.mp hfront
    exact ⟨first, found ++ last, List.append_assoc _ _ _, found, last, rfl, hfound, last, [],
      (List.append_nil _).symm, rfl⟩

/-- After a sign for any characters a text fits when it stands at the end. -/
theorem fits_ending : fits (anyRun.toNat :: escaped part) text = true ↔
    part.map lowerNumber <:+ text.map lowerNumber := by
  rw [← List.append_nil (escaped part)]
  simp only [fits_anyRun, somewhere_iff, fits_escaped, fits_nil]
  constructor
  · rintro ⟨before, _, rfl, found, _, rfl, hfound, rfl⟩
    refine ⟨before.map lowerNumber, ?_⟩
    rw [← hfound, List.map_append, List.append_nil]
  · rintro ⟨before, heq⟩
    obtain ⟨front, found, rfl, rfl, hfound⟩ := List.map_eq_append_iff.mp heq.symm
    exact ⟨front, found, rfl, found, [], (List.append_nil _).symm, hfound, rfl⟩

end Pattern

/-! ## The characters of a pattern -/

open Pattern (escape escaped IsSign)

/-- What was read ends before a byte that is a character of its own. -/
theorem searchNumbers_ascii {b : UInt8} (hb : b < 0x80) (state : Option Nat) (rest : List UInt8) :
    searchNumbers state (b :: rest) = searchNumbers state [] ++ b.toNat :: searchNumbers none rest := by
  have hsmall : b < 0xC0 := UInt8.lt_trans hb (by decide)
  have hfirst : ¬(0x80 ≤ b ∧ b < 0xC0) := fun h => absurd hb (UInt8.not_lt.mpr h.1)
  cases state with
  | none => rw [searchNumbers.eq_3, if_pos hsmall, searchNumbers.eq_1, List.nil_append]
  | some n =>
    rw [searchNumbers.eq_4, if_neg hfirst, if_pos hsmall, searchNumbers.eq_2]
    rfl

theorem searchNumbers_concat {b : UInt8} (hb : b < 0x80) (state : Option Nat) (bs : List UInt8) :
    searchNumbers state (bs ++ [b]) = searchNumbers state bs ++ [b.toNat] := by
  induction bs generalizing state with
  | nil => exact searchNumbers_ascii hb state []
  | cons a bs ih =>
    rw [List.cons_append]
    cases state with
    | none =>
      rw [searchNumbers, searchNumbers]
      split
      · rw [ih, List.cons_append]
      · exact ih _
    | some n =>
      rw [searchNumbers, searchNumbers]
      split
      · exact ih _
      · split
        · rw [ih, List.cons_append, List.cons_append]
        · rw [ih, List.cons_append]

theorem settledNumber_not_sign (n : Nat) : ¬IsSign (settledNumber n) := by
  have hlarge : 0x80 ≤ settledNumber n := by
    unfold settledNumber
    split
    · decide
    · next h =>
      simp only [Bool.or_eq_true, not_or, decide_eq_true_eq] at h
      omega
  have hmark : Pattern.mark.toNat = 0x5C := rfl
  have hrun : Pattern.anyRun.toNat = 0x25 := rfl
  have hone : Pattern.anyOne.toNat = 0x5F := rfl
  unfold IsSign
  omega

theorem escaped_pending (state : Option Nat) :
    escaped (searchNumbers state []) = searchNumbers state [] := by
  cases state with
  | none => rfl
  | some n => rw [searchNumbers, Pattern.escaped_cons, if_neg (settledNumber_not_sign n)]; rfl

theorem escape_cons (b : UInt8) (bs : List UInt8) :
    escape (b :: bs) = (if IsSign b.toNat then [Pattern.mark, b] else [b]) ++ escape bs := by
  have hsign : (b == Pattern.mark || b == Pattern.anyRun || b == Pattern.anyOne) = true ↔
      IsSign b.toNat := by
    simp only [Bool.or_eq_true, beq_iff_eq, IsSign, UInt8.toNat_inj, or_assoc]
  rw [escape, List.flatMap_cons]
  simp only [hsign]
  rfl

/-- A search sees the marks before the signs, and all else as it was. -/
theorem searchNumbers_escape (state : Option Nat) (bs : List UInt8) :
    searchNumbers state (escape bs) = escaped (searchNumbers state bs) := by
  induction bs generalizing state with
  | nil => exact (escaped_pending state).symm
  | cons b bs ih =>
    rw [escape_cons]
    split
    · next hsign =>
      have hb : b < 0x80 := by
        rw [UInt8.lt_iff_toNat_lt]
        rcases hsign with h | h | h <;> rw [h] <;> decide
      rw [List.cons_append, List.cons_append, searchNumbers_ascii (by decide),
        searchNumbers_ascii hb, searchNumbers_ascii hb, Pattern.escaped_append, escaped_pending,
        Pattern.escaped_cons, if_pos hsign, List.nil_append, ih]
      rfl
    · next hplain =>
      rw [List.cons_append, List.nil_append]
      cases state with
      | none =>
        rw [searchNumbers, searchNumbers]
        split
        · rw [ih, Pattern.escaped_cons, if_neg hplain]
          rfl
        · exact ih _
      | some n =>
        rw [searchNumbers, searchNumbers]
        split
        · exact ih _
        · split
          · rw [ih, Pattern.escaped_cons, if_neg (settledNumber_not_sign n), Pattern.escaped_cons,
              if_neg hplain]
            rfl
          · rw [ih, Pattern.escaped_cons, if_neg (settledNumber_not_sign n)]
            rfl

theorem escape_append (bs more : List UInt8) : escape (bs ++ more) = escape bs ++ escape more :=
  List.flatMap_append

/-- Marks are no null characters. -/
theorem zero_not_mem_escape {bs : List UInt8} (h : 0 ∉ bs) : 0 ∉ escape bs := by
  intro hzero
  obtain ⟨b, hb, hzero⟩ := List.mem_flatMap.mp hzero
  have hmark : (0 : UInt8) ≠ Pattern.mark := by decide
  split at hzero
  · simp only [List.mem_cons, hmark, List.not_mem_nil, or_false, false_or] at hzero
    exact h (hzero ▸ hb)
  · exact h (List.mem_singleton.mp hzero ▸ hb)

section
variable {bs : List UInt8} (h : 0 ∉ bs)
include h

theorem takeWhile_append_of_not_mem (rest : List UInt8) :
    (bs ++ rest).takeWhile (· != 0) = bs ++ rest.takeWhile (· != 0) :=
  List.takeWhile_append_of_pos fun _ hb => bne_iff_ne.mpr fun heq => h (heq ▸ hb)

theorem takeWhile_of_not_mem : bs.takeWhile (· != 0) = bs :=
  List.takeWhile_eq_self_iff.mpr fun _ hb => bne_iff_ne.mpr fun heq => h (heq ▸ hb)

end

/-- The pattern that a search text is made into. A null character ends it. -/
theorem charactersOf_holding (part : Text) : charactersOf (Pattern.holding part) =
    Pattern.anyRun.toNat :: (escaped (charactersOf part.bytes) ++
      if 0 ∈ part.bytes then [] else [Pattern.anyRun.toNat]) := by
  have hrun : (Pattern.anyRun != 0) = true := by decide
  have hascii : Pattern.anyRun < 0x80 := by decide
  rw [charactersOf, Pattern.holding, List.cons_append, List.takeWhile_cons, if_pos hrun,
    searchNumbers_ascii hascii]
  split
  · next hzero =>
    obtain ⟨before, after, hsplit, hbefore⟩ := List.eq_append_cons_of_mem hzero
    have hends : (escape part.bytes ++ [Pattern.anyRun]).takeWhile (· != 0) = escape before := by
      rw [hsplit, escape_append, List.append_assoc,
        takeWhile_append_of_not_mem (zero_not_mem_escape hbefore), escape_cons]
      exact List.append_nil _
    have hsame : part.bytes.takeWhile (· != 0) = before := by
      rw [hsplit, takeWhile_append_of_not_mem hbefore]
      exact List.append_nil _
    rw [hends, searchNumbers_escape, charactersOf, hsame, List.append_nil]
    rfl
  · next hzero =>
    have hwhole : (escape part.bytes ++ [Pattern.anyRun]).takeWhile (· != 0) =
        escape part.bytes ++ [Pattern.anyRun] :=
      takeWhile_append_of_not_mem (zero_not_mem_escape hzero) _
    rw [hwhole, searchNumbers_concat hascii, searchNumbers_escape, charactersOf,
      takeWhile_of_not_mem hzero]
    rfl

/-- The characters of a text as a search sees them, without the case of ASCII letters. -/
def Text.searched (t : Text) : List Nat := (charactersOf t.bytes).map lowerNumber

/-- What a search finds, on the characters that it sees: whatever holds the text somewhere, or, if
there is a null character in the text, whatever ends in what stands before it. -/
def Text.Matches (t part : Text) : Prop :=
  if 0 ∈ part.bytes then part.searched <:+ t.searched else part.searched <:+: t.searched

instance (t part : Text) : Decidable (t.Matches part) :=
  inferInstanceAs (Decidable (ite _ (part.searched <:+ t.searched) (part.searched <:+: t.searched)))

theorem Text.mentions_iff {t part : Text} : t.mentions part = true ↔ t.Matches part := by
  rw [mentions, charactersOf_holding, Matches]
  split
  · rw [List.append_nil, Pattern.fits_ending]
    rfl
  · exact Pattern.fits_within

/-! ## Texts of which a search sees every character -/

/-- Whether a search sees a character for what it is. -/
def isSearched (c : Char) : Bool := c.toNat != 0 && c.toNat != 0xFFFE && c.toNat != 0xFFFF

/-- Whether a text has no stray byte, and no character that a search takes for another one. -/
def Text.isSearchable (t : Text) : Bool := t.wellFormed && t.toChars.all isSearched

/-- What follows is no part of the character that is being read. -/
def Settled (bs : List UInt8) : Prop := ∀ b rest, bs = b :: rest → ¬(0x80 ≤ b ∧ b < 0xC0)

theorem settled_cons {b : UInt8} {rest : List UInt8} (h : b < 0x80 ∨ 0xC0 ≤ b) :
    Settled (b :: rest) := by
  rintro a more heq ⟨hlow, hhigh⟩
  obtain ⟨rfl, rfl⟩ := List.cons.inj heq
  rcases h with h | h
  · exact absurd h (UInt8.not_lt.mpr hlow)
  · exact absurd hhigh (UInt8.not_lt.mpr h)

theorem searchNumbers_settled {rest : List UInt8} (h : Settled rest) (n : Nat) :
    searchNumbers (some n) rest = settledNumber n :: searchNumbers none rest := by
  cases rest with
  | nil => rfl
  | cons b rest =>
    rw [searchNumbers.eq_4, searchNumbers.eq_3, if_neg (h b rest rfl)]
    split
    · rfl
    · rfl

theorem searchNumbers_lead {k : Nat} (hlow : 0xC0 ≤ k) (hhigh : k < 0x100) (rest : List UInt8) :
    searchNumbers none (UInt8.ofNat k :: rest) =
      searchNumbers (some (leadBits (UInt8.ofNat k))) rest := by
  have hbyte := Text.toNat_ofNat_small hhigh
  have hlarge : ¬UInt8.ofNat k < 0xC0 := by
    rw [UInt8.lt_iff_toNat_lt, hbyte]
    simp only [UInt8.reduceToNat]
    omega
  rw [searchNumbers.eq_3, if_neg hlarge]

theorem searchNumbers_tail {k : Nat} (hk : k < 64) (n : Nat) (rest : List UInt8) :
    searchNumbers (some n) (UInt8.ofNat (k + 128) :: rest) =
      searchNumbers (some ((n * 64 + k) % Nat.pow 2 32)) rest := by
  have hbyte := Text.toNat_ofNat_small (n := k + 128) (by omega)
  have htail : 0x80 ≤ UInt8.ofNat (k + 128) ∧ UInt8.ofNat (k + 128) < 0xC0 := by
    rw [UInt8.le_iff_toNat_le, UInt8.lt_iff_toNat_lt, hbyte]
    simp only [UInt8.reduceToNat]
    omega
  have hbits : (k + 128) % 64 = k := by omega
  rw [searchNumbers.eq_4, if_pos htail, hbyte, hbits]

/-- The bits in the first byte of a character of two, three and four bytes. -/
theorem leadBits_ofNat {k : Nat} (hhigh : k < 0xF8) : leadBits (UInt8.ofNat k) =
    if k < 0xE0 then k % 32 else if k < 0xF0 then k % 16 else k % 8 := by
  rw [leadBits, Text.toNat_ofNat_small (by omega), if_pos hhigh]

theorem char_toNat_lt (c : Char) : c.toNat < 0x110000 := by
  have hpair : c.toNat < 0xD800 ∨ 0xDFFF < c.toNat ∧ c.toNat < 0x110000 := c.valid
  omega

theorem settledNumber_eq {c : Char} (hc : isSearched c = true) (hlarge : 128 ≤ c.toNat) :
    settledNumber c.toNat = c.toNat := by
  have hpair : c.toNat < 0xD800 ∨ 0xDFFF < c.toNat ∧ c.toNat < 0x110000 := c.valid
  simp only [isSearched, Bool.and_eq_true, bne_iff_ne] at hc
  rw [settledNumber, if_neg]
  simp only [Bool.or_eq_true, Bool.and_eq_true, decide_eq_true_eq, beq_iff_eq]
  omega

/-- A character is seen in the bytes it is written as. -/
theorem searchNumbers_encode {c : Char} (hc : isSearched c = true) {rest : List UInt8}
    (hrest : Settled rest) :
    searchNumbers none (String.utf8EncodeChar c ++ rest) = c.toNat :: searchNumbers none rest := by
  have hval : c.val.toNat = c.toNat := rfl
  have hbound := char_toNat_lt c
  have hpow : Nat.pow 2 32 = 4294967296 := by decide
  unfold String.utf8EncodeChar
  simp only [hval]
  split
  · next hn =>
    have hbyte := Text.toNat_ofNat_small (n := c.toNat) (by omega)
    have hsmall : UInt8.ofNat c.toNat < 0x80 := by
      rw [UInt8.lt_iff_toNat_lt, hbyte]
      simp only [UInt8.reduceToNat]
      omega
    rw [List.singleton_append, searchNumbers_ascii hsmall, hbyte]
    rfl
  next hlarge =>
  have hsettled := settledNumber_eq hc (by omega)
  split
  · have hnumber : ((c.toNat / 64 % 32 + 192) % 32 * 64 + c.toNat % 64) % 4294967296 = c.toNat := by
      omega
    rw [List.cons_append, searchNumbers_lead (by omega) (by omega), leadBits_ofNat (by omega),
      if_pos (by omega), List.singleton_append, searchNumbers_tail (by omega),
      searchNumbers_settled hrest, hpow, hnumber, hsettled]
  split
  · have hnumber : (((c.toNat / 4096 % 16 + 224) % 16 * 64 + c.toNat / 64 % 64) % 4294967296 * 64 +
        c.toNat % 64) % 4294967296 = c.toNat := by omega
    rw [List.cons_append, searchNumbers_lead (by omega) (by omega), leadBits_ofNat (by omega),
      if_neg (by omega), if_pos (by omega), List.cons_append, searchNumbers_tail (by omega),
      List.singleton_append, searchNumbers_tail (by omega), searchNumbers_settled hrest, hpow,
      hnumber, hsettled]
  · have hnumber : ((((c.toNat / 262144 % 8 + 240) % 8 * 64 + c.toNat / 4096 % 64) % 4294967296 * 64 +
        c.toNat / 64 % 64) % 4294967296 * 64 + c.toNat % 64) % 4294967296 = c.toNat := by omega
    rw [List.cons_append, searchNumbers_lead (by omega) (by omega), leadBits_ofNat (by omega),
      if_neg (by omega), if_neg (by omega), List.cons_append, searchNumbers_tail (by omega),
      List.cons_append, searchNumbers_tail (by omega), List.singleton_append,
      searchNumbers_tail (by omega), searchNumbers_settled hrest, hpow, hnumber, hsettled]

/-- A character starts with a byte that is no part of the one before it. -/
theorem settled_encode (c : Char) (rest : List UInt8) : Settled (String.utf8EncodeChar c ++ rest) := by
  have hval : c.val.toNat = c.toNat := rfl
  have hbound := char_toNat_lt c
  have hlead {k : Nat} (hlow : 0xC0 ≤ k) (hhigh : k < 0x100) : 0xC0 ≤ UInt8.ofNat k := by
    rw [UInt8.le_iff_toNat_le, Text.toNat_ofNat_small hhigh]
    exact hlow
  unfold String.utf8EncodeChar
  simp only [hval]
  split
  · next hn =>
    refine settled_cons (.inl ?_)
    rw [UInt8.lt_iff_toNat_lt, Text.toNat_ofNat_small (by omega)]
    simp only [UInt8.reduceToNat]
    omega
  split
  · exact settled_cons (.inr (hlead (by omega) (by omega)))
  split
  · exact settled_cons (.inr (hlead (by omega) (by omega)))
  · exact settled_cons (.inr (hlead (by omega) (by omega)))

namespace Text

variable {t part : Text}

theorem settled_bytes (h : t.wellFormed = true) : Settled t.bytes := by
  cases t with
  | nil => exact fun b rest heq => nomatch heq
  | cons g t =>
    cases g with
    | char c => exact settled_encode c _
    | stray b => cases h

theorem searchNumbers_bytes (hformed : t.wellFormed = true) (hchars : t.toChars.all isSearched = true) :
    searchNumbers none t.bytes = t.toChars.map Char.toNat := by
  induction t with
  | nil => rfl
  | cons g t ih =>
    rw [wellFormed, List.all_cons, Bool.and_eq_true] at hformed
    cases g with
    | stray b => cases hformed.1
    | char c =>
      have hbytes : bytes (.char c :: t) = String.utf8EncodeChar c ++ bytes t := rfl
      have hboth : isSearched c = true ∧ (toChars t).all isSearched = true :=
        Bool.and_eq_true_iff.mp hchars
      rw [hbytes, searchNumbers_encode hboth.1 (settled_bytes hformed.2), ih hformed.2 hboth.2]
      rfl

theorem zero_not_mem_bytes (hformed : t.wellFormed = true)
    (hchars : t.toChars.all isSearched = true) : 0 ∉ t.bytes := by
  intro hzero
  obtain ⟨g, hg, hzero⟩ := List.mem_flatMap.mp hzero
  have hchar := List.all_eq_true.mp hformed g hg
  cases g with
  | stray b => cases hchar
  | char c =>
    have hsearched := List.all_eq_true.mp hchars c (List.mem_map_of_mem (f := Glyph.toChar) hg)
    rw [mem_utf8EncodeChar hzero (by decide)] at hsearched
    revert hsearched
    decide

/-- A text holds another one, up to the case of ASCII letters. -/
def Holds (t part : Text) : Prop :=
  part.toChars.map Char.toLower <:+: t.toChars.map Char.toLower

instance (t part : Text) : Decidable (t.Holds part) :=
  inferInstanceAs (Decidable (_ <:+: _))

theorem lowerNumber_toNat (c : Char) : lowerNumber c.toNat = c.toLower.toNat := by
  have hcapital : (c.val ≥ 'A'.val ∧ c.val ≤ 'Z'.val) ↔ 65 ≤ c.toNat ∧ c.toNat ≤ 90 := by
    rw [ge_iff_le, UInt32.le_iff_toNat_le, UInt32.le_iff_toNat_le]
    rfl
  unfold lowerNumber Char.toLower
  split
  · next h =>
    rw [dif_pos (hcapital.mpr h)]
    change c.toNat + 32 = (c.val + ('a'.val - 'A'.val)).toNat
    rw [UInt32.toNat_add]
    change c.toNat + 32 = (c.toNat + 32) % 2 ^ 32
    omega
  · next h => rw [dif_neg (mt hcapital.mp h)]

theorem searched_eq (h : t.isSearchable = true) :
    t.searched = (t.toChars.map Char.toLower).map Char.toNat := by
  obtain ⟨hformed, hchars⟩ := Bool.and_eq_true_iff.mp h
  rw [searched, charactersOf, takeWhile_of_not_mem (zero_not_mem_bytes hformed hchars),
    searchNumbers_bytes hformed hchars, List.map_map, List.map_map]
  exact List.map_congr_left fun c _ => lowerNumber_toNat c

/-- Where a search sees every character it finds the texts that hold the text, whatever signs there
are in either of them. -/
theorem matches_iff_holds (ht : t.isSearchable = true) (hpart : part.isSearchable = true) :
    t.Matches part ↔ t.Holds part := by
  obtain ⟨hformed, hchars⟩ := Bool.and_eq_true_iff.mp hpart
  rw [Matches, if_neg (zero_not_mem_bytes hformed hchars), searched_eq ht, searched_eq hpart]
  refine ⟨fun h => ?_, fun h => h.map _⟩
  obtain ⟨found, hfound, hsame⟩ := List.infix_map_iff.mp h
  have hinjective : Function.Injective Char.toNat := fun _ _ => Char.toNat_inj.mp
  rw [Holds, List.map_injective_iff.mpr hinjective hsame]
  exact hfound

end Text

/-! ## Listings -/

namespace ConsumableFilter

/-- The consumables that a filter asks for, when `finds` says where its text is found. -/
def Selects (f : ConsumableFilter) (finds : Text → Text → Prop) (r : ConsumableRow) : Prop :=
  (f.branch = [] ∨ r.branch = f.branch) ∧ (f.state = [] ∨ r.state = f.state) ∧
    (f.wanted = [] ∨ finds r.brand f.wanted ∨ finds r.reference f.wanted)

instance (f : ConsumableFilter) (finds : Text → Text → Prop) [DecidableRel finds]
    (r : ConsumableRow) : Decidable (f.Selects finds r) :=
  inferInstanceAs (Decidable (_ ∧ _))

/-- The search sees every character of the texts that it goes by. -/
def SeesAll (f : ConsumableFilter) (r : ConsumableRow) : Prop :=
  f.wanted = [] ∨ f.wanted.isSearchable = true ∧ r.brand.isSearchable = true ∧
    r.reference.isSearchable = true

instance (f : ConsumableFilter) (r : ConsumableRow) : Decidable (f.SeesAll r) :=
  inferInstanceAs (Decidable (_ ∨ _))

variable {f : ConsumableFilter} {r : ConsumableRow}

theorem keeps_iff : f.keeps r = true ↔ f.Selects Text.Matches r := by
  simp only [keeps, inPlace, Selects, Bool.and_eq_true, Bool.or_eq_true, List.isEmpty_iff,
    beq_iff_eq, Text.mentions_iff, and_assoc, or_assoc]

theorem selects_matches_iff (h : f.SeesAll r) :
    f.Selects Text.Matches r ↔ f.Selects Text.Holds r := by
  rcases h with hall | ⟨hwanted, hbrand, hreference⟩
  · simp only [Selects, hall, true_or]
  · simp only [Selects, Text.matches_iff_holds hbrand hwanted,
      Text.matches_iff_holds hreference hwanted]

end ConsumableFilter

namespace ConsumableRow

/-- The order by brand, reference and id, texts by their bytes. -/
def Precedes (a b : ConsumableRow) : Prop :=
  a.brand.bytes < b.brand.bytes ∨ a.brand.bytes = b.brand.bytes ∧
    (a.reference.bytes < b.reference.bytes ∨ a.reference.bytes = b.reference.bytes ∧ a.id ≤ b.id)

theorem isLE_compare {a b : ConsumableRow} : (a.compare b).isLE = true ↔ a.Precedes b := by
  simp only [compare, Precedes, Ordering.isLE_then_iff_or, Text.compare_eq_lt, Text.compare_eq_eq,
    Int.isLE_compare]

theorem transCmp_compare : Std.TransCmp compare :=
  transCmp_then (Text.transCmp_column brand)
    (transCmp_then (Text.transCmp_column reference) (inferInstanceAs (Std.TransCmp (compareOn id))))

end ConsumableRow

namespace Store

theorem consumablesKept_perm (s : Store) (f : ConsumableFilter) :
    (s.consumablesKept f).Perm (s.consumables.filter fun r => f.Selects Text.Matches r) := by
  have hselected : s.consumables.filter f.keeps =
      s.consumables.filter fun r => f.Selects Text.Matches r :=
    List.filter_congr fun r _ => by
      rw [Bool.eq_iff_iff, decide_eq_true_eq]
      exact ConsumableFilter.keeps_iff
  rw [consumablesKept, ← hselected]
  exact sortedBy_perm _ _

theorem consumablesKept_pairwise (s : Store) (f : ConsumableFilter) :
    (s.consumablesKept f).Pairwise ConsumableRow.Precedes := by
  have := ConsumableRow.transCmp_compare
  exact List.Pairwise.imp ConsumableRow.isLE_compare.mp (sortedBy_pairwise _)

/-- A pattern that is not too long leaves the reading of the table and of the rows that are kept. -/
theorem consumableList_short {f : ConsumableFilter}
    (hlimit : f.patternLength ≤ ConsumableFilter.maxPattern) (s : Store) : s.consumableList f = (do
      s.readable [.consumables] "listing consumables"
      (s.consumablesKept f).mapM (s.loadConsumable "scanning consumable")) := by
  have hshort : decide (f.patternLength > ConsumableFilter.maxPattern) = false := by
    rw [decide_eq_false_iff_not]
    omega
  rw [consumableList, hshort, Bool.and_false, Bool.false_and]
  rfl

/-- The listing for a filter whose pattern is not too long: the rows that the filter asks for, each as
often as it is in the table, in order, and loaded one after another, which succeeds in a sound store.
Where the search sees all of the texts, these are the rows that hold its text, whatever signs there
are in any of them. -/
theorem consumableList_search (s : Store) (f : ConsumableFilter)
    (hlimit : f.patternLength ≤ ConsumableFilter.maxPattern) :
    ∃ rows : List ConsumableRow,
      rows.Perm (s.consumables.filter fun r => f.Selects Text.Matches r) ∧
      rows.Pairwise ConsumableRow.Precedes ∧
      s.consumableList f = (do
        s.readable [.consumables] "listing consumables"
        rows.mapM (s.loadConsumable "scanning consumable")) ∧
      (s.Sound → ∃ cs, s.consumableList f = .ok cs ∧
        List.Forall₂ (fun (r : ConsumableRow) c => r.load = .ok c) rows cs) ∧
      ∀ r ∈ s.consumables, f.SeesAll r → (r ∈ rows ↔ f.Selects Text.Holds r) := by
  have hlist := consumableList_short hlimit s
  refine ⟨s.consumablesKept f, s.consumablesKept_perm f, s.consumablesKept_pairwise f, hlist,
    fun hs => ?_, fun r hr hseen => ?_⟩
  · obtain ⟨cs, hcs⟩ := FailsOnly.succeeds fun e he => Nat.not_lt.mpr hlimit (hs.consumableList f e he)
    refine ⟨cs, hcs, ?_⟩
    obtain ⟨_, -, hloaded⟩ := bind_eq_ok.mp (hlist.symm.trans hcs)
    have hpairs := mapM_eq_ok.mp hloaded
    rw [← List.forall₂_eq_eq_eq, List.forall₂_map_left_iff, List.forall₂_map_right_iff] at hpairs
    exact hpairs.imp fun r c => loadConsumable_eq_ok
  · rw [(s.consumablesKept_perm f).mem_iff, List.mem_filter, decide_eq_true_eq,
      ConsumableFilter.selects_matches_iff hseen]
    exact and_iff_right hr

/-- A black toner that is in stock. -/
def tonerNamed (id : Int) (brand reference : Text) : ConsumableRow where
  id := id
  brand := brand
  reference := reference
  tonerTag := TonerType.unicolor.tag
  black := 1
  cyan := -1
  magenta := -1
  yellow := -1
  colorBlack := -1
  drum := -1
  branch := "F"
  description := []
  state := inStockState
  createdAt := { unix := 0 }
  updatedAt := { unix := 0 }

/-- A store with signs in the names of its toners. -/
def storeOfSigns : Store :=
  { consumables := [tonerNamed 1 "HP 50" "26A", tonerNamed 2 "hp" "x%_\\A", tonerNamed 3 "Hp" "%-\\a"] }

theorem tonerNamed_wellMarked (id : Int) (brand reference : Text) :
    (tonerNamed id brand reference).WellMarked where
  tag := .inl rfl
  state := .inl rfl
  unicolor _ := ⟨Int.one_nonneg, rfl, rfl, rfl, rfl⟩
  multicolor h := absurd h TonerType.tag_ne
  drum := Int.le_refl _

theorem storeOfSigns_sound : storeOfSigns.Sound :=
  ⟨rfl, by simp [storeOfSigns, tonerNamed_wellMarked]⟩

/-- A search in the branch for signs and a letter of the other case. -/
def signsInF : ConsumableFilter := { branch := "F", search := " %_\\a" }

theorem signsInF_found : signsInF.patternLength ≤ ConsumableFilter.maxPattern ∧
    signsInF.SeesAll (tonerNamed 2 "hp" "x%_\\A") ∧
    signsInF.Selects Text.Holds (tonerNamed 2 "hp" "x%_\\A") ∧
    ∃ c, (tonerNamed 2 "hp" "x%_\\A").load = .ok c ∧
      storeOfSigns.consumableList signsInF = .ok [c] := by
  have hlimit : signsInF.patternLength ≤ ConsumableFilter.maxPattern := by decide +kernel
  have hseen : signsInF.SeesAll (tonerNamed 2 "hp" "x%_\\A") := by decide +kernel
  obtain ⟨rows, hrows, -, -, hsound, hheld⟩ := consumableList_search storeOfSigns signsInF hlimit
  have hfound : storeOfSigns.consumables.filter (fun r => signsInF.Selects Text.Matches r) =
      [tonerNamed 2 "hp" "x%_\\A"] := by decide +kernel
  rw [hfound, List.perm_singleton] at hrows
  subst hrows
  obtain ⟨cs, hcs, hloaded⟩ := hsound storeOfSigns_sound
  obtain ⟨c, rest, hload, hrest, rfl⟩ := List.forall₂_cons_left_iff.mp hloaded
  rw [List.forall₂_nil_left_iff.mp hrest] at hcs
  have hmem : tonerNamed 2 "hp" "x%_\\A" ∈ storeOfSigns.consumables := by simp [storeOfSigns]
  exact ⟨hlimit, hseen, (hheld _ hmem hseen).mp List.mem_cons_self, c, hload, hcs⟩

/-- A search for a null character. -/
def nullSearch : ConsumableFilter := { search := [.char (Char.ofNat 0)] }

/-- It lists the toners, though there is no null character in them. -/
theorem nullSearch_overfound :
    nullSearch.patternLength ≤ ConsumableFilter.maxPattern ∧ nullSearch.wanted ≠ [] ∧
      ¬nullSearch.Selects Text.Holds (tonerNamed 1 "HP" "26A") ∧
      ∃ c, (tonerNamed 1 "HP" "26A").load = .ok c ∧
        ({ consumables := [tonerNamed 1 "HP" "26A"] } : Store).consumableList nullSearch =
          .ok [c] := by
  have hlimit : nullSearch.patternLength ≤ ConsumableFilter.maxPattern := by decide +kernel
  refine ⟨hlimit, by decide +kernel, by decide +kernel, _, rfl, ?_⟩
  have hkept : ({ consumables := [tonerNamed 1 "HP" "26A"] } : Store).consumablesKept nullSearch =
      [tonerNamed 1 "HP" "26A"] := List.mergeSort_singleton _
  rw [consumableList_short hlimit, hkept]
  rfl

end Store
end Stockroom

import Mathlib.Data.Nat.Bitwise
import Stockroom.Proofs.Outcome
import Stockroom.Proofs.Text.Utf8
import Stockroom.Text.Folded

/-!
What the tables of canonical equivalence say of every character. A character comes apart into
characters that do not come apart, what is composed comes apart again into what it was composed of,
and letters in lower case behave like the letters they stand for. White space takes no part in any of
it.

A table is compared with another one as a whole: a set of code points is a number with a bit for each
of them, so that two sets are disjoint if the numbers have no bit in common.

Main definitions and statements:
* `codeBits`, `Apart`: sets of code points as numbers, and sets without a common one;
* `Simple`, `expand_simple`, `simple_of_mem_expand`: the characters that do not come apart;
* `Composition`, `composePair_composes`: what composing two characters gives;
* `lowerChar_twice`, `Simple.lower`, `composePair_lower`: letters in lower case;
* `Inert`, `inert_of_isBlankChar`: white space.
-/
namespace Stockroom
set_option autoImplicit false

/-! ## Sets of code points -/

/-- The bits of a run of code points. -/
def runBits (first last : Nat) : Nat := (2 ^ (last + 1 - first) - 1) <<< first

/-- The bits of the code points in some runs. -/
def codeBits (ranges : List (Nat × Nat)) : Nat :=
  ranges.foldr (fun r bits => runBits r.1 r.2 ||| bits) 0

/-- Code points as runs of one. -/
def oneByOne (codes : List Nat) : List (Nat × Nat) := codes.map fun n => (n, n)

section
variable {these those : List (Nat × Nat)} {n : Nat}

theorem testBit_runBits (first last n : Nat) :
    (runBits first last).testBit n = (decide (first ≤ n) && decide (n ≤ last)) := by
  rw [runBits, Nat.testBit_shiftLeft, Nat.testBit_two_pow_sub_one, Bool.eq_iff_iff]
  simp only [Bool.and_eq_true, decide_eq_true_eq]
  omega

theorem testBit_codeBits (ranges : List (Nat × Nat)) (n : Nat) :
    (codeBits ranges).testBit n = inRanges ranges n := by
  induction ranges with
  | nil => exact Nat.zero_testBit n
  | cons r rest ih =>
    rw [codeBits, List.foldr_cons, Nat.testBit_or, testBit_runBits, ← codeBits, ih]
    rfl

/-- A certificate that two sets of code points have no bit in common. -/
structure Apart (these those : List (Nat × Nat)) : Type where
  bits : codeBits these &&& codeBits those = 0

/-- Sets without a bit in common have no code point in common. -/
theorem Apart.out (certificate : Apart these those) (h : inRanges these n = true) :
    inRanges those n = false := by
  have hbit : (codeBits these &&& codeBits those).testBit n = false := by
    rw [certificate.bits]
    exact Nat.zero_testBit n
  rwa [Nat.testBit_and, testBit_codeBits, testBit_codeBits, h, Bool.true_and] at hbit

theorem inRanges_append :
    inRanges (these ++ those) n = (inRanges these n || inRanges those n) := List.any_append

theorem inRanges_of_mem {r : Nat × Nat} (h : r ∈ these) (hlow : r.1 ≤ n) (hhigh : n ≤ r.2) :
    inRanges these n = true :=
  List.any_eq_true.mpr ⟨r, h, by simp [hlow, hhigh]⟩

theorem inRanges_oneByOne {codes : List Nat} : inRanges (oneByOne codes) n = true ↔ n ∈ codes := by
  rw [inRanges, List.any_eq_true]
  constructor
  · rintro ⟨r, hr, hn⟩
    obtain ⟨k, hk, rfl⟩ := List.mem_map.mp hr
    simp only [Bool.and_eq_true, decide_eq_true_eq] at hn
    obtain rfl : k = n := by omega
    exact hk
  · intro hn
    exact ⟨(n, n), List.mem_map.mpr ⟨n, hn, rfl⟩, by simp⟩

theorem lookup_eq_none {α : Type} {table : List (Nat × α)} :
    table.lookup n = none ↔ n ∉ table.map (·.1) := by
  rw [List.lookup_eq_none_iff, List.mem_map]
  constructor
  · rintro h ⟨e, he, rfl⟩
    simpa using h e he
  · intro h e he
    exact bne_iff_ne.mpr fun heq => h ⟨e, he, heq.symm⟩

/-- Of a table only the entries that may be looked up matter. -/
theorem lookup_filter {α : Type} {p : Nat → Bool} (h : p n = true) (table : List (Nat × α)) :
    (table.filter fun e => p e.1).lookup n = table.lookup n := by
  induction table with
  | nil => rfl
  | cons e rest ih =>
    rw [List.filter_cons]
    by_cases hsame : n = e.1
    · rw [if_pos (hsame ▸ h), List.lookup_cons, List.lookup_cons, hsame, beq_self_eq_true]
    · rw [List.lookup_cons, beq_eq_false_iff_ne.mpr hsame, ← ih]
      split
      · rw [List.lookup_cons, beq_eq_false_iff_ne.mpr hsame]
      · rfl

/-- A table by runs of code points has nothing on a code point in none of them. -/
theorem find?_eq_none {α : Type} {table : List (Nat × Nat × α)} :
    table.find? (fun e => decide (e.1 ≤ n) && decide (n ≤ e.2.1)) = none ↔
      inRanges (table.map fun e => (e.1, e.2.1)) n = false := by
  rw [List.find?_eq_none, inRanges, List.any_map, List.any_eq_false]
  rfl

end

theorem toNat_ofNat_or (n : Nat) : (Char.ofNat n).toNat = n ∨ (Char.ofNat n).toNat = 0 := by
  by_cases h : n.isValidChar
  · exact .inl (Text.toNat_ofNat_valid h)
  · rw [Char.ofNat, dif_neg h]
    exact .inr rfl

/-! ## Characters that come apart -/

/-- Korean syllables. -/
def syllables : List (Nat × Nat) := [(0xAC00, 0xD7A3)]

/-- Korean letters, which form syllables. -/
def syllableLetters : List (Nat × Nat) :=
  [(0x1100, 0x1112), (0x1161, 0x1175), (0x11A7, 0x11C2)]

/-- The characters that come apart. -/
def comingApart : List (Nat × Nat) :=
  syllables ++ oneByOne (singletons.map (·.1) ++ expansions.map (·.1))

/-- What the tables say characters come apart into. -/
def parts : List Nat := singletons.map (·.2) ++ expansions.flatMap (·.2)

set_option maxRecDepth 20000 in
/-- The first characters, and Korean letters, stay. -/
def latinStays : Apart ((0, 0xBF) :: syllableLetters) comingApart := ⟨by decide +kernel⟩

theorem isSyllable_iff (n : Nat) : isSyllable n = inRanges syllables n := by
  rw [isSyllable, inRanges, syllables, List.any_cons, List.any_nil, Bool.or_false, Bool.eq_iff_iff]
  simp only [Bool.and_eq_true, decide_eq_true_eq]
  omega

/-- A character that does not come apart. -/
def Simple (c : Char) : Prop := inRanges comingApart c.toNat = false

section
variable {c d : Char}

theorem Simple.not_syllable (h : Simple c) : isSyllable c.toNat = false := by
  rw [Simple, comingApart, inRanges_append, Bool.or_eq_false_iff] at h
  rw [isSyllable_iff]
  exact h.1

theorem expand_simple (h : Simple c) : expand c = [c] := by
  have hsyllable := h.not_syllable
  rw [Simple, comingApart, inRanges_append, Bool.or_eq_false_iff] at h
  have hnot : c.toNat ∉ singletons.map (·.1) ++ expansions.map (·.1) := fun hmem => by
    rw [inRanges_oneByOne.mpr hmem] at h
    cases h.2
  rw [List.mem_append, not_or] at hnot
  simp only [expand]
  rw [hsyllable, lookup_eq_none.mpr hnot.1, lookup_eq_none.mpr hnot.2]
  split <;> rfl

theorem simple_of_letter (h : inRanges syllableLetters c.toNat = true) : Simple c :=
  latinStays.out (Bool.or_eq_true_iff.mpr (.inr h))

theorem exists_of_syllable {n : Nat} (h : isSyllable n = true) : ∃ l v t, l < 19 ∧ v < 21 ∧ t < 28 ∧
    n = 0xAC00 + (l * 21 + v) * 28 + t := by
  simp only [isSyllable, Bool.and_eq_true, decide_eq_true_eq] at h
  exact ⟨(n - 0xAC00) / 588, (n - 0xAC00) % 588 / 28, (n - 0xAC00) % 28, by omega, by omega,
    by omega, by omega⟩

/-- A Korean syllable comes apart into the letters it is counted by. -/
theorem syllableParts_eq {l v t : Nat} (hv : v < 21) (ht : t < 28) :
    syllableParts (0xAC00 + (l * 21 + v) * 28 + t) =
      Char.ofNat (0x1100 + l) :: Char.ofNat (0x1161 + v) ::
        if t = 0 then [] else [Char.ofNat (0x11A7 + t)] := by
  have hfirst : (0xAC00 + (l * 21 + v) * 28 + t - 0xAC00) / 588 = l := by omega
  have hvowel : (0xAC00 + (l * 21 + v) * 28 + t - 0xAC00) % 588 / 28 = v := by omega
  have hlast : (0xAC00 + (l * 21 + v) * 28 + t - 0xAC00) % 28 = t := by omega
  simp only [syllableParts]
  rw [hfirst, hvowel, hlast]
  split <;> rfl

theorem toNat_letter {n : Nat} (h : n < 0x2000) : (Char.ofNat n).toNat = n :=
  Text.toNat_ofNat_valid (.inl (by omega))

theorem letter_of_first {l : Nat} (h : l < 19) :
    inRanges syllableLetters (Char.ofNat (0x1100 + l)).toNat = true := by
  rw [toNat_letter (by omega)]
  exact inRanges_of_mem (List.mem_cons_self ..) (by omega) (by omega)

theorem letter_of_vowel {v : Nat} (h : v < 21) :
    inRanges syllableLetters (Char.ofNat (0x1161 + v)).toNat = true := by
  rw [toNat_letter (by omega)]
  exact inRanges_of_mem (.tail _ (List.mem_cons_self ..)) (by omega) (by omega)

theorem letter_of_last {t : Nat} (h : t < 28) :
    inRanges syllableLetters (Char.ofNat (0x11A7 + t)).toNat = true := by
  rw [toNat_letter (by omega)]
  exact inRanges_of_mem (.tail _ (.tail _ (List.mem_cons_self ..))) (by omega) (by omega)

/-- The marks that are put in order. -/
def orderedMarks : List (Nat × Nat) := classRuns.map fun run => (run.1, run.2.1)

/-- The characters that only resemble others. -/
def lookalikes : List (Nat × Nat) := looseEdges.map fun edge => (edge.1, edge.2.1)

theorem canonicalClass_eq_zero (h : inRanges orderedMarks c.toNat = false) : canonicalClass c = 0 := by
  simp only [canonicalClass]
  rw [find?_eq_none.mpr h]
  split <;> rfl

theorem orderedMark_of_canonicalClass (h : canonicalClass c ≠ 0) :
    inRanges orderedMarks c.toNat = true := by
  rw [← Bool.not_eq_false]
  exact fun hnot => h (canonicalClass_eq_zero hnot)

/-- The characters that cling to the one before them, but for lookalikes. -/
def clinging : List (Nat × Nat) :=
  orderedMarks ++ oneByOne joiners ++ [(0x1161, 0x1175), (0x11A7, 0x11C2)]

theorem clinging_of_clings (h : clings c = true) : inRanges clinging c.toNat = true := by
  simp only [clings, Bool.or_eq_true, decide_eq_true_eq] at h
  rw [clinging, inRanges_append, inRanges_append, Bool.or_eq_true, Bool.or_eq_true]
  obtain ((hclass | hjoiner) | hvowel) | hlast := h
  · exact .inl (.inl (orderedMark_of_canonicalClass (by omega)))
  · exact .inl (.inr (inRanges_oneByOne.mpr (List.contains_iff_mem.mp hjoiner)))
  · rw [Bool.and_eq_true, decide_eq_true_eq, decide_eq_true_eq] at hvowel
    exact .inr (inRanges_of_mem (List.mem_cons_self ..) hvowel.1 hvowel.2)
  · rw [Bool.and_eq_true, decide_eq_true_eq, decide_eq_true_eq] at hlast
    exact .inr (inRanges_of_mem (.tail _ (List.mem_cons_self ..)) hlast.1 hlast.2)

/-- None of the first characters clings. -/
def nothingEarly : Apart [(0, 0x2FF)] clinging := ⟨by decide +kernel⟩

theorem clings_early (h : c.toNat < 0x300) : clings c = false := by
  rw [← Bool.not_eq_true]
  intro hclings
  have hlow : inRanges [(0, 0x2FF)] c.toNat = true :=
    inRanges_of_mem (List.mem_singleton_self _) (Nat.zero_le _) (by omega)
  have hnot : inRanges clinging c.toNat = false := nothingEarly.out hlow
  rw [clinging_of_clings hclings] at hnot
  cases hnot

/-- The edges of a character that is no lookalike and no Korean syllable. -/
theorem edges_eq (hlow : 0xA8 ≤ c.toNat) (hsyllable : isSyllable c.toNat = false)
    (hnot : inRanges lookalikes c.toNat = false) : edges c =
      (((expand c).takeWhile clings).length, ((expand c).reverse.takeWhile clings).length) := by
  simp only [edges]
  rw [if_neg (by omega), hsyllable, find?_eq_none.mpr hnot]
  rfl

theorem edges_simple (h : Simple c) (hnot : inRanges lookalikes c.toNat = false) :
    edges c = if clings c then (1, 1) else (0, 0) := by
  by_cases hlow : c.toNat < 0xA8
  · rw [clings_early (by omega)]
    simp only [edges]
    rw [if_pos hlow]
    rfl
  · rw [edges_eq (by omega) h.not_syllable hnot, expand_simple h]
    cases hclings : clings c <;> simp [hclings]

/-- The characters, Korean ones apart, that compose or are composed. -/
def paired : List Nat := spacedPairs.flatMap fun pair => [pair.1.1, pair.1.2, pair.2]

/-- All characters that compose or are composed. -/
def composing : List (Nat × Nat) := syllables ++ syllableLetters ++ oneByOne paired

/-- What becomes of two characters that compose: they come apart again, the first of them starts with
no character that clings, and what they compose to has one more such character at its end. -/
structure Composition (a b x : Char) : Prop where
  expanded : expand x = expand a ++ expand b
  first : (edges a).1 = 0
  edge : edges x = (0, (edges a).2 + 1)
  composing : inRanges composing a.toNat = true ∧ inRanges composing b.toNat = true ∧
    inRanges composing x.toNat = true

/-- What the characters come apart into that compose or are composed. One of them, which is composed of
a mark and a vowel sign, composes with another vowel sign. -/
def spacedExpansions : List (Nat × List Nat) :=
  spacedPairs.flatMap fun pair =>
    if pair.1.1 = 0xCCA then
      [(pair.1.1, [0xCC6, 0xCC2]), (pair.2, [0xCC6, 0xCC2, pair.1.2])]
    else [(pair.2, [pair.1.1, pair.1.2])]

/-- What a code point comes apart into, if it composes or is composed. -/
def unfolded (n : Nat) : List Nat := (spacedExpansions.lookup n).getD [n]

theorem expansions_paired :
    expansions.filter (fun e => (codeBits (oneByOne paired)).testBit e.1) = spacedExpansions := by
  decide +kernel

/-- What composes or is composed has a place in the table of expansions, if in any. -/
def pairedSeveral : Apart (oneByOne paired)
    (((0, 0xBF) :: lookalikes) ++ syllables ++ oneByOne (singletons.map (·.1))) := ⟨by decide +kernel⟩

theorem unfolded_composed : ∀ pair ∈ spacedPairs, pair.2.isValidChar ∧
    unfolded pair.2 = unfolded pair.1.1 ++ unfolded pair.1.2 ∧ unfolded pair.1.2 = [pair.1.2] ∧
    joiners.contains pair.1.2 = true ∧ unfolded pair.1.1 ≠ [] := by
  decide +kernel

/-- What the first of two characters that compose starts with. -/
def foremost : List Nat := spacedPairs.map fun pair => (unfolded pair.1.1).headD 0

def foremostStands : Apart (oneByOne foremost) clinging := ⟨by decide +kernel⟩

/-- What a character that composes or is composed is like. -/
theorem several_of_paired (h : c.toNat ∈ paired) : 0xC0 ≤ c.toNat ∧
    inRanges lookalikes c.toNat = false ∧ isSyllable c.toNat = false ∧
    c.toNat ∉ singletons.map (·.1) := by
  have hnot := pairedSeveral.out (inRanges_oneByOne.mpr h)
  rw [inRanges_append, inRanges_append, Bool.or_eq_false_iff, Bool.or_eq_false_iff, inRanges,
    List.any_cons, ← inRanges, Bool.or_eq_false_iff, ← isSyllable_iff] at hnot
  obtain ⟨⟨⟨hlatin, hlookalike⟩, hsyllable⟩, hsingle⟩ := hnot
  refine ⟨?_, hlookalike, hsyllable, fun hmem => ?_⟩
  · simp only [Nat.zero_le, decide_true, Bool.true_and, decide_eq_false_iff_not] at hlatin
    omega
  · rw [inRanges_oneByOne.mpr hmem] at hsingle
    cases hsingle

theorem expand_paired (h : c.toNat ∈ paired) : expand c = (unfolded c.toNat).map Char.ofNat := by
  obtain ⟨hlatin, -, hsyllable, hsingle⟩ := several_of_paired h
  have hbit : (codeBits (oneByOne paired)).testBit c.toNat = true := by
    rw [testBit_codeBits]
    exact inRanges_oneByOne.mpr h
  simp only [expand]
  rw [if_neg (by omega), hsyllable, if_neg Bool.false_ne_true, lookup_eq_none.mpr hsingle, unfolded,
    ← expansions_paired, lookup_filter hbit]
  cases expansions.lookup c.toNat with
  | none => rw [Option.getD_none, List.map_singleton, Char.ofNat_toNat]
  | some several => rfl

theorem paired_of_mem {pair : (Nat × Nat) × Nat} (h : pair ∈ spacedPairs) :
    pair.1.1 ∈ paired ∧ pair.1.2 ∈ paired ∧ pair.2 ∈ paired :=
  ⟨List.mem_flatMap.mpr ⟨pair, h, by simp⟩, List.mem_flatMap.mpr ⟨pair, h, by simp⟩,
    List.mem_flatMap.mpr ⟨pair, h, by simp⟩⟩

theorem composition_spaced {a b : Char} {n : Nat} (h : ((a.toNat, b.toNat), n) ∈ spacedPairs) :
    Composition a b (Char.ofNat n) := by
  obtain ⟨ha, hb, hx⟩ := paired_of_mem h
  obtain ⟨hvalid, hunfolded, hsecond, hjoiner, hfirst⟩ := unfolded_composed _ h
  dsimp only at ha hb hx hvalid hunfolded hsecond hjoiner hfirst
  rw [← Text.toNat_ofNat_valid hvalid] at hx
  have hexpand : expand (Char.ofNat n) = expand a ++ expand b := by
    rw [expand_paired hx, expand_paired ha, expand_paired hb, Text.toNat_ofNat_valid hvalid, hunfolded,
      List.map_append]
  have hlast : expand b = [b] := by
    rw [expand_paired hb, hsecond, List.map_singleton, Char.ofNat_toNat]
  have hclings : clings b = true := by
    rw [clings, hjoiner]
    simp
  obtain ⟨d, more, hparts⟩ := List.exists_cons_of_ne_nil hfirst
  have hstands : clings (Char.ofNat d) = false := by
    have hmem : d ∈ foremost := List.mem_map.mpr ⟨_, h, by rw [hparts]; rfl⟩
    obtain heq | hzero := toNat_ofNat_or d
    · rw [← Bool.not_eq_true]
      intro hclings
      have hnot : inRanges clinging d = false := foremostStands.out (inRanges_oneByOne.mpr hmem)
      rw [← heq, clinging_of_clings hclings] at hnot
      cases hnot
    · exact clings_early (by omega)
  have hfirst : expand a = Char.ofNat d :: more.map Char.ofNat := by
    rw [expand_paired ha, hparts, List.map_cons]
  have hedges : edges a = (0, ((expand a).reverse.takeWhile clings).length) := by
    obtain ⟨hlow, hlookalike, hsyllable, -⟩ := several_of_paired ha
    rw [edges_eq (by omega) hsyllable hlookalike, hfirst, List.takeWhile_cons, hstands]
    rfl
  refine ⟨hexpand, by rw [hedges], ?_, ?_⟩
  · obtain ⟨hlow, hlookalike, hsyllable, -⟩ := several_of_paired hx
    rw [edges_eq (by omega) hsyllable hlookalike, hedges, hexpand, hlast, List.reverse_append,
      List.reverse_singleton, List.singleton_append, List.takeWhile_cons, hclings, hfirst,
      List.cons_append, List.takeWhile_cons, hstands]
    rfl
  · have hcomposing {c : Char} (hc : c.toNat ∈ paired) : inRanges composing c.toNat = true := by
      rw [composing, inRanges_append, inRanges_oneByOne.mpr hc, Bool.or_true]
    exact ⟨hcomposing ha, hcomposing hb, hcomposing hx⟩

theorem syllable_composing {n : Nat} (h : isSyllable n = true) : inRanges composing n = true := by
  rw [composing, inRanges_append, inRanges_append, ← isSyllable_iff, h, Bool.true_or, Bool.true_or]

theorem letter_composing {n : Nat} (h : inRanges syllableLetters n = true) :
    inRanges composing n = true := by
  rw [composing, inRanges_append, inRanges_append, h, Bool.or_true, Bool.true_or]

/-- Korean letters only resemble themselves. -/
def lettersStand : Apart syllableLetters lookalikes := ⟨by decide +kernel⟩

/-- The first consonants of syllables do not cling. -/
def firstsStand : Apart [(0x1100, 0x1112)] clinging := ⟨by decide +kernel⟩

theorem toNat_syllable {n : Nat} (h : isSyllable n = true) : (Char.ofNat n).toNat = n := by
  simp only [isSyllable, Bool.and_eq_true, decide_eq_true_eq] at h
  exact Text.toNat_ofNat_valid (by unfold Nat.isValidChar; omega)

theorem isSyllable_counted {l v t : Nat} (hl : l < 19) (hv : v < 21) (ht : t < 28) :
    isSyllable (0xAC00 + (l * 21 + v) * 28 + t) = true := by
  simp only [isSyllable, Bool.and_eq_true, decide_eq_true_eq]
  omega

theorem expand_syllable (h : isSyllable c.toNat = true) : expand c = syllableParts c.toNat := by
  have hlow : ¬ c.toNat < 0xC0 := by
    simp only [isSyllable, Bool.and_eq_true, decide_eq_true_eq] at h
    omega
  simp only [expand]
  rw [if_neg hlow, if_pos h]

theorem edges_syllable (h : isSyllable c.toNat = true) :
    edges c = (0, (syllableParts c.toNat).length - 1) := by
  have hlow : ¬ c.toNat < 0xA8 := by
    simp only [isSyllable, Bool.and_eq_true, decide_eq_true_eq] at h
    omega
  simp only [edges]
  rw [if_neg hlow, if_pos h]

/-- A first consonant and a vowel compose to a syllable. -/
theorem composition_open {a b : Char} {l v : Nat} (hl : l < 19) (hv : v < 21)
    (ha : a.toNat = 0x1100 + l) (hb : b.toNat = 0x1161 + v) :
    Composition a b (Char.ofNat (0xAC00 + (l * 21 + v) * 28)) := by
  have hsyllable := isSyllable_counted hl hv (t := 0) (by omega)
  have hparts := syllableParts_eq (l := l) hv (t := 0) (by omega)
  rw [Nat.add_zero] at hsyllable hparts
  rw [← ha, ← hb, Char.ofNat_toNat, Char.ofNat_toNat] at hparts
  have hfirst : inRanges syllableLetters a.toNat = true := by
    rw [ha, ← toNat_letter (n := 0x1100 + l) (by omega)]
    exact letter_of_first hl
  have hvowel : inRanges syllableLetters b.toNat = true := by
    rw [hb, ← toNat_letter (n := 0x1161 + v) (by omega)]
    exact letter_of_vowel hv
  have hstands : clings a = false := by
    rw [← Bool.not_eq_true]
    intro hclings
    have hnot : inRanges clinging a.toNat = false :=
      firstsStand.out (inRanges_of_mem (List.mem_singleton_self _) (by omega) (by omega))
    rw [clinging_of_clings hclings] at hnot
    cases hnot
  have hedges : edges a = (0, 0) := by
    rw [edges_simple (simple_of_letter hfirst) (lettersStand.out hfirst), hstands]
    rfl
  have hwhole := toNat_syllable hsyllable
  refine ⟨?_, by rw [hedges], ?_, letter_composing hfirst, letter_composing hvowel, ?_⟩
  · rw [expand_syllable (hwhole.symm ▸ hsyllable), hwhole, hparts,
      expand_simple (simple_of_letter hfirst), expand_simple (simple_of_letter hvowel)]
    rfl
  · rw [edges_syllable (hwhole.symm ▸ hsyllable), hwhole, hparts, hedges]
    rfl
  · exact syllable_composing (hwhole.symm ▸ hsyllable)

/-- A syllable without a last consonant and such a consonant compose to a syllable. -/
theorem composition_closed {a b : Char} {l v t : Nat} (hl : l < 19) (hv : v < 21) (ht : t < 28)
    (hpos : t ≠ 0) (ha : a.toNat = 0xAC00 + (l * 21 + v) * 28) (hb : b.toNat = 0x11A7 + t) :
    Composition a b (Char.ofNat (0xAC00 + (l * 21 + v) * 28 + t)) := by
  have hopen := isSyllable_counted hl hv (t := 0) (by omega)
  have hfront := syllableParts_eq (l := l) hv (t := 0) (by omega)
  rw [Nat.add_zero, ← ha] at hopen hfront
  have hsyllable := isSyllable_counted hl hv ht
  have hparts := syllableParts_eq (l := l) hv ht
  rw [if_neg hpos, ← hb, Char.ofNat_toNat] at hparts
  have hlast : inRanges syllableLetters b.toNat = true := by
    rw [hb, ← toNat_letter (n := 0x11A7 + t) (by omega)]
    exact letter_of_last ht
  have hwhole := toNat_syllable hsyllable
  refine ⟨?_, ?_, ?_, syllable_composing hopen, letter_composing hlast, ?_⟩
  · rw [expand_syllable (hwhole.symm ▸ hsyllable), hwhole, hparts, expand_syllable hopen, hfront,
      expand_simple (simple_of_letter hlast)]
    rfl
  · rw [edges_syllable hopen]
  · rw [edges_syllable (hwhole.symm ▸ hsyllable), hwhole, hparts, edges_syllable hopen, hfront]
    rfl
  · exact syllable_composing (hwhole.symm ▸ hsyllable)

theorem composition_syllable {a b : Char} {n : Nat}
    (h : composeSyllable a.toNat b.toNat = some n) : Composition a b (Char.ofNat n) := by
  simp only [composeSyllable, Bool.and_eq_true, decide_eq_true_eq, beq_iff_eq] at h
  split at h
  · next hletters =>
    obtain ⟨⟨⟨hfirst, hfirst'⟩, hvowel⟩, hvowel'⟩ := hletters
    obtain rfl := Option.some.inj h
    exact composition_open (l := a.toNat - 0x1100) (v := b.toNat - 0x1161) (by omega) (by omega)
      (by omega) (by omega)
  · split at h
    · next hletters =>
      obtain ⟨⟨⟨hsyllable, hopen⟩, hlast⟩, hlast'⟩ := hletters
      obtain rfl := Option.some.inj h
      obtain ⟨l, v, t, hl, hv, ht, ha⟩ := exists_of_syllable hsyllable
      obtain rfl : t = 0 := by omega
      have hclosed := composition_closed (a := a) (b := b) (t := b.toNat - 0x11A7) hl hv (by omega)
        (by omega) ha (by omega)
      rwa [← Nat.add_zero (0xAC00 + (l * 21 + v) * 28), ← ha] at hclosed
    · cases h

/-- Whatever composes comes apart again. -/
theorem composePair_composes {a b x : Char} (h : composePair a b = some x) : Composition a b x := by
  simp only [composePair] at h
  split at h
  · cases h
  split at h
  · next hsyllable =>
    obtain rfl := Option.some.inj h
    exact composition_syllable hsyllable
  · obtain ⟨n, hn, rfl⟩ := Option.map_eq_some_iff.mp h
    exact composition_spaced (mem_of_lookup_eq_some hn)

theorem composePair_eq_none {a : Char} (h : inRanges composing a.toNat = false) (b : Char) :
    composePair a b = none := by
  cases hpair : composePair a b with
  | none => rfl
  | some x =>
    rw [(composePair_composes hpair).composing.1] at h
    cases h

/-! ## Letters in lower case -/

/-- The letters of a run. -/
def LowerRun.letters (r : LowerRun) : List Nat :=
  List.range' r.first ((r.last - r.first) / r.step + 1) r.step

/-- The upper-case letters with the letters they become. -/
def casePairs : List (Nat × Nat) :=
  lowerRuns.flatMap fun r => r.letters.map fun n => (n, (n + r.distance).toNat)

/-- The upper-case letters. -/
def upperLetters : List Nat := casePairs.map (·.1)

/-- What upper-case letters become. -/
def lowerLetters : List Nat := casePairs.map (·.2)

theorem LowerRun.mem_letters {r : LowerRun} {n : Nat} (h : r.holds n = true) : n ∈ r.letters := by
  simp only [holds, Bool.and_eq_true, decide_eq_true_eq, beq_iff_eq] at h
  obtain ⟨⟨hfirst, hlast⟩, hstep⟩ := h
  refine List.mem_range'.mpr ⟨(n - r.first) / r.step, ?_, ?_⟩
  · exact Nat.lt_succ_of_le (Nat.div_le_div_right (by omega))
  · have hsplit := Nat.div_add_mod (n - r.first) r.step
    omega

theorem ascii_letters : ∀ n ∈ List.range' 65 26, (n, n + 32) ∈ casePairs.take 26 := by
  decide +kernel

theorem toLower_cases (c : Char) :
    c.toLower = c ∨ (c.toNat, c.toNat + 32) ∈ casePairs ∧ c.toLower = Char.ofNat (c.toNat + 32) := by
  unfold Char.toLower
  split
  · next hupper =>
    simp only [ge_iff_le, UInt32.le_iff_toNat_le] at hupper
    have hbounds : 65 ≤ c.toNat ∧ c.toNat ≤ 90 := hupper
    refine .inr ⟨List.mem_of_mem_take (ascii_letters _ (List.mem_range'_1.mpr (by omega))), ?_⟩
    refine Char.toNat_inj.mp ?_
    rw [Text.toNat_ofNat_valid (.inl (by omega))]
    change (c.val + ('a'.val - 'A'.val)).toNat = c.toNat + 32
    rw [UInt32.toNat_add]
    change (c.toNat + 32) % 2 ^ 32 = c.toNat + 32
    omega
  · exact .inl rfl

theorem lowerChar_cases (c : Char) : lowerChar c = c ∨
    ∃ pair ∈ casePairs, c.toNat = pair.1 ∧ lowerChar c = Char.ofNat pair.2 := by
  rw [lowerChar]
  split
  · obtain heq | ⟨hmem, heq⟩ := toLower_cases c
    · exact .inl heq
    · exact .inr ⟨_, hmem, rfl, heq⟩
  split
  · next r hfind =>
    have hholds := List.find?_some hfind
    exact .inr ⟨(c.toNat, (c.toNat + r.distance).toNat), List.mem_flatMap.mpr
      ⟨r, List.mem_of_find?_eq_some hfind, List.mem_map_of_mem (r.mem_letters hholds)⟩, rfl, rfl⟩
  · exact .inl rfl

/-- What letters are not: neither do they cling, compose or mark, nor are they white space. -/
def letterless : List (Nat × Nat) := composing ++ clinging ++ markRanges

set_option maxRecDepth 20000 in
/-- Letters neither compose nor cling, and are no marks. -/
def lettersIdle : Apart (oneByOne (upperLetters ++ lowerLetters)) letterless := ⟨by decide +kernel⟩

/-- What the letters become that do not come apart. -/
def stayingLetters : List Nat :=
  (casePairs.filter fun pair => !(codeBits comingApart).testBit pair.1).map (·.2)

set_option maxRecDepth 20000 in
/-- What a letter that does not come apart becomes does not either. -/
def loweredStay : Apart (oneByOne stayingLetters) comingApart := ⟨by decide +kernel⟩

set_option maxRecDepth 20000 in
theorem lowered_valid : ∀ n ∈ lowerLetters, n.isValidChar := by
  decide +kernel

/-- What is known of a letter and of what it becomes. -/
structure Lowered (n m : Nat) : Prop where
  upper : n ∈ upperLetters
  lower : m ∈ lowerLetters
  valid : m.isValidChar

theorem lowered_of_mem {pair : Nat × Nat} (h : pair ∈ casePairs) : Lowered pair.1 pair.2 :=
  ⟨List.mem_map_of_mem h, List.mem_map_of_mem h, lowered_valid _ (List.mem_map_of_mem h)⟩

section
variable {n m : Nat} (h : Lowered n m)
include h

theorem Lowered.toNat_eq : (Char.ofNat m).toNat = m := Text.toNat_ofNat_valid h.valid

theorem Lowered.idle : inRanges letterless n = false ∧ inRanges letterless m = false :=
  ⟨lettersIdle.out (inRanges_oneByOne.mpr (List.mem_append_left _ h.upper)),
    lettersIdle.out (inRanges_oneByOne.mpr (List.mem_append_right _ h.lower))⟩

end

/-- What is not a letter becomes no other character. -/
theorem lowerChar_eq_self (h : c.toNat ∉ upperLetters) : lowerChar c = c := by
  obtain heq | ⟨pair, hpair, hupper, -⟩ := lowerChar_cases c
  · exact heq
  · exact absurd (hupper ▸ (lowered_of_mem hpair).upper) h

theorem Simple.lower (h : Simple c) : Simple (lowerChar c) := by
  obtain heq | ⟨pair, hpair, hupper, heq⟩ := lowerChar_cases c
  · rwa [heq]
  · have hmem : pair.2 ∈ stayingLetters := by
      refine List.mem_map_of_mem (List.mem_filter.mpr ⟨hpair, ?_⟩)
      rw [testBit_codeBits, ← hupper, h]
      rfl
    rw [heq, Simple, (lowered_of_mem hpair).toNat_eq]
    exact loweredStay.out (inRanges_oneByOne.mpr hmem)

/-- What is true of the code points of no letters is kept when a character becomes another one. -/
theorem letterless_lower (c : Char) :
    lowerChar c = c ∨ inRanges letterless c.toNat = false ∧
      inRanges letterless (lowerChar c).toNat = false := by
  obtain heq | ⟨pair, hpair, hupper, heq⟩ := lowerChar_cases c
  · exact .inl heq
  · have hlowered := lowered_of_mem hpair
    rw [heq, hlowered.toNat_eq, hupper]
    exact .inr hlowered.idle

theorem not_letterless {n : Nat} (h : inRanges letterless n = false) : inRanges composing n = false ∧
    inRanges clinging n = false ∧ inRanges markRanges n = false := by
  rw [letterless, inRanges_append, inRanges_append, Bool.or_eq_false_iff, Bool.or_eq_false_iff] at h
  exact ⟨h.1.1, h.1.2, h.2⟩

theorem isMark_lower (h : isMark c = false) : isMark (lowerChar c) = false := by
  obtain heq | ⟨-, hnot⟩ := letterless_lower c
  · rwa [heq]
  · rw [isMark, (not_letterless hnot).2.2, Bool.and_false]

theorem orderedMarks_clinging {n : Nat} (h : inRanges clinging n = false) :
    inRanges orderedMarks n = false := by
  rw [clinging, inRanges_append, inRanges_append, Bool.or_eq_false_iff, Bool.or_eq_false_iff] at h
  exact h.1.1

theorem clings_eq_false (h : inRanges clinging c.toNat = false) : clings c = false := by
  rw [← Bool.not_eq_true]
  intro hclings
  rw [clinging_of_clings hclings] at h
  cases h

/-- White space. -/
def blankRanges : List (Nat × Nat) :=
  [(9, 13), (0x20, 0x20), (0x85, 0x85), (0xA0, 0xA0), (0x1680, 0x1680), (0x2000, 0x2001),
    (0x2002, 0x200A), (0x2028, 0x2029), (0x202F, 0x202F), (0x205F, 0x205F), (0x3000, 0x3000)]

theorem isBlankChar_eq (c : Char) : isBlankChar c = inRanges blankRanges c.toNat := by
  rw [Bool.eq_iff_iff]
  simp only [isBlankChar, inRanges, blankRanges, List.any_cons, List.any_nil, Bool.or_eq_true,
    Bool.and_eq_true, decide_eq_true_eq, beq_iff_eq, Bool.or_false]
  omega

set_option maxRecDepth 20000 in
/-- White space takes no part in anything. -/
def blanksIdle : Apart blankRanges
    (letterless ++ lookalikes ++ oneByOne upperLetters ++ syllables) := ⟨by decide +kernel⟩

set_option maxRecDepth 20000 in
/-- White space stays, but for two characters of it. -/
def blanksStay : Apart (blankRanges.filter (· != (0x2000, 0x2001))) comingApart := ⟨by decide +kernel⟩

theorem expand_quads : expand '\u2000' = ['\u2002'] ∧ expand '\u2001' = ['\u2003'] := by
  decide +kernel

/-- A character that takes no part in the forms of a text: it starts a stretch of its own, composes
with nothing that follows, and is no mark. -/
structure Inert (c : Char) : Prop where
  edge : edges c = (0, 0)
  unordered : canonicalClass c = 0
  unmarked : isMark c = false
  alone : ∀ d, composePair c d = none

theorem blank_idle (h : isBlankChar c = true) : inRanges letterless c.toNat = false ∧
    inRanges lookalikes c.toNat = false ∧ c.toNat ∉ upperLetters ∧ isSyllable c.toNat = false := by
  rw [isBlankChar_eq] at h
  have hnot := blanksIdle.out h
  rw [inRanges_append, inRanges_append, inRanges_append, Bool.or_eq_false_iff, Bool.or_eq_false_iff,
    Bool.or_eq_false_iff, ← isSyllable_iff] at hnot
  obtain ⟨⟨⟨hidle, hlookalike⟩, hupper⟩, hsyllable⟩ := hnot
  refine ⟨hidle, hlookalike, fun hmem => ?_, hsyllable⟩
  rw [inRanges_oneByOne.mpr hmem] at hupper
  cases hupper

/-- White space comes apart into one character of white space. -/
theorem expand_blank (h : isBlankChar c = true) : ∃ b, expand c = [b] ∧ isBlankChar b = true := by
  by_cases hquad : c.toNat = 0x2000 ∨ c.toNat = 0x2001
  · rw [← Char.ofNat_toNat c]
    obtain hquad | hquad := hquad <;> rw [hquad]
    · exact ⟨_, expand_quads.1, by decide⟩
    · exact ⟨_, expand_quads.2, by decide⟩
  · refine ⟨c, expand_simple (blanksStay.out ?_), h⟩
    rw [isBlankChar_eq, inRanges, List.any_eq_true] at h
    obtain ⟨r, hr, hn⟩ := h
    refine inRanges_of_mem (List.mem_filter.mpr ⟨hr, bne_iff_ne.mpr ?_⟩) ?_ ?_
    · rintro rfl
      simp only [Bool.and_eq_true, decide_eq_true_eq] at hn
      omega
    · exact of_decide_eq_true (Bool.and_eq_true_iff.mp hn).1
    · exact of_decide_eq_true (Bool.and_eq_true_iff.mp hn).2

theorem inert_of_isBlankChar (h : isBlankChar c = true) : Inert c := by
  obtain ⟨hidle, hlookalike, -, hsyllable⟩ := blank_idle h
  obtain ⟨hcomposing, hclinging, hmark⟩ := not_letterless hidle
  refine ⟨?_, canonicalClass_eq_zero (orderedMarks_clinging hclinging), ?_,
    composePair_eq_none hcomposing⟩
  · by_cases hlow : c.toNat < 0xA8
    · simp only [edges]
      rw [if_pos hlow]
    · obtain ⟨b, hb, hblank⟩ := expand_blank h
      have hstands := clings_eq_false (not_letterless (blank_idle hblank).1).2.1
      rw [edges_eq (by omega) hsyllable hlookalike, hb, List.reverse_singleton, List.takeWhile_cons,
        hstands]
      rfl
  · rw [isMark, hmark, Bool.and_false]

theorem lowerChar_blank (h : isBlankChar c = true) : lowerChar c = c :=
  lowerChar_eq_self (blank_idle h).2.2.1

/-- The joiner is a mark, but stays where it is. -/
theorem graphemeJoiner_stays : expand graphemeJoiner = [graphemeJoiner] ∧
    edges graphemeJoiner = (0, 0) ∧ canonicalClass graphemeJoiner = 0 ∧
    isMark graphemeJoiner = true ∧ lowerChar graphemeJoiner = graphemeJoiner := by
  decide +kernel

end
end Stockroom

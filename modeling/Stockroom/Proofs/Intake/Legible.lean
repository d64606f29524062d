import Stockroom.Intake.Normalize
import Stockroom.Proofs.Record.Wire
import Stockroom.Proofs.Text.Utf8

/-!
Sheets without stray bytes. Whatever a row of such a sheet becomes, an item or a consumable, comes
through the wire as it is: its texts hold no stray byte either, and its counts are within bounds.

Main definitions and statements:
* `Row.Legible`: no cell of a row holds a stray byte;
* `cleanEmail_wellFormed`, `dateText_wellFormed`: what becomes of an address and of a date;
* `pcRecord_legible`, `printerRecord_legible`, `consumableRecord_legible`.
-/
namespace Stockroom
set_option autoImplicit false

/-! ## Texts -/

namespace Text

variable {s t : Text}

theorem wellFormed_of_sublist (hsub : s.Sublist t) (h : t.wellFormed = true) :
    s.wellFormed = true :=
  List.all_eq_true.mpr fun g hg => List.all_eq_true.mp h g (hsub.subset hg)

@[simp] theorem wellFormed_append : (s ++ t).wellFormed = (s.wellFormed && t.wellFormed) :=
  List.all_append

@[simp] theorem wellFormed_reverse : Text.wellFormed t.reverse = t.wellFormed := List.all_reverse

theorem trim_sublist (t : Text) : t.trim.Sublist t := by
  have hend : t.trim.Sublist t.trimStart := by
    have hreversed : t.trim.reverse.Sublist t.trimStart.reverse := by
      rw [trim, trimEnd, List.reverse_reverse]
      exact List.dropWhile_sublist _
    exact List.reverse_sublist.mp hreversed
  exact hend.trans (List.dropWhile_sublist _)

theorem trim_wellFormed (h : t.wellFormed = true) : t.trim.wellFormed = true :=
  wellFormed_of_sublist t.trim_sublist h

theorem wellFormed_ofString (word : String) : (ofString word).wellFormed = true :=
  wellFormed_ofChars _

theorem wellFormed_ofNat (n : Nat) : (ofNat n).wellFormed = true := wellFormed_ofChars _

theorem wellFormed_padded (width n : Nat) : (padded width n).wellFormed = true := by
  rw [padded, wellFormed_append, wellFormed_ofNat, Bool.and_true, wellFormed, List.all_replicate]
  simp [Glyph.isChar]

end Text

theorem CalendarDate.iso_wellFormed (d : CalendarDate) : d.iso.wellFormed = true := by
  have hyear : (yearText d.year).wellFormed = true := by
    unfold yearText
    split
    · rw [Text.wellFormed, List.all_cons, ← Text.wellFormed, Text.wellFormed_padded]
      rfl
    · exact Text.wellFormed_padded _ _
  simp only [iso, Text.wellFormed_append, hyear, Text.wellFormed_padded]
  rfl

/-! ## E-mail addresses -/

theorem dropDotsBeforeAt_sublist (t : Text) : (dropDotsBeforeAt t).Sublist t := by
  induction t with
  | nil => exact .slnil
  | cons g rest ih =>
    rw [dropDotsBeforeAt]
    split
    · exact ih.cons g
    · exact ih.cons_cons g

theorem dropDotsAfterAt_sublist (t : Text) : (dropDotsAfterAt t).Sublist t := by
  have hreversed := dropDotsBeforeAt_sublist t.reverse
  rw [dropDotsAfterAt, ← List.reverse_sublist, List.reverse_reverse]
  exact hreversed

theorem mendSeparator_isChar {g : Glyph} (h : g.isChar = true) : (mendSeparator g).isChar = true := by
  unfold mendSeparator
  split
  · rfl
  · exact h

/-- Where no byte is stray, dropping space spells no new character. -/
theorem tidyEmail_eq {raw : Text} (h : raw.wellFormed = true) :
    tidyEmail raw = dropDotsAfterAt (dropDotsBeforeAt
      (Text.squeeze (raw.trim.map mendSeparator))) ∧
      (Text.squeeze (raw.trim.map mendSeparator)).wellFormed = true := by
  have hmended : Text.wellFormed (raw.trim.map mendSeparator) = true := by
    refine List.all_eq_true.mpr fun g hg => ?_
    obtain ⟨source, hsource, rfl⟩ := List.mem_map.mp hg
    exact mendSeparator_isChar (List.all_eq_true.mp (Text.trim_wellFormed h) source hsource)
  have hsqueezed : (Text.squeeze (raw.trim.map mendSeparator)).wellFormed = true :=
    Text.wellFormed_of_sublist List.filter_sublist hmended
  refine ⟨?_, hsqueezed⟩
  rw [tidyEmail, Text.rejoin, if_pos hsqueezed]

/-- An address is judged, not changed. -/
theorem judgeEmail_address {t address : Text}
    (h : judgeEmail t = .taken address ∨ judgeEmail t = .kept address) : address = t := by
  unfold judgeEmail at h
  split at h
  · split at h
    · simpa [eq_comm] using h
    · split at h
      · simpa [eq_comm] using h
      · simp at h
  · split at h
    · simpa [eq_comm] using h
    · simp at h

theorem cleanEmail_sublist (raw : Text) : (cleanEmail raw).Sublist (tidyEmail raw) := by
  unfold cleanEmail
  split
  · next address haddress =>
    obtain rfl := judgeEmail_address (.inl haddress)
    exact .refl _
  · next address haddress =>
    obtain rfl := judgeEmail_address (.inr haddress)
    exact .refl _
  · exact List.nil_sublist _

theorem cleanEmail_wellFormed {raw : Text} (h : raw.wellFormed = true) :
    (cleanEmail raw).wellFormed = true := by
  obtain ⟨htidy, hsqueezed⟩ := tidyEmail_eq h
  have htidied := (dropDotsAfterAt_sublist _).trans (dropDotsBeforeAt_sublist
    (Text.squeeze (raw.trim.map mendSeparator)))
  rw [← htidy] at htidied
  exact Text.wellFormed_of_sublist ((cleanEmail_sublist raw).trans htidied) hsqueezed

/-! ## Dates -/

theorem dateText_wellFormed {c : Cell} (h : c.text.wellFormed = true) :
    (dateText c).wellFormed = true := by
  have hlayout (cs : List Char) : (readByLayout cs).wellFormed = true := by
    unfold readByLayout
    split
    · exact CalendarDate.iso_wellFormed _
    · rfl
  unfold dateText
  split
  · unfold dateOfSerial
    split
    · exact CalendarDate.iso_wellFormed _
    · rfl
  · unfold dateOfText
    split
    · exact Text.trim_wellFormed h
    · split
      · split
        · split
          · exact CalendarDate.iso_wellFormed _
          · rfl
        · exact hlayout _
      · exact hlayout _

/-! ## Rows -/

/-- No cell of a row holds a stray byte. -/
def Row.Legible (row : Row) : Prop := ∀ c ∈ row, c.text.wellFormed = true

instance (row : Row) : Decidable row.Legible := inferInstanceAs (Decidable (∀ c ∈ row, _))

section
variable {row : Row}

theorem Cell.value_wellFormed {c : Cell} (h : c.text.wellFormed = true) :
    c.value.wellFormed = true := by
  unfold Cell.value
  dsimp only
  split
  · split
    · exact Text.wellFormed_ofChars _
    · exact Text.trim_wellFormed h
  · exact Text.trim_wellFormed h

theorem Mapping.cell?_mem {m : Mapping} {field : Text} {c : Cell}
    (h : m.cell? row field = some c) : c ∈ row := by
  obtain ⟨hcell, -⟩ := Option.filter_eq_some_iff.mp h
  obtain ⟨i, -, hget⟩ := Option.bind_eq_some_iff.mp hcell
  exact List.mem_of_getElem? hget

theorem Row.Legible.text (h : row.Legible) (m : Mapping) (field : Text) :
    (m.text row field).wellFormed = true := by
  unfold Mapping.text
  split
  · next c hcell => exact Cell.value_wellFormed (h c (Mapping.cell?_mem hcell))
  · rfl

theorem wellFormed_default {t other : Text} (ht : t.wellFormed = true)
    (hother : other.wellFormed = true) :
    Text.wellFormed (if t.isEmpty then other else t) = true := by
  split
  · exact hother
  · exact ht

variable (hrow : row.Legible) (m : Mapping) (branch : Text)
include hrow

/-! ## Items -/

omit hrow in
theorem pcRecord_assignedOn (placeholder : Text) :
    (pcRecord placeholder row m branch).assignedOn =
      ((m.cell? row FieldName.assignedOn).map dateText).getD [] := by
  unfold pcRecord
  dsimp only
  cases m.cell? row FieldName.assignedOn <;> rfl

theorem pcRecord_legible (number : Nat) :
    (pcRecord (placeholderName number) row m branch).Legible := by
  have hplaceholder : (placeholderName number).wellFormed = true := by
    rw [placeholderName, Text.wellFormed_append, Text.wellFormed_ofString, Text.wellFormed_ofNat]
    rfl
  have hdate :
      (pcRecord (placeholderName number) row m branch).assignedOn.wellFormed = true := by
    rw [pcRecord_assignedOn]
    cases hcell : m.cell? row FieldName.assignedOn with
    | some c => exact dateText_wellFormed (hrow c (Mapping.cell?_mem hcell))
    | none => rfl
  refine ⟨rfl, ?_, Instant.unset_plain, Instant.unset_plain⟩
  simp only [Item.texts, pcRecord, List.forall_mem_cons, List.not_mem_nil, false_implies,
    implies_true, and_true]
  exact ⟨Text.wellFormed_ofString _, wellFormed_default (hrow.text m _) hplaceholder,
    hrow.text m _, cleanEmail_wellFormed (hrow.text m _), hrow.text m _, hrow.text m _, hdate,
    wellFormed_default (hrow.text m _) (Text.wellFormed_ofString _), hrow.text m _, rfl, rfl, rfl,
    rfl, hrow.text m _⟩

theorem printerRecord_legible {r : Item} (h : printerRecord row m branch = .ok r) :
    r.Legible ∧ r.branch = branch := by
  unfold printerRecord at h
  dsimp only at h
  split at h
  · cases h
  split at h
  · cases h
  cases h
  refine ⟨⟨rfl, ?_, Instant.unset_plain, Instant.unset_plain⟩, rfl⟩
  simp only [Item.texts, List.forall_mem_cons, List.not_mem_nil, false_implies, implies_true,
    and_true]
  exact ⟨Text.wellFormed_ofString _, rfl, rfl, rfl, rfl, rfl, rfl, rfl, rfl,
    hrow.text m _, hrow.text m _, hrow.text m _, hrow.text m _, hrow.text m _⟩

end

/-! ## Consumables -/

/-- A count that a sheet may hold, or none. -/
def Quantity.Modest (q : Quantity) : Prop := ∀ n, q.count? = some n → 0 ≤ n ∧ n ≤ maxCount

theorem Quantity.Modest.written {q : Quantity} (h : q.Modest) :
    ∃ n, q.written = .ok n ∧ fitsInt64 n = true := by
  cases q with
  | notApplicable => exact ⟨-1, rfl, by decide⟩
  | counted n =>
    obtain ⟨hlow, hhigh⟩ := h n rfl
    have hcheck : check (.counted n) = .ok () := if_neg (Int.not_lt.mpr hlow)
    refine ⟨n, by rw [Quantity.written, hcheck]; rfl, ?_⟩
    unfold maxCount at hhigh
    rw [fitsInt64, Bool.and_eq_true, minInt64, maxInt64]
    exact ⟨decide_eq_true (by omega), decide_eq_true (by omega)⟩

theorem Quantity.Modest.kept {q : Quantity} (h : q.Modest) (keep : Bool) :
    Quantity.Modest (if keep then q.kept else .notApplicable) := by
  intro n hn
  cases keep with
  | false => cases hn
  | true =>
    cases q with
    | notApplicable =>
      obtain rfl : 0 = n := Option.some.inj hn
      decide
    | counted k => exact h n hn

theorem Quantity.Modest.nonneg {q : Quantity} (h : q.Modest) {n : Int} (hn : q = .counted n) : 0 ≤ n :=
  (h n (congrArg Quantity.count? hn)).1

theorem readCount_modest {row : Row} {m : Mapping} {field : Text} {q : Quantity}
    (h : readCount row m field = .ok q) : q.Modest := by
  unfold readCount at h
  split at h
  · cases h
    intro n hn
    cases hn
  · split at h
    · next n hcount =>
      cases h
      intro k hk
      obtain rfl : n = k := Option.some.inj hk
      have hbounds := (Option.filter_eq_some_iff.mp hcount).2
      simpa using hbounds
    · cases h

theorem readState_isState {row : Row} {m : Mapping} {state : Text}
    (h : readState row m = .ok state) : state = inStockState ∨ state = onOrderState := by
  unfold readState at h
  dsimp only at h
  split at h
  · cases h
    exact .inl rfl
  · split at h
    · next word hword =>
      cases h
      unfold stateOfWord at hword
      dsimp only at hword
      split at hword
      · exact .inl (Option.some.inj hword).symm
      · split at hword
        · exact .inr (Option.some.inj hword).symm
        · cases hword
    · cases h

theorem TonerType.tag_wellFormed (type : TonerType) : type.tag.wellFormed = true := by
  cases type <;> exact Text.wellFormed_ofString _

theorem consumableRecord_legible {row : Row} {branch : Text} {m : Mapping} {c : Consumable}
    (hrow : row.Legible) (h : consumableRecord row m branch = .ok c) :
    c.Legible ∧ c.branch = branch ∧ c.tonerTag ≠ [] ∧ c.state ≠ [] := by
  simp only [consumableRecord, throw_bind] at h
  split at h
  · cases h
  split at h
  · cases h
  simp only [bind_eq_ok, pure_eq_ok] at h
  obtain ⟨state, hstate, black, hblack, cyan, hcyan, magenta, hmagenta, yellow, hyellow,
    colorBlack, hcolorBlack, drum, hdrum, type, -, rfl⟩ := h
  have hword := readState_isState hstate
  refine ⟨⟨rfl, ?_, ?_, Instant.unset_plain, Instant.unset_plain⟩, rfl, ?_, ?_⟩
  · simp only [Consumable.texts, Consumable.configured, List.forall_mem_cons, List.not_mem_nil,
      false_implies, implies_true, and_true]
    refine ⟨hrow.text m _, hrow.text m _, type.tag_wellFormed, hrow.text m _, ?_⟩
    obtain rfl | rfl := hword <;> exact Text.wellFormed_ofString _
  · simp only [Consumable.quantities, Consumable.colors, Consumable.configured, List.cons_append,
      List.nil_append, List.forall_mem_cons, List.not_mem_nil, false_implies, implies_true,
      and_true]
    exact ⟨((readCount_modest hcyan).kept _).written, ((readCount_modest hmagenta).kept _).written,
      ((readCount_modest hyellow).kept _).written, ((readCount_modest hcolorBlack).kept _).written,
      ((readCount_modest hblack).kept _).written, ((readCount_modest hdrum).kept _).written⟩
  · have hne : type.tag ≠ [] := by cases type <;> decide
    exact hne
  · have hne : state ≠ [] := by obtain rfl | rfl := hword <;> decide
    exact hne

end Stockroom

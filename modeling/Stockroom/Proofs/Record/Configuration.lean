import Stockroom.Proofs.Store.Markings

/-!
What a toner type says about the counts of a consumable. A toner type tracks some of the six counts,
and a record is well formed if exactly these are there. Configuring a record for a toner type makes it
so; classifying a record finds the only toner type for which it can be so.

Main definitions and statements:
* `CountName`, `Consumable.count`, `TonerType.tracks`: the counts by name, and those of a toner type;
* `Consumable.Marked`: the counts of a record are those of a toner type;
* `Consumable.validate_iff_marked`: the rules of a well-formed record, said with these;
* `Consumable.classify_of_marks`: the counts alone tell the toner type;
* `Consumable.configure_verdict`: which records can be configured, and what becomes of them;
* `readyConsumable_untagged`: a record without a toner type is stored with the only one that fits.
-/
namespace Stockroom
set_option autoImplicit false

/-! ## Toner types and their tags -/

namespace TonerType

theorem ofTag_tag (t : TonerType) : ofTag t.tag = some t := by cases t <;> decide

theorem ofTag_eq_some {text : Text} {t : TonerType} : ofTag text = some t ↔ text = t.tag :=
  ⟨tag_of_ofTag, fun h => h ▸ ofTag_tag t⟩

theorem tag_injective {t other : TonerType} (h : t.tag = other.tag) : t = other :=
  Option.some.inj ((ofTag_tag t).symm.trans (ofTag_eq_some.mpr h))

end TonerType

/-! ## Counts by name -/

/-- The counts of a consumable. -/
inductive CountName where
  | black
  | cyan
  | magenta
  | yellow
  | colorBlack
  | drum
  deriving DecidableEq, Repr

/-- The count of a name. -/
def Consumable.count (c : Consumable) : CountName → Quantity
  | .black => c.black
  | .cyan => c.cyan
  | .magenta => c.magenta
  | .yellow => c.yellow
  | .colorBlack => c.colorBlack
  | .drum => c.drum

/-- Whether a count is one of a toner type, with or without a drum. -/
def TonerType.tracks (t : TonerType) (drum : Bool) : CountName → Bool
  | .black => t == .unicolor
  | .cyan | .magenta | .yellow | .colorBlack => t == .multicolor
  | .drum => drum

namespace Consumable

variable {c : Consumable} {t : TonerType} {drum : Bool}

/-- No count is below zero. -/
def Countable (c : Consumable) : Prop := ∀ name n, c.count name = .counted n → 0 ≤ n

/-- Whoever reads the record is told what it is and where, and whether it is in stock. -/
structure Presentable (c : Consumable) : Prop where
  brand : c.brand ≠ []
  reference : c.reference ≠ []
  branch : c.branch ≠ []
  state : c.state = inStockState ∨ c.state = onOrderState

/-- Exactly the counts of a toner type are there, and none is below zero. -/
structure Marked (c : Consumable) (t : TonerType) (drum : Bool) : Prop where
  tag : c.tonerTag = t.tag
  marks : ∀ name, (c.count name).isApplicable = t.tracks drum name
  counts : c.Countable

/-! ## The rules of a well-formed record -/

theorem mem_quantities {q : Quantity} : q ∈ c.quantities ↔ ∃ name, c.count name = q := by
  constructor
  · intro h
    simp only [quantities, colors, List.cons_append, List.nil_append, List.mem_cons,
      List.not_mem_nil, or_false] at h
    rcases h with rfl | rfl | rfl | rfl | rfl | rfl
    · exact ⟨.cyan, rfl⟩
    · exact ⟨.magenta, rfl⟩
    · exact ⟨.yellow, rfl⟩
    · exact ⟨.colorBlack, rfl⟩
    · exact ⟨.black, rfl⟩
    · exact ⟨.drum, rfl⟩
  · rintro ⟨name, rfl⟩
    cases name <;> simp [quantities, colors, count]

theorem checkCounts_quantities : checkCounts c.quantities = .ok () ↔ c.Countable := by
  rw [checkCounts_eq_ok]
  constructor
  · intro h name n hn
    exact Quantity.check_eq_ok.mp (h _ (mem_quantities.mpr ⟨name, rfl⟩)) n hn
  · intro h q hq
    obtain ⟨name, rfl⟩ := mem_quantities.mp hq
    exact Quantity.check_eq_ok.mpr (h name)

theorem checkMarks_eq_ok : c.checkMarks t = .ok () ↔
    ∀ name, (c.count name).isApplicable = t.tracks c.hasDrum name := by
  have hnames : (∀ name, (c.count name).isApplicable = t.tracks c.hasDrum name) ↔
      c.black.isApplicable = (t == .unicolor) ∧
        ∀ q ∈ c.colors, q.isApplicable = (t == .multicolor) := by
    constructor
    · intro h
      refine ⟨h .black, ?_⟩
      simp only [colors, List.forall_mem_cons, List.not_mem_nil, false_implies, implies_true,
        and_true]
      exact ⟨h .cyan, h .magenta, h .yellow, h .colorBlack⟩
    · rintro ⟨hblack, hcolors⟩ name
      simp only [colors, List.forall_mem_cons, List.not_mem_nil, false_implies, implies_true,
        and_true] at hcolors
      obtain ⟨hcyan, hmagenta, hyellow, hcolorBlack⟩ := hcolors
      cases name with
      | black => exact hblack
      | cyan => exact hcyan
      | magenta => exact hmagenta
      | yellow => exact hyellow
      | colorBlack => exact hcolorBlack
      | drum => rfl
  have hother : (t == TonerType.multicolor) = !(t == .unicolor) := by cases t <;> rfl
  rw [hnames, hother, checkMarks]
  split
  · next hblack => simp [show c.black.isApplicable ≠ (t == .unicolor) by simpa using hblack]
  · next hblack =>
    have hblack : c.black.isApplicable = (t == .unicolor) := by simpa using hblack
    split
    · next hcolors =>
      obtain ⟨q, hq, hsame⟩ := List.any_eq_true.mp hcolors
      refine iff_of_false (by rintro ⟨⟩) fun h => ?_
      have hdiffers := h.2 q hq
      rw [beq_iff_eq.mp hsame] at hdiffers
      cases t <;> cases hdiffers
    · next hcolors =>
      refine iff_of_true rfl ⟨hblack, fun q hq => ?_⟩
      have hdiffers : q.isApplicable ≠ (t == .unicolor) := fun hsame =>
        hcolors (List.any_eq_true.mpr ⟨q, hq, beq_iff_eq.mpr hsame⟩)
      exact Bool.eq_not_of_ne hdiffers

theorem isState_iff {text : Text} :
    isState text = true ↔ text = inStockState ∨ text = onOrderState := by
  simp [isState]

/-- A record is well formed exactly if it is presentable and has the counts of the toner type that its
tag names. -/
theorem validate_iff_marked :
    c.validate = .ok () ↔ c.Presentable ∧ ∃ t, c.Marked t c.hasDrum := by
  rw [validate_eq_ok]
  constructor
  · rintro ⟨hbrand, hreference, hbranch, hstate, t, htype, hcounts, hmarks⟩
    exact ⟨⟨hbrand, hreference, hbranch, isState_iff.mp hstate⟩, t, TonerType.ofTag_eq_some.mp htype,
      checkMarks_eq_ok.mp hmarks, checkCounts_quantities.mp hcounts⟩
  · rintro ⟨⟨hbrand, hreference, hbranch, hstate⟩, t, htag, hmarks, hcounts⟩
    exact ⟨hbrand, hreference, hbranch, isState_iff.mpr hstate, t, TonerType.ofTag_eq_some.mpr htag,
      checkCounts_quantities.mpr hcounts, checkMarks_eq_ok.mpr hmarks⟩

/-! ## Classifying -/

/-- Without a valid tag, the counts of a toner type are classified as that type. -/
theorem classify_of_marks (htag : c.taggedType = none)
    (hmarks : ∀ name, (c.count name).isApplicable = t.tracks drum name) : c.classify = t := by
  have hblack : c.black.isApplicable = (t == .unicolor) := hmarks .black
  have hcyan : c.cyan.isApplicable = (t == .multicolor) := hmarks .cyan
  rw [classify, htag]
  cases t with
  | unicolor =>
    -- black is there, and cyan is a colour that is not
    have hmissing : c.colors.any (!·.isApplicable) = true :=
      List.any_eq_true.mpr ⟨c.cyan, List.mem_cons_self, by rw [hcyan]; rfl⟩
    rw [hblack, hmissing]
    rfl
  | multicolor =>
    rw [hblack]
    rfl

theorem classify_of_tag (htag : c.tonerTag = t.tag) : c.classify = t := by
  rw [classify, taggedType, TonerType.ofTag_eq_some.mpr htag]

/-- The record without its toner type. -/
def untagged (c : Consumable) : Consumable := { c with tonerTag := [] }

/-! ## Configuring -/

theorem configured_count (c : Consumable) (t : TonerType) (drum : Bool) (name : CountName) :
    (c.configured t drum).count name =
      if t.tracks drum name then (c.count name).kept else .notApplicable := by
  cases name <;> rfl

theorem configure_eq_ok {tag : Text} {r : Consumable} : c.configure tag drum = .ok r ↔
    ∃ t : TonerType, tag = t.tag ∧ c.Countable ∧ c.configured t drum = r := by
  unfold configure
  split
  · next hnone =>
    refine iff_of_false nofun ?_
    rintro ⟨t, htag, -⟩
    rw [TonerType.ofTag_eq_some.mpr htag] at hnone
    cases hnone
  · next t ht =>
    simp only [bind_eq_ok, pure_eq_ok]
    constructor
    · rintro ⟨_, hcounts, hr⟩
      exact ⟨t, TonerType.ofTag_eq_some.mp ht, checkCounts_quantities.mp hcounts, hr⟩
    · rintro ⟨other, htag, hcounts, hr⟩
      obtain rfl : t = other :=
        Option.some.inj (ht.symm.trans (TonerType.ofTag_eq_some.mpr htag))
      exact ⟨(), checkCounts_quantities.mpr hcounts, hr⟩

/-- A record that was configured has the counts that it was configured for. -/
theorem configured_marked (h : c.Countable) : (c.configured t drum).Marked t drum where
  tag := rfl
  marks := by
    intro name
    rw [configured_count]
    cases t.tracks drum name <;> rfl
  counts := by
    intro name n hn
    rw [configured_count] at hn
    split at hn
    · cases hq : c.count name with
      | notApplicable =>
        rw [hq] at hn
        exact Int.le_of_eq (Quantity.counted.inj hn)
      | counted k =>
        rw [hq] at hn
        exact Quantity.counted.inj hn ▸ h name k hq
    · cases hn

theorem ext_counts {r : Consumable} (htag : c.tonerTag = r.tonerTag)
    (hcounts : ∀ name, c.count name = r.count name)
    (hrest : { c with
      tonerTag := r.tonerTag, black := r.black, cyan := r.cyan, magenta := r.magenta
      yellow := r.yellow, colorBlack := r.colorBlack, drum := r.drum } = r) : c = r := by
  have hblack : c.black = r.black := hcounts .black
  have hcyan : c.cyan = r.cyan := hcounts .cyan
  have hmagenta : c.magenta = r.magenta := hcounts .magenta
  have hyellow : c.yellow = r.yellow := hcounts .yellow
  have hcolorBlack : c.colorBlack = r.colorBlack := hcounts .colorBlack
  have hdrum : c.drum = r.drum := hcounts .drum
  rw [← hrest, ← htag, ← hblack, ← hcyan, ← hmagenta, ← hyellow, ← hcolorBlack, ← hdrum]

/-- Configuring leaves a record that has the counts of the toner type as it is. -/
theorem Marked.configured_eq (h : c.Marked t drum) : c.configured t drum = c := by
  refine ext_counts h.tag.symm (fun name => ?_) rfl
  have hmark := h.marks name
  rw [configured_count]
  cases hq : c.count name with
  | notApplicable =>
    rw [hq] at hmark
    rw [← hmark]
    rfl
  | counted n =>
    rw [hq] at hmark
    rw [← hmark]
    rfl

theorem validate_configured (h : c.Countable) :
    (c.configured t drum).validate = .ok () ↔ c.Presentable := by
  have hmarked : (c.configured t drum).Marked t drum := configured_marked h
  have hdrum : (c.configured t drum).hasDrum = drum := hmarked.marks .drum
  rw [validate_iff_marked]
  constructor
  · rintro ⟨hpresentable, -⟩
    exact ⟨hpresentable.brand, hpresentable.reference, hpresentable.branch, hpresentable.state⟩
  · intro hpresentable
    exact ⟨⟨hpresentable.brand, hpresentable.reference, hpresentable.branch, hpresentable.state⟩,
      t, hdrum.symm ▸ hmarked⟩

/-- A record is configured for a tag exactly if the tag names a toner type and no count is below zero.
What comes out has exactly the counts of the toner type, and a drum as was asked: those that were there
are kept, the others start at zero. Nothing else changes, and configuring it again changes nothing. It is
well formed if the record was presentable, and is classified as the toner type, with its tag or
without. -/
theorem configure_verdict (c : Consumable) (tag : Text) (drum : Bool) :
    ((∃ r, c.configure tag drum = .ok r) ↔ (∃ t : TonerType, tag = t.tag) ∧ c.Countable) ∧
    ∀ (t : TonerType) (r : Consumable), tag = t.tag → c.configure tag drum = .ok r →
      r.Marked t drum ∧
      (∀ name n, t.tracks drum name = true → c.count name = .counted n → r.count name = .counted n) ∧
      (∀ name, t.tracks drum name = true → c.count name = .notApplicable → r.count name = .counted 0) ∧
      { r with
        tonerTag := c.tonerTag, black := c.black, cyan := c.cyan, magenta := c.magenta
        yellow := c.yellow, colorBlack := c.colorBlack, drum := c.drum } = c ∧
      r.configure tag drum = .ok r ∧
      (r.validate = .ok () ↔ c.Presentable) ∧
      r.classify = t ∧ r.untagged.classify = t := by
  refine ⟨?_, ?_⟩
  · simp only [configure_eq_ok]
    constructor
    · rintro ⟨_, t, htag, hcounts, -⟩
      exact ⟨⟨t, htag⟩, hcounts⟩
    · rintro ⟨⟨t, htag⟩, hcounts⟩
      exact ⟨_, t, htag, hcounts, rfl⟩
  · intro t r htag hr
    obtain ⟨other, hother, hcounts, rfl⟩ := configure_eq_ok.mp hr
    obtain rfl : t = other := TonerType.tag_injective (htag.symm.trans hother)
    have hmarked : (c.configured t drum).Marked t drum := configured_marked hcounts
    refine ⟨hmarked, fun name n htracked hcount => ?_, fun name htracked hcount => ?_, rfl,
      configure_eq_ok.mpr ⟨t, htag, hmarked.counts, hmarked.configured_eq⟩,
      validate_configured hcounts, classify_of_tag rfl, classify_of_marks rfl hmarked.marks⟩
    · rw [configured_count, if_pos htracked, hcount]
      rfl
    · rw [configured_count, if_pos htracked, hcount]
      rfl

/-- A toner that a form was filled in for, without its toner type. -/
def ofForm : Consumable :=
  { brand := "Canon", reference := "C-EXV 49", branch := "Fes", cyan := .counted 1
    magenta := .counted 2, yellow := .counted 0, colorBlack := .counted 4 }

theorem ofForm_configured : ∃ r, ofForm.configure TonerType.multicolor.tag true = .ok r ∧
    r.cyan = .counted 1 ∧ r.drum = .counted 0 ∧ r.untagged.classify = .multicolor := by
  have hcounts : ofForm.Countable := checkCounts_quantities.mp rfl
  obtain ⟨r, hr⟩ := (configure_verdict ofForm TonerType.multicolor.tag true).1.mpr ⟨⟨_, rfl⟩, hcounts⟩
  obtain ⟨-, hkept, hzero, -, -, -, -, hclassified⟩ :=
    (configure_verdict ofForm TonerType.multicolor.tag true).2 .multicolor r rfl hr
  exact ⟨r, hr, hkept .cyan 1 rfl rfl, hzero .drum rfl rfl, hclassified⟩

/-! ## Records that are filled in -/

theorem filledIn_fields (c : Consumable) : c.filledIn =
    { c with
      state := if c.state.isEmpty then inStockState else c.state
      tonerTag := if c.tonerTag.isEmpty then c.classify.tag else c.tonerTag } := by
  unfold filledIn
  -- a state that is filled in does not bear on the toner type
  split
  · split
    · next htag =>
      rw [if_pos htag]
      rfl
    · next htag => rw [if_neg htag]
  · split
    · next htag => rw [if_pos htag]
    · next htag => rw [if_neg htag]

/-- The record, in stock if it does not say otherwise. -/
def stated (c : Consumable) : Consumable :=
  { c with state := if c.state.isEmpty then inStockState else c.state }

/-- The record with the tag of a toner type, in stock if it does not say otherwise. -/
def taggedAs (c : Consumable) (t : TonerType) : Consumable := { c.stated with tonerTag := t.tag }

theorem filledIn_tagged (h : c.tonerTag = t.tag) : c.filledIn = c.stated := by
  have htagged : c.tonerTag.isEmpty = false := by
    rw [h]
    cases t <;> rfl
  rw [filledIn_fields, htagged]
  rfl

theorem filledIn_untagged (h : c.tonerTag = []) : c.filledIn = c.taggedAs c.classify := by
  rw [filledIn_fields, h]
  rfl

/-- A record without a toner type has the counts of one toner type at most, the one it is classified
as. -/
theorem classify_of_taggedAs (h : c.tonerTag = []) (hvalid : (c.taggedAs t).validate = .ok ()) :
    c.classify = t := by
  obtain ⟨-, other, hmarked⟩ := validate_iff_marked.mp hvalid
  obtain rfl : t = other := TonerType.tag_injective hmarked.tag
  have hnone : c.taggedType = none := by
    rw [taggedType, h]
    decide
  exact classify_of_marks hnone hmarked.marks

end Consumable

theorem readyConsumable_eq_ok_iff {c ready : Consumable} :
    readyConsumable c = .ok ready ↔ c.filledIn = ready ∧ ready.validate = .ok () := by
  unfold readyConsumable
  split
  · next hvalid =>
    rw [Except.ok.injEq]
    exact ⟨fun h => ⟨h, h ▸ hvalid⟩, And.left⟩
  · next e herror =>
    refine iff_of_false nofun ?_
    rintro ⟨rfl, hvalid⟩
    rw [herror] at hvalid
    cases hvalid

/-- A record without a toner type is taken exactly if it is well formed under the tag of some toner type,
in stock if it does not say otherwise. There is one such toner type only, and it is the one that the
record is given and stored with. -/
theorem readyConsumable_untagged (c : Consumable) (h : c.tonerTag = []) :
    ((∃ ready, readyConsumable c = .ok ready) ↔ ∃ t, (c.taggedAs t).validate = .ok ()) ∧
    ∀ t, (c.taggedAs t).validate = .ok () →
      (∀ other, (c.taggedAs other).validate = .ok () → other = t) ∧
      readyConsumable c = .ok (c.taggedAs t) ∧
      ∀ (s s' : Store) (now : Instant) (shown : Consumable),
        s.createConsumable now c = .ok (shown, s') →
        ∃ row, s'.consumables = s.consumables ++ [row] ∧ row.load = .ok shown ∧
          row.tonerTag = t.tag ∧ shown.tonerTag = t.tag := by
  have hready : ∀ t, (c.taggedAs t).validate = .ok () →
      readyConsumable c = .ok (c.taggedAs t) := by
    intro t ht
    obtain rfl := Consumable.classify_of_taggedAs h ht
    exact readyConsumable_eq_ok_iff.mpr ⟨Consumable.filledIn_untagged h, ht⟩
  refine ⟨⟨?_, ?_⟩, fun t ht => ⟨fun other hother => ?_, hready t ht, fun s s' now shown hs => ?_⟩⟩
  · rintro ⟨ready, htaken⟩
    obtain ⟨rfl, hvalid⟩ := readyConsumable_eq_ok_iff.mp htaken
    exact ⟨c.classify, Consumable.filledIn_untagged h ▸ hvalid⟩
  · rintro ⟨t, ht⟩
    exact ⟨_, hready t ht⟩
  · exact (Consumable.classify_of_taggedAs h hother).symm.trans
      (Consumable.classify_of_taggedAs h ht)
  · obtain ⟨row, -, hrow, hload, rfl⟩ := Store.createConsumable_effect hs
    obtain rfl := Except.ok.inj (hload.symm.trans (ConsumableRow.load_ofConsumable hrow))
    rw [Consumable.filledIn_untagged h, Consumable.classify_of_taggedAs h ht] at hrow ⊢
    exact ⟨row, rfl, ConsumableRow.load_ofConsumable hrow,
      (ConsumableRow.ofConsumable_eq_ok hrow).1, rfl⟩

theorem Consumable.ofForm_ready : ofForm.tonerTag = [] ∧
    readyConsumable ofForm = .ok (ofForm.taggedAs .multicolor) := by
  have huntagged : ofForm.tonerTag = [] := rfl
  have hvalid : (ofForm.taggedAs .multicolor).validate = .ok () := rfl
  exact ⟨huntagged, ((readyConsumable_untagged ofForm huntagged).2 .multicolor hvalid).2.1⟩

end Stockroom

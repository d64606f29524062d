import Stockroom.Proofs.Intake.Settled
import Stockroom.Proofs.Number.Rounding

/-!
Rows that are consumables. Ten fields are judged in a fixed order, and the first one that offends
names the error. A row without offences is a consumable: its toner type is the one it names, else
the one its colour cells imply; the counts of that type are those of their cells, zero where a cell
is absent, and all other counts do not apply.

Main definitions and statements:
* `Cell.Counts`: the number of a cell as a count;
* `Offends`, `FirstFault`: what is wrong with a field, and the first field that has something wrong;
* `Fills`: the rows that are consumables, said field by field;
* `Describes`: what a row says about a consumable;
* `Judges`: reading fields succeeds with a fitting value or fails with the first fault;
* `consumableRecord_verdict`: the consumable of a row, or its error.
-/
namespace Stockroom
set_option autoImplicit false

/-! ## Numbers of cells -/

/-- The cell is a number, and the number is a count. -/
def Cell.Counts (c : Cell) (n : Int) : Prop :=
  ∃ x, c.number = some x ∧ x.value = n ∧ 0 ≤ n ∧ n ≤ 2147483647

theorem countOfCell_eq_some_iff {c : Cell} {n : Int} : countOfCell c = some n ↔ c.Counts n := by
  rw [countOfCell, Option.filter_eq_some_iff, Option.bind_eq_some_iff]
  simp only [Binary64.whole?_eq_some_iff, Bool.and_eq_true, decide_eq_true_eq]
  constructor
  · rintro ⟨⟨x, hx, hvalue⟩, hbounds⟩
    exact ⟨x, hx, hvalue, hbounds⟩
  · rintro ⟨x, hx, hvalue, hbounds⟩
    exact ⟨⟨x, hx, hvalue⟩, hbounds⟩

/-! ## Cells that are present have a value -/

theorem Text.isBlank_of_trim {t : Text} (h : t.trim = []) : t.isBlank = true := by
  have hend : ∀ g ∈ t.trimStart, g.isBlank = true := by
    intro g hg
    have hdrop : t.trimStart.reverse.dropWhile Glyph.isBlank = [] := List.reverse_eq_nil_iff.mp h
    exact List.dropWhile_eq_nil_iff.mp hdrop g (List.mem_reverse.mpr hg)
  -- what is left in front would start with a glyph that is not blank
  have hstart : t.trimStart = [] := by
    cases hcase : t.trimStart with
    | nil => rfl
    | cons g rest =>
      have hhead := Text.head?_trimStart t g (by rw [hcase]; rfl)
      rw [hend g (hcase ▸ List.mem_cons_self)] at hhead
      cases hhead
  exact List.all_eq_true.mpr (List.dropWhile_eq_nil_iff.mp hstart)

theorem Decimal.positional_ne_nil (d : Decimal) : d.positional ≠ [] := by
  unfold positional
  dsimp only
  split
  · split
    · exact List.cons_ne_nil _ _
    · exact List.append_ne_nil_of_left_ne_nil Nat.toDigits_ne_nil _
  · -- the digits are filled up to one more than the places behind the point
    next hneg =>
    have hwhole (places : Nat) (digits : List Char) :
        (List.replicate (places + 1 - digits.length) '0' ++ digits).take
          ((List.replicate (places + 1 - digits.length) '0' ++ digits).length - places) ≠ [] := by
      rw [Ne, List.take_eq_nil_iff, ← List.length_eq_zero_iff]
      simp only [List.length_append, List.length_replicate]
      omega
    split
    · exact hwhole _ _
    · exact List.append_ne_nil_of_left_ne_nil (hwhole _ _) _

theorem Binary64.positional_ne_nil (x : Binary64) : x.positional ≠ [] := by
  unfold positional
  dsimp only
  split
  · exact List.cons_ne_nil _ _
  · split
    · exact List.cons_ne_nil _ _
    · exact Decimal.positional_ne_nil _

theorem Cell.value_ne_nil {c : Cell} (h : c.isBlank = false) : c.value ≠ [] := by
  have htext : c.text.trim ≠ [] := fun hnil => by
    rw [isBlank, Text.isBlank_of_trim hnil] at h
    cases h
  unfold value
  dsimp only
  split
  · next x _ =>
    split
    · exact fun hnil => x.positional_ne_nil (List.map_eq_nil_iff.mp hnil)
    · exact htext
  · exact htext

section
variable {row : Row} {m : Mapping} {field : Text}

theorem Mapping.cell?_eq_some_iff {c : Cell} : m.cell? row field = some c ↔
    (∃ i, m.column? field = some i ∧ row[i]? = some c) ∧ c.isBlank = false := by
  rw [cell?, Option.filter_eq_some_iff, Option.bind_eq_some_iff, Bool.not_eq_true']

theorem Mapping.text_of_none (h : m.cell? row field = none) : m.text row field = [] := by
  rw [text, h]

theorem Mapping.text_of_some {c : Cell} (h : m.cell? row field = some c) :
    m.text row field = c.value := by
  rw [text, h]

theorem Mapping.text_ne_nil {c : Cell} (h : m.cell? row field = some c) :
    ¬ (m.text row field).isEmpty = true := by
  rw [text_of_some h, List.isEmpty_iff]
  exact Cell.value_ne_nil (cell?_eq_some_iff.mp h).2

/-- A text is missing exactly where the cell is absent. -/
theorem Mapping.text_isEmpty_iff : (m.text row field).isEmpty = true ↔ m.cell? row field = none := by
  cases hcell : m.cell? row field with
  | none => simp [text_of_none hcell]
  | some c => simp [text_ne_nil hcell]

end

/-! ## Words of cells -/

/-- A text spells a state of consumables. -/
inductive SpellsState (t : Text) : Text → Prop where
  | available {word : String} (hword : word ∈ availableWords)
      (hspelled : t.folded = Text.ofString word) : SpellsState t inStockState
  | onOrder {word : String} (hword : word ∈ onOrderWords)
      (hspelled : t.folded = Text.ofString word) : SpellsState t onOrderState

/-- A text spells a toner type. -/
def SpellsType (t : Text) (type : TonerType) : Prop :=
  ∃ word ∈ type.labels, t.folded = Text.ofString word

theorem any_spelled_iff {words : List String} {t : Text} :
    (words.any fun word => t = Text.ofString word) = true ↔
      ∃ word ∈ words, t = Text.ofString word := by
  simp only [List.any_eq_true, decide_eq_true_eq]

theorem not_availableWords_of_onOrderWords : ∀ word ∈ onOrderWords, ∀ other ∈ availableWords,
    Text.ofString word ≠ Text.ofString other := by
  decide

theorem stateOfWord_eq_some_iff {t state : Text} :
    stateOfWord t = some state ↔ SpellsState t state := by
  unfold stateOfWord
  dsimp only
  constructor
  · intro h
    split at h
    · next hany =>
      obtain ⟨word, hword, hspelled⟩ := any_spelled_iff.mp hany
      obtain rfl := Option.some.inj h
      exact .available hword hspelled
    · split at h
      · next hany =>
        obtain ⟨word, hword, hspelled⟩ := any_spelled_iff.mp hany
        obtain rfl := Option.some.inj h
        exact .onOrder hword hspelled
      · cases h
  · intro h
    cases h with
    | available hword hspelled => rw [if_pos (any_spelled_iff.mpr ⟨_, hword, hspelled⟩)]
    | onOrder hword hspelled =>
      rw [if_neg, if_pos (any_spelled_iff.mpr ⟨_, hword, hspelled⟩)]
      intro hany
      obtain ⟨other, hother, hsame⟩ := any_spelled_iff.mp hany
      exact not_availableWords_of_onOrderWords _ hword other hother (hspelled.symm.trans hsame)

theorem not_unicolor_of_multicolor : ∀ word ∈ TonerType.multicolor.labels,
    ∀ other ∈ TonerType.unicolor.labels, Text.ofString word ≠ Text.ofString other := by
  decide

theorem ofLabel_eq_some_iff {t : Text} {type : TonerType} :
    TonerType.ofLabel t.folded = some type ↔ SpellsType t type := by
  unfold TonerType.ofLabel
  constructor
  · intro h
    split at h
    · next hany =>
      obtain rfl := Option.some.inj h
      exact any_spelled_iff.mp hany
    · split at h
      · next hany =>
        obtain rfl := Option.some.inj h
        exact any_spelled_iff.mp hany
      · cases h
  · intro h
    cases type with
    | unicolor => rw [if_pos (any_spelled_iff.mpr h)]
    | multicolor =>
      rw [if_neg, if_pos (any_spelled_iff.mpr h)]
      intro hany
      obtain ⟨word, hword, hspelled⟩ := h
      obtain ⟨other, hother, hsame⟩ := any_spelled_iff.mp hany
      exact not_unicolor_of_multicolor word hword other hother (hspelled.symm.trans hsame)

/-! ## Faults of fields -/

/-- The fields without which a row is no consumable. -/
def requiredFields : List Text := [FieldName.brand, FieldName.reference]

/-- The fields of counts, in the order in which they are judged. -/
def countFields : List Text :=
  [FieldName.black, FieldName.cyan, FieldName.magenta, FieldName.yellow, FieldName.colorBlack,
    FieldName.drum]

/-- The fields of a consumable that can be wrong, in the order in which they are judged. -/
def judgedFields : List Text :=
  requiredFields ++ FieldName.state :: (countFields ++ [FieldName.tonerType])

/-- The cell that feeds a field keeps its row from being a consumable. -/
inductive Offends (row : Row) (m : Mapping) : Text → FieldFault → Prop where
  | missing {field : Text} (hfield : field ∈ requiredFields)
      (habsent : m.cell? row field = none) : Offends row m field .missing
  | state {c : Cell} (hcell : m.cell? row FieldName.state = some c)
      (hunknown : ∀ state, ¬ SpellsState c.value state) :
      Offends row m FieldName.state (.unknownState c.value)
  | count {field : Text} {c : Cell} (hfield : field ∈ countFields)
      (hcell : m.cell? row field = some c) (hcountless : ∀ n, ¬ c.Counts n) :
      Offends row m field (.notACount c.value)
  | tonerType {c : Cell} (hcell : m.cell? row FieldName.tonerType = some c)
      (hunknown : ∀ type, ¬ SpellsType c.value type) :
      Offends row m FieldName.tonerType (.unknownTonerType c.value)

/-- Nothing is wrong with a field. -/
def Clean (row : Row) (m : Mapping) (field : Text) : Prop := ∀ fault, ¬ Offends row m field fault

/-- The first of some fields that offends, and how. -/
inductive FirstFault (row : Row) (m : Mapping) : List Text → FieldError → Prop where
  | here {field : Text} {fault : FieldFault} {rest : List Text} (h : Offends row m field fault) :
      FirstFault row m (field :: rest) ⟨field, fault⟩
  | later {field : Text} {rest : List Text} {e : FieldError} (hclean : Clean row m field)
      (h : FirstFault row m rest e) : FirstFault row m (field :: rest) e

/-- The row is a consumable: it has a brand and a reference, and of the other cells none is there
that cannot be read. -/
structure Fills (row : Row) (m : Mapping) : Prop where
  brand : m.cell? row FieldName.brand ≠ none
  reference : m.cell? row FieldName.reference ≠ none
  state : ∀ c, m.cell? row FieldName.state = some c → ∃ state, SpellsState c.value state
  counts : ∀ field ∈ countFields, ∀ c, m.cell? row field = some c → ∃ n, c.Counts n
  tonerType : ∀ c, m.cell? row FieldName.tonerType = some c → ∃ type, SpellsType c.value type

theorem countFields_not_required : ∀ field ∈ countFields, field ∉ requiredFields := by decide

section
variable {row : Row} {m : Mapping} {field : Text}

theorem clean_required (hfield : field ∈ requiredFields) :
    Clean row m field ↔ m.cell? row field ≠ none := by
  refine ⟨fun hclean habsent => hclean _ (.missing hfield habsent), fun hcell fault h => ?_⟩
  cases h with
  | missing _ habsent => exact hcell habsent
  | state => exact absurd hfield (by decide)
  | count hcount => exact countFields_not_required field hcount hfield
  | tonerType => exact absurd hfield (by decide)

theorem clean_state : Clean row m FieldName.state ↔
    ∀ c, m.cell? row FieldName.state = some c → ∃ state, SpellsState c.value state := by
  constructor
  · intro hclean c hcell
    by_contra hunknown
    exact hclean _ (.state hcell (not_exists.mp hunknown))
  · intro hspelled fault h
    cases h with
    | missing hfield => exact absurd hfield (by decide)
    | state hcell hunknown => exact (not_exists.mpr hunknown) (hspelled _ hcell)
    | count hfield => exact absurd hfield (by decide)

theorem clean_count (hfield : field ∈ countFields) :
    Clean row m field ↔ ∀ c, m.cell? row field = some c → ∃ n, c.Counts n := by
  constructor
  · intro hclean c hcell
    by_contra hcountless
    exact hclean _ (.count hfield hcell (not_exists.mp hcountless))
  · intro hcounts fault h
    cases h with
    | missing hrequired => exact countFields_not_required field hfield hrequired
    | state => exact absurd hfield (by decide)
    | count _ hcell hcountless => exact (not_exists.mpr hcountless) (hcounts _ hcell)
    | tonerType => exact absurd hfield (by decide)

theorem clean_tonerType : Clean row m FieldName.tonerType ↔
    ∀ c, m.cell? row FieldName.tonerType = some c → ∃ type, SpellsType c.value type := by
  constructor
  · intro hclean c hcell
    by_contra hunknown
    exact hclean _ (.tonerType hcell (not_exists.mp hunknown))
  · intro hspelled fault h
    cases h with
    | missing hfield => exact absurd hfield (by decide)
    | count hfield => exact absurd hfield (by decide)
    | tonerType hcell hunknown => exact (not_exists.mpr hunknown) (hspelled _ hcell)

theorem fills_iff : Fills row m ↔ ∀ field ∈ judgedFields, Clean row m field := by
  have hfields : (∀ field ∈ judgedFields, Clean row m field) ↔
      (∀ field ∈ requiredFields, Clean row m field) ∧ Clean row m FieldName.state ∧
        (∀ field ∈ countFields, Clean row m field) ∧ Clean row m FieldName.tonerType := by
    simp only [judgedFields, List.forall_mem_append, List.forall_mem_cons, List.not_mem_nil,
      false_implies, implies_true, and_true]
  rw [hfields, clean_state, clean_tonerType]
  constructor
  · intro h
    refine ⟨fun field hfield => ?_, h.state, fun field hfield => ?_, h.tonerType⟩
    · rw [clean_required hfield]
      revert field
      exact List.forall_mem_cons.mpr ⟨h.brand, List.forall_mem_singleton.mpr h.reference⟩
    · exact (clean_count hfield).mpr (h.counts field hfield)
  · rintro ⟨hrequired, hstate, hcounts, htonerType⟩
    refine ⟨?_, ?_, hstate, fun field hfield => (clean_count hfield).mp (hcounts field hfield),
      htonerType⟩
    · exact (clean_required (by decide)).mp (hrequired _ (by decide))
    · exact (clean_required (by decide)).mp (hrequired _ (by decide))

/-- A field offends in one way. -/
theorem Offends.functional {fault other : FieldFault} (h : Offends row m field fault)
    (hother : Offends row m field other) : fault = other := by
  -- no field is of two of the four sorts, so both faults are of one sort and of one cell
  cases h with
  | missing hfield habsent =>
    cases hother with
    | missing => rfl
    | state => exact absurd hfield (by decide)
    | count hcount => exact absurd hfield (countFields_not_required field hcount)
    | tonerType => exact absurd hfield (by decide)
  | state hcell =>
    cases hother with
    | missing hfield => exact absurd hfield (by decide)
    | state hsame => rw [Option.some.inj (hcell.symm.trans hsame)]
    | count hfield => exact absurd hfield (by decide)
  | count hfield hcell =>
    cases hother with
    | missing hrequired => exact absurd hrequired (countFields_not_required field hfield)
    | state => exact absurd hfield (by decide)
    | count _ hsame => rw [Option.some.inj (hcell.symm.trans hsame)]
    | tonerType => exact absurd hfield (by decide)
  | tonerType hcell =>
    cases hother with
    | missing hfield => exact absurd hfield (by decide)
    | count hfield => exact absurd hfield (by decide)
    | tonerType hsame => rw [Option.some.inj (hcell.symm.trans hsame)]

end

section
variable {row : Row} {m : Mapping} {fields : List Text} {e : FieldError}

theorem FirstFault.functional {e' : FieldError} (h : FirstFault row m fields e)
    (h' : FirstFault row m fields e') : e = e' := by
  induction h with
  | here hoffends =>
    cases h' with
    | here hsame => rw [hoffends.functional hsame]
    | later hclean => exact absurd hoffends (hclean _)
  | later hclean _ ih =>
    cases h' with
    | here hoffends => exact absurd hoffends (hclean _)
    | later _ hrest => exact ih hrest

theorem FirstFault.not_clean (h : FirstFault row m fields e) :
    ¬ ∀ field ∈ fields, Clean row m field := by
  induction h with
  | here h => exact fun hclean => hclean _ List.mem_cons_self _ h
  | later _ _ ih => exact fun hclean => ih (List.forall_mem_cons.mp hclean).2

theorem FirstFault.append (h : FirstFault row m fields e) (more : List Text) :
    FirstFault row m (fields ++ more) e := by
  induction h with
  | here h => exact .here h
  | later hclean _ ih => exact .later hclean ih

theorem FirstFault.after (hclean : ∀ field ∈ fields, Clean row m field) {more : List Text}
    (h : FirstFault row m more e) : FirstFault row m (fields ++ more) e := by
  induction fields with
  | nil => exact h
  | cons field rest ih =>
    obtain ⟨hfirst, hrest⟩ := List.forall_mem_cons.mp hclean
    exact .later hfirst (ih hrest)

end

/-! ## What a row says -/

/-- The toner type of a row: the one it names, else four colours exactly if it fills a colour. -/
inductive GivesType (row : Row) (m : Mapping) : TonerType → Prop where
  | named {c : Cell} {type : TonerType} (hcell : m.cell? row FieldName.tonerType = some c)
      (hspelled : SpellsType c.value type) : GivesType row m type
  | colored {field : Text} (habsent : m.cell? row FieldName.tonerType = none)
      (hfield : field ∈ coloredInks) (hcell : m.cell? row field ≠ none) :
      GivesType row m .multicolor
  | plain (habsent : m.cell? row FieldName.tonerType = none)
      (hnone : ∀ field ∈ coloredInks, m.cell? row field = none) : GivesType row m .unicolor

/-- The count of a field that the toner type tracks: that of its cell, zero where there is none. -/
inductive GivesCount (row : Row) (m : Mapping) (field : Text) : Quantity → Prop where
  | counted {c : Cell} {n : Int} (hcell : m.cell? row field = some c) (hcounts : c.Counts n) :
      GivesCount row m field (.counted n)
  | absent (h : m.cell? row field = none) : GivesCount row m field (.counted 0)

/-- The state of a row, in stock where it gives none. -/
inductive GivesState (row : Row) (m : Mapping) : Text → Prop where
  | spelled {c : Cell} {state : Text} (hcell : m.cell? row FieldName.state = some c)
      (hspelled : SpellsState c.value state) : GivesState row m state
  | absent (h : m.cell? row FieldName.state = none) : GivesState row m inStockState

/-- The fields of the counts that a toner type tracks. -/
def TonerType.inks : TonerType → List Text
  | .unicolor => [FieldName.black]
  | .multicolor => coloredInks

/-- The counts of toner, by their fields. -/
def Consumable.toner (c : Consumable) : List (Text × Quantity) :=
  [(FieldName.black, c.black), (FieldName.cyan, c.cyan), (FieldName.magenta, c.magenta),
    (FieldName.yellow, c.yellow), (FieldName.colorBlack, c.colorBlack)]

/-- The consumable of a toner type that a row of a branch describes. -/
structure Describes (row : Row) (m : Mapping) (branch : Text) (type : TonerType) (c : Consumable) :
    Prop where
  brand : ∃ cell, m.cell? row FieldName.brand = some cell ∧ c.brand = cell.value
  reference : ∃ cell, m.cell? row FieldName.reference = some cell ∧ c.reference = cell.value
  description : c.description = m.text row FieldName.description
  state : GivesState row m c.state
  branch : c.branch = branch
  tag : c.tonerTag = type.tag
  tonerType : GivesType row m type
  tracked : ∀ field q, (field, q) ∈ c.toner → field ∈ type.inks → GivesCount row m field q
  untracked : ∀ field q, (field, q) ∈ c.toner → field ∉ type.inks → q = .notApplicable
  drumCounted : m.cell? row FieldName.drum ≠ none → GivesCount row m FieldName.drum c.drum
  drumAbsent : m.cell? row FieldName.drum = none → c.drum = .notApplicable
  unstored : c.id = 0 ∧ c.createdAt = .unset ∧ c.updatedAt = .unset

/-! ## Reading one field after another -/

/-- Reading some fields gives a fitting value where all of them are clean, and the first fault
otherwise. -/
inductive Judges {α : Type} (row : Row) (m : Mapping) (fields : List Text) (fits : α → Prop) :
    Except FieldError α → Prop where
  | ok {a : α} (hclean : ∀ field ∈ fields, Clean row m field) (hfits : fits a) :
      Judges row m fields fits (.ok a)
  | error {e : FieldError} (h : FirstFault row m fields e) : Judges row m fields fits (.error e)

section
variable {α β : Type} {row : Row} {m : Mapping} {fields more : List Text} {fits : α → Prop}
  {x : Except FieldError α}

theorem Judges.bind {f : α → Except FieldError β} {fits' : β → Prop}
    (h : Judges row m fields fits x) (hnext : ∀ a, fits a → Judges row m more fits' (f a)) :
    Judges row m (fields ++ more) fits' (x >>= f) := by
  cases h with
  | error h => exact .error (h.append more)
  | @ok a hclean hfits =>
    have hrest := hnext a hfits
    change Judges row m (fields ++ more) fits' (f a)
    generalize f a = y at hrest ⊢
    cases hrest with
    | ok hrest hfits' => exact .ok (List.forall_mem_append.mpr ⟨hclean, hrest⟩) hfits'
    | error h => exact .error (.after hclean h)

/-- What comes after the last field judges none. -/
theorem Judges.bind_last {f : α → Except FieldError β} {fits' : β → Prop}
    (h : Judges row m fields fits x) (hnext : ∀ a, fits a → Judges row m [] fits' (f a)) :
    Judges row m fields fits' (x >>= f) :=
  List.append_nil fields ▸ h.bind hnext

theorem Judges.error_iff (h : Judges row m fields fits x) {e : FieldError} :
    x = .error e ↔ FirstFault row m fields e := by
  cases h with
  | ok hclean _ => exact ⟨nofun, fun hfault => absurd hclean hfault.not_clean⟩
  | error hfault =>
    refine ⟨fun herror => ?_, fun hsame => by rw [hfault.functional hsame]⟩
    exact Except.error.inj herror ▸ hfault

theorem Judges.ok_iff (h : Judges row m fields fits x) :
    (∃ a, x = .ok a) ↔ ∀ field ∈ fields, Clean row m field := by
  cases h with
  | ok hclean _ => exact ⟨fun _ => hclean, fun _ => ⟨_, rfl⟩⟩
  | error hfault => exact ⟨nofun, fun hclean => absurd hclean hfault.not_clean⟩

theorem Judges.fitting (h : Judges row m fields fits x) {a : α} (ha : x = .ok a) : fits a := by
  cases h with
  | ok _ hfits => exact Except.ok.inj ha ▸ hfits
  | error => cases ha

/-- A field that has to be there is judged before all that follows. -/
theorem Judges.required {field : Text} (hfield : field ∈ requiredFields)
    (h : m.cell? row field ≠ none → Judges row m more fits x) :
    Judges row m (field :: more) fits
      (if (m.text row field).isEmpty then throw ⟨field, .missing⟩ else x) := by
  by_cases hcell : m.cell? row field = none
  · rw [if_pos (Mapping.text_isEmpty_iff.mpr hcell)]
    exact .error (.here (.missing hfield hcell))
  · rw [if_neg fun hempty => hcell (Mapping.text_isEmpty_iff.mp hempty)]
    have hclean := (clean_required hfield).mpr hcell
    cases h hcell with
    | ok hrest hfits => exact .ok (List.forall_mem_cons.mpr ⟨hclean, hrest⟩) hfits
    | error hfault => exact .error (.later hclean hfault)

end

section
variable {row : Row} {m : Mapping}

theorem readState_judges :
    Judges row m [FieldName.state] (GivesState row m) (readState row m) := by
  unfold readState
  dsimp only
  cases hcell : m.cell? row FieldName.state with
  | none =>
    rw [if_pos (Mapping.text_isEmpty_iff.mpr hcell)]
    have hclean : Clean row m FieldName.state := clean_state.mpr (by simp [hcell])
    exact .ok (List.forall_mem_singleton.mpr hclean) (.absent hcell)
  | some c =>
    rw [if_neg (Mapping.text_ne_nil hcell), Mapping.text_of_some hcell]
    split
    · next state hstate =>
      have hspelled := stateOfWord_eq_some_iff.mp hstate
      have hclean : Clean row m FieldName.state :=
        clean_state.mpr fun other hother => ⟨state, by
          rwa [← Option.some.inj (hcell.symm.trans hother)]⟩
      exact .ok (List.forall_mem_singleton.mpr hclean) (.spelled hcell hspelled)
    · next hnone =>
      refine .error (.here (.state hcell fun state hspelled => ?_))
      rw [stateOfWord_eq_some_iff.mpr hspelled] at hnone
      cases hnone

/-- What reading a count gives: the number of the cell, or nothing where there is no cell. -/
inductive Reads (row : Row) (m : Mapping) (field : Text) : Quantity → Prop where
  | counted {c : Cell} {n : Int} (hcell : m.cell? row field = some c) (hcounts : c.Counts n) :
      Reads row m field (.counted n)
  | absent (h : m.cell? row field = none) : Reads row m field .notApplicable

theorem Reads.kept {field : Text} {q : Quantity} (h : Reads row m field q) :
    GivesCount row m field q.kept := by
  cases h with
  | counted hcell hcounts => exact .counted hcell hcounts
  | absent h => exact .absent h

theorem readCount_judges {field : Text} (hfield : field ∈ countFields) :
    Judges row m [field] (Reads row m field) (readCount row m field) := by
  unfold readCount
  split
  · next hcell =>
    have hclean : Clean row m field := (clean_count hfield).mpr (by simp [hcell])
    exact .ok (List.forall_mem_singleton.mpr hclean) (.absent hcell)
  · next c hcell =>
    split
    · next n hn =>
      have hcounts := countOfCell_eq_some_iff.mp hn
      have hclean : Clean row m field := (clean_count hfield).mpr fun other hother => ⟨n, by
        rwa [← Option.some.inj (hcell.symm.trans hother)]⟩
      exact .ok (List.forall_mem_singleton.mpr hclean) (.counted hcell hcounts)
    · next hnone =>
      refine .error (.here (.count hfield hcell fun n hcounts => ?_))
      rw [countOfCell_eq_some_iff.mpr hcounts] at hnone
      cases hnone

theorem readTonerType_judges :
    Judges row m [FieldName.tonerType] (GivesType row m) (readTonerType row m) := by
  unfold readTonerType
  dsimp only
  cases hcell : m.cell? row FieldName.tonerType with
  | none =>
    rw [if_pos (Mapping.text_isEmpty_iff.mpr hcell)]
    have hclean : Clean row m FieldName.tonerType := clean_tonerType.mpr (by simp [hcell])
    refine .ok (List.forall_mem_singleton.mpr hclean) ?_
    split
    · next hany =>
      obtain ⟨field, hfield, hfilled⟩ := List.any_eq_true.mp hany
      exact .colored hcell hfield (Option.isSome_iff_ne_none.mp hfilled)
    · next hnone =>
      refine .plain hcell fun field hfield => ?_
      by_contra hfilled
      exact hnone (List.any_eq_true.mpr ⟨field, hfield, Option.isSome_iff_ne_none.mpr hfilled⟩)
  | some c =>
    rw [if_neg (Mapping.text_ne_nil hcell), Mapping.text_of_some hcell]
    split
    · next type htype =>
      have hspelled := ofLabel_eq_some_iff.mp htype
      have hclean : Clean row m FieldName.tonerType :=
        clean_tonerType.mpr fun other hother => ⟨type, by
          rwa [← Option.some.inj (hcell.symm.trans hother)]⟩
      exact .ok (List.forall_mem_singleton.mpr hclean) (.named hcell hspelled)
    · next hnone =>
      refine .error (.here (.tonerType hcell fun type hspelled => ?_))
      rw [ofLabel_eq_some_iff.mpr hspelled] at hnone
      cases hnone

end

/-! ## Consumables of rows -/

/-- Configuring keeps the counts of the toner type and no others. -/
theorem Consumable.configured_toner (c : Consumable) (type : TonerType) (drum : Bool) :
    (c.configured type drum).toner = c.toner.map fun p =>
      (p.1, if p.1 ∈ type.inks then p.2.kept else .notApplicable) := by
  cases type <;> rfl

theorem consumableRecord_judges (row : Row) (m : Mapping) (branch : Text) :
    Judges row m judgedFields (fun c => ∃ type, Describes row m branch type c)
      (consumableRecord row m branch) := by
  simp only [consumableRecord, throw_bind]
  refine .required (by decide) fun hbrand => .required (by decide) fun hreference => ?_
  refine readState_judges.bind fun state hstate => ?_
  refine (readCount_judges (by decide)).bind fun black hblack => ?_
  refine (readCount_judges (by decide)).bind fun cyan hcyan => ?_
  refine (readCount_judges (by decide)).bind fun magenta hmagenta => ?_
  refine (readCount_judges (by decide)).bind fun yellow hyellow => ?_
  refine (readCount_judges (by decide)).bind fun colorBlack hcolorBlack => ?_
  refine (readCount_judges (by decide)).bind fun drum hdrum => ?_
  refine readTonerType_judges.bind_last fun type htype => ?_
  refine .ok (List.forall_mem_nil _) ⟨type, ?_⟩
  set raw : Consumable :=
    { branch, brand := m.text row FieldName.brand, reference := m.text row FieldName.reference
      state, black, cyan, magenta, yellow, colorBlack, drum
      description := m.text row FieldName.description } with hraw
  have hreads : ∀ p ∈ raw.toner, Reads row m p.1 p.2 := by
    simp only [Consumable.toner, List.forall_mem_cons, hraw]
    exact ⟨hblack, hcyan, hmagenta, hyellow, hcolorBlack, List.forall_mem_nil _⟩
  have htoner : ∀ field q, (field, q) ∈ (raw.configured type drum.isApplicable).toner →
      ∃ read, Reads row m field read ∧
        (if field ∈ type.inks then read.kept else .notApplicable) = q := by
    intro field q hq
    rw [Consumable.configured_toner] at hq
    obtain ⟨p, hp, heq⟩ := List.mem_map.mp hq
    obtain ⟨rfl, hkept⟩ := Prod.mk.inj heq
    exact ⟨p.2, hreads p hp, hkept⟩
  obtain ⟨brandCell, hbrandCell⟩ := Option.ne_none_iff_exists'.mp hbrand
  obtain ⟨referenceCell, hreferenceCell⟩ := Option.ne_none_iff_exists'.mp hreference
  exact {
    brand := ⟨brandCell, hbrandCell, Mapping.text_of_some hbrandCell⟩
    reference := ⟨referenceCell, hreferenceCell, Mapping.text_of_some hreferenceCell⟩
    description := rfl
    state := hstate
    branch := rfl
    tag := rfl
    tonerType := htype
    tracked := by
      intro field q hq hink
      obtain ⟨read, hread, rfl⟩ := htoner field q hq
      rw [if_pos hink]
      exact hread.kept
    untracked := by
      intro field q hq hink
      obtain ⟨read, -, rfl⟩ := htoner field q hq
      exact if_neg hink
    drumCounted := by
      intro hcell
      cases hdrum with
      | counted hdrumCell hcounts => exact .counted hdrumCell hcounts
      | absent habsent => exact absurd habsent hcell
    drumAbsent := by
      intro habsent
      cases hdrum with
      | counted hdrumCell => cases habsent.symm.trans hdrumCell
      | absent => rfl
    unstored := ⟨rfl, rfl, rfl⟩ }

/-- A row is a consumable exactly if it has a brand and a reference and no other cell that cannot be
read; otherwise the first field that offends is the error. The consumable is the one that the row
describes. -/
theorem consumableRecord_verdict (row : Row) (m : Mapping) (branch : Text) :
    ((∃ c, consumableRecord row m branch = .ok c) ↔ Fills row m) ∧
    (∀ e, consumableRecord row m branch = .error e ↔ FirstFault row m judgedFields e) ∧
    (∀ c, consumableRecord row m branch = .ok c → ∃ type, Describes row m branch type c) := by
  have hjudged := consumableRecord_judges row m branch
  refine ⟨hjudged.ok_iff.trans fills_iff.symm, fun e => hjudged.error_iff, fun c hc => ?_⟩
  exact hjudged.fitting hc

end Stockroom

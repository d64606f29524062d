import Mathlib.Data.List.Forall2
import Mathlib.Data.Nat.Find
import Mathlib.Logic.Equiv.Basic
import Mathlib.Order.Bounds.Defs
import Stockroom.Proofs.Intake.Consumables
import Stockroom.Proofs.Text.Folded

/-!
Columns in any order. When no two columns of a header name the same field, the cell that feeds a
field is the cell under that field's column, wherever the column stands. So moving the columns of a
sheet, rows shorter than the others being filled up with blank cells, changes neither the lines nor
the records nor the errors.

Main definitions and statements:
* `Schema.lookup_eq`, `Mapping.namedField_of_isBlank`: the field a header names; white space names none;
* `Mapping.Names`: the columns that name a field; `Mapping.column?_isLeast`, `Mapping.column?_infer`: the
  column of a field;
* `Rearranged`: the same row with its columns moved;
* `cell?_rearranged`: moved columns feed the same fields;
* `Normalizer.OfCells`: records and notices that depend on the cells of fields only;
* `prepare_rearranged`: the records of a sheet whose columns moved.
-/
namespace Stockroom
set_option autoImplicit false

/-! ## Headers that name a field -/

/-- Entries are added behind those that are there, so the first one that is spelled alike decides. -/
theorem Schema.lookup_addedTo (key : Text) (synonyms : List Synonym) (table : List (Text × Text)) :
    (synonyms.foldl (fun table e =>
      if (table.lookup e.header.folded).isSome || e.header.folded.isEmpty then table
      else table ++ [(e.header.folded, e.field)]) table).lookup key =
      (table.lookup key).or (if key.isEmpty then none
        else (synonyms.find? (·.header.folded == key)).map (·.field)) := by
  induction synonyms generalizing table with
  | nil => cases key <;> simp
  | cons e rest ih =>
    rw [List.foldl_cons, ih, List.find?_cons]
    by_cases hsame : e.header.folded = key
    · rw [hsame, beq_self_eq_true]
      cases key.isEmpty <;> cases htable : table.lookup key <;> simp [List.lookup_append, htable]
    · have hother : ¬key = e.header.folded := fun heq => hsame heq.symm
      rw [beq_eq_false_iff_ne.mpr hsame]
      split
      · rfl
      · rw [List.lookup_append, List.lookup_cons, beq_eq_false_iff_ne.mpr hother]
        simp

/-- A header names the field of the first entry that is spelled like it. -/
theorem Schema.lookup_eq (schema : Schema) (header : Text) :
    schema.lookup header = if header.folded.isEmpty then none
      else (schema.synonyms.find? (·.header.folded == header.folded)).map (·.field) := by
  rw [lookup, tableOf, lookup_addedTo, List.lookup_nil, Option.none_or]

namespace Mapping

theorem namedField_of_isBlank {c : Cell} (h : c.isBlank = true) (schema : Schema) :
    namedField schema c = none := by
  unfold namedField
  split
  · rfl
  · rw [Schema.lookup_eq, Text.folded_of_isBlank h]
    rfl

/-! ## Columns of fields -/

/-- The column of a row names a field. -/
def Names (schema : Schema) (row : Row) (i : Nat) (field : Text) : Prop :=
  ∃ c, row[i]? = some c ∧ namedField schema c = some field

section
variable {schema : Schema} {row : Row} {field : Text}

theorem Names.succ_iff {c : Cell} {i : Nat} :
    Names schema (c :: row) (i + 1) field ↔ Names schema row i field := by
  rw [Names, Names, List.getElem?_cons_succ]

theorem Names.zero_iff {c : Cell} :
    Names schema (c :: row) 0 field ↔ namedField schema c = some field := by
  simp [Names]

theorem any_named_iff : (row.any fun c => (namedField schema c).isSome) = true ↔
    ∃ i field, Names schema row i field := by
  simp only [List.any_eq_true, Option.isSome_iff_exists, Names, List.mem_iff_getElem?]
  constructor
  · rintro ⟨c, ⟨i, hi⟩, field, hfield⟩
    exact ⟨i, field, c, hi, hfield⟩
  · rintro ⟨i, field, c, hi, hfield⟩
    exact ⟨c, ⟨i, hi⟩, field, hfield⟩

/-- A field that is mapped keeps its column. -/
theorem lookup_ofHeader_taken {start i : Nat} {taken : List (Text × Nat)}
    (h : taken.lookup field = some i) : (ofHeader schema start taken row).lookup field = some i := by
  induction row generalizing start taken with
  | nil => exact h
  | cons c rest ih =>
    rw [ofHeader]
    split
    · split
      · exact ih h
      · exact ih (by rw [List.lookup_append, h]; rfl)
    · exact ih h

/-- A field that is named is mapped to the leftmost column that names it. -/
theorem lookup_ofHeader_of_names {start i : Nat} {taken : List (Text × Nat)}
    (htaken : taken.lookup field = none) (hi : Names schema row i field)
    (hleast : ∀ j, Names schema row j field → i ≤ j) :
    (ofHeader schema start taken row).lookup field = some (start + i) := by
  induction row generalizing start i taken with
  | nil =>
    obtain ⟨c, hc, -⟩ := hi
    cases hc
  | cons c rest ih =>
    rw [ofHeader]
    cases i with
    | zero =>
      rw [Names.zero_iff.mp hi]
      dsimp only
      rw [htaken]
      exact lookup_ofHeader_taken (by simp [List.lookup_append, htaken])
    | succ i =>
      have hother : namedField schema c ≠ some field := fun hsame =>
        absurd (hleast 0 (Names.zero_iff.mpr hsame)) (by omega)
      have hrest {more : List (Text × Nat)} (hmore : more.lookup field = none) :
          (ofHeader schema (start + 1) more rest).lookup field = some (start + (i + 1)) := by
        rw [ih hmore (Names.succ_iff.mp hi) fun j hj => ?_, Nat.add_assoc, Nat.add_comm 1 i]
        have := hleast (j + 1) (Names.succ_iff.mpr hj)
        omega
      split
      · next other hnamed =>
        split
        · exact hrest htaken
        · refine hrest ?_
          have hne : ¬ field = other := fun hsame => hother (hsame ▸ hnamed)
          simp [List.lookup_append, htaken, List.lookup_cons, beq_eq_false_iff_ne.mpr hne]
      · exact hrest htaken

/-- A field is mapped by a header only if a column names it. -/
theorem names_of_lookup_ofHeader {start i : Nat} {taken : List (Text × Nat)}
    (htaken : taken.lookup field = none)
    (h : (ofHeader schema start taken row).lookup field = some i) :
    ∃ j, Names schema row j field := by
  induction row generalizing start taken with
  | nil =>
    rw [ofHeader, htaken] at h
    cases h
  | cons c rest ih =>
    by_cases hnamed : namedField schema c = some field
    · exact ⟨0, Names.zero_iff.mpr hnamed⟩
    have hrest {more : List (Text × Nat)} (hmore : more.lookup field = none)
        (hlookup : (ofHeader schema (start + 1) more rest).lookup field = some i) :
        ∃ j, Names schema (c :: rest) j field := by
      obtain ⟨j, hj⟩ := ih hmore hlookup
      exact ⟨j + 1, Names.succ_iff.mpr hj⟩
    rw [ofHeader] at h
    split at h
    · next other hother =>
      split at h
      · exact hrest htaken h
      · refine hrest ?_ h
        have hne : ¬ field = other := fun hsame => hnamed (hsame ▸ hother)
        simp [List.lookup_append, htaken, List.lookup_cons, beq_eq_false_iff_ne.mpr hne]
    · exact hrest htaken h

/-- No two columns of a row name the same field. -/
def Unambiguous (schema : Schema) (row : Row) : Prop :=
  ∀ i j field, Names schema row i field → Names schema row j field → i = j

theorem unambiguous_iff : Unambiguous schema row ↔ row.Pairwise fun c d =>
    namedField schema c = none ∨ namedField schema c ≠ namedField schema d := by
  rw [List.pairwise_iff_getElem]
  constructor
  · intro h i j hi hj hlt
    by_contra hclash
    obtain ⟨hnamed, hsame⟩ := not_or.mp hclash
    obtain ⟨field, hfield⟩ := Option.ne_none_iff_exists'.mp hnamed
    have hother := (not_not.mp hsame).symm.trans hfield
    have heq := h i j field ⟨row[i], List.getElem?_eq_getElem hi, hfield⟩
      ⟨row[j], List.getElem?_eq_getElem hj, hother⟩
    omega
  · intro h
    have hlt {i j : Nat} {field : Text} (hi : Names schema row i field)
        (hj : Names schema row j field) : ¬ i < j := by
      intro hbefore
      obtain ⟨c, hc, hcfield⟩ := hi
      obtain ⟨d, hd, hdfield⟩ := hj
      obtain ⟨hilt, rfl⟩ := List.getElem?_eq_some_iff.mp hc
      obtain ⟨hjlt, rfl⟩ := List.getElem?_eq_some_iff.mp hd
      obtain hnone | hne := h i j hilt hjlt hbefore
      · rw [hnone] at hcfield
        cases hcfield
      · exact hne (hcfield.trans hdfield.symm)
    intro i j field hi hj
    have hforth := hlt hi hj
    have hback := hlt hj hi
    omega

instance : Decidable (Unambiguous schema row) := decidable_of_iff' _ unambiguous_iff

theorem infer_hasHeader_iff :
    (infer row schema).hasHeader = true ↔ ∃ i field, Names schema row i field := by
  rw [← any_named_iff, infer]
  split
  · next h => simp [h]
  · next h => simp [h]

/-- With a header, the column of a field is the leftmost one that names it. -/
theorem column?_isLeast (hheader : (infer row schema).hasHeader = true) {i : Nat} :
    (infer row schema).column? field = some i ↔ IsLeast {j | Names schema row j field} i := by
  classical
  have hnamed := any_named_iff.mpr (infer_hasHeader_iff.mp hheader)
  have hcolumn : (infer row schema).column? field = (ofHeader schema 0 [] row).lookup field := by
    rw [column?, infer, if_pos hnamed]
  have hleast {j : Nat} (hj : IsLeast {j | Names schema row j field} j) :
      (ofHeader schema 0 [] row).lookup field = some j := by
    rw [lookup_ofHeader_of_names rfl hj.1 fun k hk => hj.2 hk, Nat.zero_add]
  rw [hcolumn]
  refine ⟨fun h => ?_, hleast⟩
  have hsome := names_of_lookup_ofHeader rfl h
  have hfirst : IsLeast {j | Names schema row j field} (Nat.find hsome) :=
    ⟨Nat.find_spec hsome, fun k hk => Nat.find_min' hsome hk⟩
  rwa [Option.some.inj ((hleast hfirst).symm.trans h)] at hfirst

/-- The column of a field is the one that names it. -/
theorem column?_infer (hheader : (infer row schema).hasHeader = true)
    (hunambiguous : Unambiguous schema row) {i : Nat} :
    (infer row schema).column? field = some i ↔ Names schema row i field := by
  rw [column?_isLeast hheader]
  exact ⟨fun h => h.1, fun h => ⟨h, fun j hj => (hunambiguous i j field h hj).le⟩⟩

theorem infer_singleton {c : Cell} (hnamed : namedField schema c = some field) :
    infer [c] schema = ⟨[(field, 0)], true⟩ := by
  simp [infer, ofHeader, hnamed]

theorem infer_pair {c d : Cell} {other : Text} (hc : namedField schema c = some field)
    (hd : namedField schema d = some other) (hapart : other ≠ field) :
    infer [c, d] schema = ⟨[(field, 0), (other, 1)], true⟩ := by
  simp [infer, ofHeader, hc, hd, hapart]

theorem hasHeader_of_first {c : Cell} (hnamed : namedField schema c = some field) :
    (infer (c :: row) schema).hasHeader = true :=
  infer_hasHeader_iff.mpr ⟨0, field, Names.zero_iff.mpr hnamed⟩

end

theorem namedField_headers :
    namedField .pc (Cell.ofText "Nom du poste") = some FieldName.assetName ∧
      namedField .consumable (Cell.ofText "Marque") = some FieldName.brand ∧
      namedField .consumable (Cell.ofText "Ref") = some FieldName.reference := by
  simp only [namedField, Schema.lookup_eq]
  decide +kernel

theorem namedField_assetName :
    namedField .pc (Cell.ofText "Nom du poste") = some FieldName.assetName := namedField_headers.1

theorem namedField_brand :
    namedField .consumable (Cell.ofText "Marque") = some FieldName.brand := namedField_headers.2.1

/-- The header of a sheet that holds the brands and the references of consumables. -/
theorem infer_reference : infer [Cell.ofText "Marque", Cell.ofText "Ref"] .consumable =
    ⟨[(FieldName.brand, 0), (FieldName.reference, 1)], true⟩ :=
  infer_pair namedField_headers.2.1 namedField_headers.2.2 (by decide)

/-- The header of a sheet that holds nothing but the names of workstations. -/
theorem infer_assetName :
    infer [Cell.ofText "Nom du poste"] .pc = ⟨[(FieldName.assetName, 0)], true⟩ :=
  infer_singleton namedField_assetName

end Mapping

theorem prepare_of_infer {ρ : Type} {grid : List Row} {top : Row} {schema : Schema} {m : Mapping}
    (htop : topRow grid = top) (hinfer : Mapping.infer top schema = m) (branch : Text)
    (n : Normalizer ρ) :
    prepare grid schema branch n =
      ((bodyRows grid m).map fun d => ⟨d.line, n.record d.line d.cells m branch⟩,
        (bodyRows grid m).flatMap fun d => n.notices d.cells m) := by
  rw [prepare, htop, hinfer]

/-! ## Rows whose columns moved -/

/-- The second row is the first one, filled up to a width with blank cells, with its columns moved:
column `i` holds what was in column `σ i`. -/
def Rearranged {w : Nat} (σ : Equiv.Perm (Fin w)) (row row' : Row) : Prop :=
  ∃ blanks : Row, (∀ c ∈ blanks, c.isBlank = true) ∧ (row ++ blanks).length = w ∧
    row'.length = w ∧ ∀ i : Fin w, row'[(i : Nat)]? = (row ++ blanks)[(σ i : Nat)]?

theorem Row.isBlank_eq_false_iff {row : Row} :
    row.isBlank = false ↔ ∃ (i : Nat) (c : Cell), row[i]? = some c ∧ c.isBlank = false := by
  rw [Row.isBlank, List.all_eq_false]
  simp only [List.mem_iff_getElem?, Bool.not_eq_true]
  constructor
  · rintro ⟨c, ⟨i, hi⟩, hc⟩
    exact ⟨i, c, hi, hc⟩
  · rintro ⟨i, c, hi, hc⟩
    exact ⟨c, ⟨i, hi⟩, hc⟩

namespace Rearranged

variable {w : Nat} {σ : Equiv.Perm (Fin w)} {row row' : Row} (h : Rearranged σ row row')
include h

theorem length_le : row.length ≤ w := by
  obtain ⟨blanks, -, hwidth, -⟩ := h
  rw [List.length_append] at hwidth
  omega

theorem lt_width {i : Nat} {c : Cell} (hc : row'[i]? = some c) : i < w := by
  obtain ⟨-, -, -, hwidth, -⟩ := h
  exact hwidth ▸ (List.getElem?_eq_some_iff.mp hc).1

/-- A cell that is not blank stands in the moved column. -/
theorem getElem?_iff {c : Cell} (hc : c.isBlank = false) (i : Fin w) :
    row'[(i : Nat)]? = some c ↔ row[(σ i : Nat)]? = some c := by
  obtain ⟨blanks, hblanks, -, -, hmoved⟩ := h
  rw [hmoved i]
  by_cases hinside : (σ i : Nat) < row.length
  · rw [List.getElem?_append_left hinside]
  · have houtside : row[(σ i : Nat)]? = none := List.getElem?_eq_none (by omega)
    rw [List.getElem?_append_right (by omega), houtside]
    refine ⟨fun hblank => ?_, nofun⟩
    rw [hblanks c (List.mem_of_getElem? hblank)] at hc
    cases hc

theorem isBlank_eq : row'.isBlank = row.isBlank := by
  have hfilled : row'.isBlank = false ↔ row.isBlank = false := by
    rw [Row.isBlank_eq_false_iff, Row.isBlank_eq_false_iff]
    constructor
    · rintro ⟨i, c, hi, hc⟩
      exact ⟨_, c, (h.getElem?_iff hc ⟨i, h.lt_width hi⟩).mp hi, hc⟩
    · rintro ⟨i, c, hi, hc⟩
      have hlt : i < w := (List.getElem?_eq_some_iff.mp hi).1.trans_le h.length_le
      refine ⟨σ.symm ⟨i, hlt⟩, c, (h.getElem?_iff hc _).mpr ?_, hc⟩
      rwa [σ.apply_symm_apply]
  rw [Bool.eq_iff_iff, ← Bool.not_eq_false, ← Bool.not_eq_false, hfilled]

/-- The moved column names what it named. -/
theorem names_iff {schema : Schema} {field : Text} (i : Fin w) :
    Mapping.Names schema row' i field ↔ Mapping.Names schema row (σ i) field := by
  have hnaming {c : Cell} (hc : Mapping.namedField schema c = some field) : c.isBlank = false := by
    by_contra hblank
    rw [Mapping.namedField_of_isBlank (Bool.not_eq_false _ ▸ hblank)] at hc
    cases hc
  constructor
  · rintro ⟨c, hi, hc⟩
    exact ⟨c, (h.getElem?_iff (hnaming hc) i).mp hi, hc⟩
  · rintro ⟨c, hi, hc⟩
    exact ⟨c, (h.getElem?_iff (hnaming hc) i).mpr hi, hc⟩

end Rearranged

/-! ## Sheets whose columns moved -/

/-- The first row that is not blank is the moved first row, unless all rows are blank. -/
theorem topRow_rearranged {w : Nat} {σ : Equiv.Perm (Fin w)} {grid grid' : List Row}
    (h : List.Forall₂ (Rearranged σ) grid grid') :
    (topRow grid = [] ∧ topRow grid' = []) ∨ Rearranged σ (topRow grid) (topRow grid') := by
  induction h with
  | nil => exact .inl ⟨rfl, rfl⟩
  | @cons row row' rest rest' hrow _ ih =>
    cases hblank : row.isBlank with
    | false =>
      have hblank' := hrow.isBlank_eq.trans hblank
      rw [topRow, topRow, List.find?_cons_of_pos (by rw [hblank]; rfl),
        List.find?_cons_of_pos (by rw [hblank']; rfl)]
      exact .inr hrow
    | true =>
      have hblank' := hrow.isBlank_eq.trans hblank
      rw [topRow, topRow, List.find?_cons_of_neg (by rw [hblank]; decide),
        List.find?_cons_of_neg (by rw [hblank']; decide)]
      exact ih

/-- The rows that are not blank are the moved rows, on the same lines. -/
theorem filledRows_rearranged {w : Nat} {σ : Equiv.Perm (Fin w)} {grid grid' : List Row}
    (h : List.Forall₂ (Rearranged σ) grid grid') :
    List.Forall₂ (fun d d' => d'.line = d.line ∧ Rearranged σ d.cells d'.cells)
      (filledRows grid) (filledRows grid') := by
  rw [filledRows, filledRows]
  generalize 1 = line
  induction h generalizing line with
  | nil => exact .nil
  | @cons row row' rest rest' hrow _ ih =>
    rw [List.zipIdx_cons, List.zipIdx_cons, List.filterMap_cons, List.filterMap_cons]
    dsimp only
    rw [hrow.isBlank_eq]
    cases row.isBlank with
    | true => exact ih (line + 1)
    | false => exact .cons ⟨rfl, hrow⟩ (ih (line + 1))

section
variable {w : Nat} {σ : Equiv.Perm (Fin w)} {schema : Schema} {top top' : Row}
  (htop : Rearranged σ top top') (hheader : (Mapping.infer top schema).hasHeader = true)
include htop hheader

theorem hasHeader_rearranged : (Mapping.infer top' schema).hasHeader = true := by
  obtain ⟨i, field, hi⟩ := Mapping.infer_hasHeader_iff.mp hheader
  obtain ⟨c, hc, -⟩ := id hi
  have hlt : i < w := (List.getElem?_eq_some_iff.mp hc).1.trans_le htop.length_le
  refine Mapping.infer_hasHeader_iff.mpr ⟨σ.symm ⟨i, hlt⟩, field, (htop.names_iff _).mpr ?_⟩
  rwa [σ.apply_symm_apply]

variable (hunambiguous : Mapping.Unambiguous schema top)
include hunambiguous

/-- A field is mapped to the column into which its column moved. -/
theorem column?_rearranged {field : Text} (i : Fin w) :
    (Mapping.infer top' schema).column? field = some (i : Nat) ↔
      (Mapping.infer top schema).column? field = some (σ i : Nat) := by
  have hunambiguous' : Mapping.Unambiguous schema top' := by
    intro j k field hj hk
    obtain ⟨c, hc, -⟩ := id hj
    obtain ⟨d, hd, -⟩ := id hk
    have hsame := hunambiguous _ _ _ ((htop.names_iff ⟨j, htop.lt_width hc⟩).mp hj)
      ((htop.names_iff ⟨k, htop.lt_width hd⟩).mp hk)
    exact congrArg Fin.val (σ.injective (Fin.ext hsame))
  rw [Mapping.column?_infer (hasHeader_rearranged htop hheader) hunambiguous',
    Mapping.column?_infer hheader hunambiguous, htop.names_iff]

/-- Moved columns feed the same fields. -/
theorem cell?_rearranged {row row' : Row} (hrow : Rearranged σ row row') (field : Text) :
    (Mapping.infer top' schema).cell? row' field = (Mapping.infer top schema).cell? row field := by
  ext c
  rw [Mapping.cell?_eq_some_iff, Mapping.cell?_eq_some_iff]
  refine and_congr_left fun hfilled => ?_
  constructor
  · rintro ⟨i, hi, hc⟩
    have hmoved := (hrow.getElem?_iff hfilled ⟨i, hrow.lt_width hc⟩).mp hc
    exact ⟨_, (column?_rearranged htop hheader hunambiguous ⟨i, hrow.lt_width hc⟩).mp hi, hmoved⟩
  · rintro ⟨i, hi, hc⟩
    have hlt : i < w := (List.getElem?_eq_some_iff.mp hc).1.trans_le hrow.length_le
    refine ⟨σ.symm ⟨i, hlt⟩, (column?_rearranged htop hheader hunambiguous _).mpr ?_,
      (hrow.getElem?_iff hfilled _).mpr ?_⟩
    · rwa [σ.apply_symm_apply]
    · rwa [σ.apply_symm_apply]

end

/-! ## Records depend on the cells of fields -/

/-- Records and notices depend on the cells that feed fields and on nothing else of a row. -/
def Normalizer.OfCells {ρ : Type} (n : Normalizer ρ) : Prop :=
  ∀ (row row' : Row) (m m' : Mapping), (∀ field, m'.cell? row' field = m.cell? row field) →
    (∀ line branch, n.record line row' m' branch = n.record line row m branch) ∧
      n.notices row' m' = n.notices row m

section
variable {row row' : Row} {m m' : Mapping}
  (h : ∀ field, m'.cell? row' field = m.cell? row field)
include h

theorem Mapping.text_congr (field : Text) : m'.text row' field = m.text row field := by
  rw [text, text, h]

theorem readCount_congr (field : Text) : readCount row' m' field = readCount row m field := by
  rw [readCount, readCount, h]

theorem readState_congr : readState row' m' = readState row m := by
  rw [readState, readState, Mapping.text_congr h]

theorem readTonerType_congr : readTonerType row' m' = readTonerType row m := by
  simp only [readTonerType, Mapping.text_congr h, h]

end

theorem Normalizer.pc_ofCells (placeholder : Nat → Text) : (pc placeholder).OfCells := by
  intro row row' m m' h
  constructor
  · intro line branch
    simp only [pc, pcRecord, Mapping.text_congr h, h]
  · simp only [pc, Mapping.text_congr h]

theorem Normalizer.printer_ofCells : printer.OfCells := by
  intro row row' m m' h
  refine ⟨fun line branch => ?_, rfl⟩
  simp only [printer, printerRecord, Mapping.text_congr h]

theorem Normalizer.consumable_ofCells : consumable.OfCells := by
  intro row row' m m' h
  refine ⟨fun line branch => ?_, rfl⟩
  simp only [consumable, consumableRecord, Mapping.text_congr h, readState_congr h,
    readCount_congr h, readTonerType_congr h]

/-- The records of a sheet stay when its columns move. -/
theorem Normalizer.OfCells.prepare_eq {ρ : Type} {n : Normalizer ρ} (hn : n.OfCells) {w : Nat}
    {σ : Equiv.Perm (Fin w)} {grid grid' : List Row} {schema : Schema} (branch : Text)
    (hheader : (Mapping.infer (topRow grid) schema).hasHeader = true)
    (hunambiguous : Mapping.Unambiguous schema (topRow grid))
    (hmoved : List.Forall₂ (Rearranged σ) grid grid') :
    prepare grid' schema branch n = prepare grid schema branch n := by
  have htop : Rearranged σ (topRow grid) (topRow grid') := by
    obtain ⟨hnone, -⟩ | htop := topRow_rearranged hmoved
    · rw [hnone] at hheader
      cases hheader
    · exact htop
  have hbody : List.Forall₂ (fun d d' => d'.line = d.line ∧ Rearranged σ d.cells d'.cells)
      (bodyRows grid (Mapping.infer (topRow grid) schema))
      (bodyRows grid' (Mapping.infer (topRow grid') schema)) := by
    rw [bodyRows, bodyRows, if_pos hheader, if_pos (hasHeader_rearranged htop hheader)]
    exact List.forall₂_drop 1 (filledRows_rearranged hmoved)
  rw [prepare, prepare]
  generalize bodyRows grid _ = rows, bodyRows grid' _ = rows' at hbody ⊢
  induction hbody with
  | nil => rfl
  | cons hrow _ ih =>
    obtain ⟨hline, hcells⟩ := hrow
    obtain ⟨hrecord, hnotices⟩ :=
      hn _ _ _ _ (cell?_rearranged htop hheader hunambiguous hcells)
    obtain ⟨hrecords, hlater⟩ := Prod.mk.inj ih
    rw [List.map_cons, List.map_cons, List.flatMap_cons, List.flatMap_cons, hline, hrecord,
      hnotices, hrecords, hlater]

/-- Columns may come in any order: when the first row that is not blank is a header in which no two
columns name the same field, moving the columns changes nothing. -/
theorem prepare_rearranged {w : Nat} (σ : Equiv.Perm (Fin w)) (grid grid' : List Row)
    (schema : Schema) (branch : Text) (placeholder : Nat → Text)
    (hheader : (Mapping.infer (topRow grid) schema).hasHeader = true)
    (hunambiguous : Mapping.Unambiguous schema (topRow grid))
    (hmoved : List.Forall₂ (Rearranged σ) grid grid') :
    prepare grid' schema branch (.pc placeholder) = prepare grid schema branch (.pc placeholder) ∧
    prepare grid' schema branch .printer = prepare grid schema branch .printer ∧
    prepare grid' schema branch .consumable = prepare grid schema branch .consumable :=
  ⟨(Normalizer.pc_ofCells placeholder).prepare_eq branch hheader hunambiguous hmoved,
    Normalizer.printer_ofCells.prepare_eq branch hheader hunambiguous hmoved,
    Normalizer.consumable_ofCells.prepare_eq branch hheader hunambiguous hmoved⟩

/-- A sheet of consumables whose last row is shorter than the header, with a blank row between. -/
def shortRow : List Row :=
  [["brand", "reference", "noir"].map (Cell.ofText ∘ Text.ofString), [],
    ["HP", "85A"].map (Cell.ofText ∘ Text.ofString)]

/-- The same sheet with the first column and the last one exchanged. -/
def shortRowMoved : List Row :=
  [["noir", "reference", "brand"].map (Cell.ofText ∘ Text.ofString),
    ["", " ", ""].map (Cell.ofText ∘ Text.ofString),
    ["", "85A", "HP"].map (Cell.ofText ∘ Text.ofString)]

theorem shortRow_rearranged :
    (Mapping.infer (topRow shortRow) .consumable).hasHeader = true ∧
    Mapping.Unambiguous .consumable (topRow shortRow) ∧
    List.Forall₂ (Rearranged (Equiv.swap (0 : Fin 3) 2)) shortRow shortRowMoved ∧
    prepare shortRowMoved .consumable "A" .consumable =
      prepare shortRow .consumable "A" .consumable := by
  obtain ⟨hheader, hunambiguous⟩ :
      (Mapping.infer (topRow shortRow) .consumable).hasHeader = true ∧
        Mapping.Unambiguous .consumable (topRow shortRow) := by
    rw [Mapping.infer_hasHeader_iff, ← Mapping.any_named_iff, Mapping.unambiguous_iff]
    simp only [Mapping.namedField, Schema.lookup_eq]
    decide +kernel
  have hmoved : List.Forall₂ (Rearranged (Equiv.swap (0 : Fin 3) 2)) shortRow shortRowMoved := by
    refine .cons ⟨[], by decide, rfl, rfl, by decide⟩ (.cons ?_ (.cons ?_ .nil))
    · exact ⟨["", " ", ""].map (Cell.ofText ∘ Text.ofString), by decide, rfl, rfl, by decide⟩
    · exact ⟨[Cell.ofText ""], by decide, rfl, rfl, by decide⟩
  exact ⟨hheader, hunambiguous, hmoved,
    (prepare_rearranged _ shortRow shortRowMoved .consumable "A" placeholderName hheader
      hunambiguous hmoved).2.2⟩

end Stockroom

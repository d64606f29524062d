import Stockroom.Proofs.Intake.Columns
import Stockroom.Proofs.Outcome

/-!
What the first row of a sheet decides, for every row and every schema: whether it is a header, and
which column feeds which field.

Main definitions and statements:
* `Schema.keys`, `Schema.mem_keys_iff`: the folded spellings by which headers are looked up;
* `Mapping.column?_of_position`: without a header, the column of a field is its place in the schema;
* `Mapping.infer_columns`: the whole mapping.
-/
namespace Stockroom
set_option autoImplicit false

/-- The folded spellings of a schema, by which headers are looked up. -/
def Schema.keys (s : Schema) : List Text := (tableOf s.synonyms).map (·.1)

theorem Schema.mem_keys {s : Schema} {key : Text} :
    key ∈ s.keys ↔ ((tableOf s.synonyms).lookup key).isSome = true := by
  rw [keys, List.mem_map, List.lookup_isSome_iff]
  exact exists_congr fun entry => and_congr_right fun _ => eq_comm.trans beq_iff_eq.symm

/-- The keys are the folded spellings, but for those that fold to nothing. -/
theorem Schema.mem_keys_iff {s : Schema} {key : Text} :
    key ∈ s.keys ↔ key ≠ [] ∧ ∃ e ∈ s.synonyms, e.header.folded = key := by
  rw [mem_keys, tableOf, lookup_addedTo]
  cases key with
  | nil => simp
  | cons g rest => simp

theorem Schema.isSome_lookup_iff {s : Schema} {header : Text} :
    (s.lookup header).isSome = true ↔ header.folded ∈ s.keys := mem_keys.symm

namespace Mapping

variable {schema : Schema} {first : Row} {field : Text} {i : Nat}

theorem names_iff : Names schema first i field ↔
    ∃ c, first[i]? = some c ∧ c.isNumber = false ∧ schema.lookup c.text = some field := by
  refine exists_congr fun c => and_congr_right fun _ => ?_
  unfold namedField
  cases c.isNumber <;> simp

/-- A row is a header when some cell of it that is no number is a known spelling. -/
theorem infer_hasHeader_iff_key : (infer first schema).hasHeader = true ↔
    ∃ c ∈ first, c.isNumber = false ∧ c.text.folded ∈ schema.keys := by
  rw [infer_hasHeader_iff]
  constructor
  · rintro ⟨i, field, hnames⟩
    obtain ⟨c, hc, hnumber, hlookup⟩ := names_iff.mp hnames
    exact ⟨c, List.mem_of_getElem? hc, hnumber, Schema.isSome_lookup_iff.mp (by rw [hlookup]; rfl)⟩
  · rintro ⟨c, hc, hnumber, hkey⟩
    obtain ⟨i, hi⟩ := List.mem_iff_getElem?.mp hc
    obtain ⟨field, hlookup⟩ := Option.isSome_iff_exists.mp (Schema.isSome_lookup_iff.mpr hkey)
    exact ⟨i, field, names_iff.mpr ⟨c, hi, hnumber, hlookup⟩⟩

/-- A field that a header names has a leftmost column. -/
theorem isSome_column?_iff (hheader : (infer first schema).hasHeader = true) :
    ((infer first schema).column? field).isSome = true ↔
      ∃ c ∈ first, c.isNumber = false ∧ schema.lookup c.text = some field := by
  classical
  rw [Option.isSome_iff_exists]
  constructor
  · rintro ⟨i, hi⟩
    obtain ⟨c, hc, hnamed⟩ := names_iff.mp ((column?_isLeast hheader).mp hi).1
    exact ⟨c, List.mem_of_getElem? hc, hnamed⟩
  · rintro ⟨c, hc, hnamed⟩
    obtain ⟨i, hi⟩ := List.mem_iff_getElem?.mp hc
    have hsome : ∃ j, Names schema first j field := ⟨i, names_iff.mpr ⟨c, hi, hnamed⟩⟩
    exact ⟨Nat.find hsome, (column?_isLeast hheader).mpr
      ⟨Nat.find_spec hsome, fun k hk => Nat.find_min' hsome hk⟩⟩

/-! ## Without a header -/

theorem mem_ofPosition {fields : List Text} {width : Nat} :
    (field, i) ∈ ofPosition fields width ↔ i < width ∧ fields[i]? = some field := by
  rw [ofPosition, List.mem_reverse, List.mem_zipIdx_iff_getElem?, List.getElem?_take]
  simp

theorem column?_infer_of_not_header (hheader : (infer first schema).hasHeader = false) :
    (infer first schema).column? field =
      (ofPosition schema.fieldOrder first.length).lookup field := by
  unfold infer at hheader ⊢
  split
  · next h =>
    rw [if_pos h] at hheader
    cases hheader
  · rfl

/-- A field that is mapped by position is mapped to a place of its own. -/
theorem place_of_column? (hheader : (infer first schema).hasHeader = false)
    (h : (infer first schema).column? field = some i) :
    i < first.length ∧ schema.fieldOrder[i]? = some field := by
  rw [column?_infer_of_not_header hheader] at h
  exact mem_ofPosition.mp (mem_of_lookup_eq_some h)

theorem column?_of_position (hnodup : schema.fieldOrder.Nodup)
    (hheader : (infer first schema).hasHeader = false) :
    (infer first schema).column? field = some i ↔
      i < first.length ∧ schema.fieldOrder[i]? = some field := by
  have hkeys : ((ofPosition schema.fieldOrder first.length).map (·.1)).Nodup := by
    rw [ofPosition, List.map_reverse, List.nodup_reverse, List.zipIdx_map_fst]
    exact hnodup.sublist (List.take_sublist _ _)
  rw [column?_infer_of_not_header hheader, lookup_eq_some_iff_mem hkeys, mem_ofPosition]

/-! ## The whole mapping -/

theorem column?_lt (h : (infer first schema).column? field = some i) : i < first.length := by
  cases hheader : (infer first schema).hasHeader with
  | true =>
    obtain ⟨c, hc, -⟩ := ((column?_isLeast hheader).mp h).1
    exact (List.getElem?_eq_some_iff.mp hc).1
  | false => exact (place_of_column? hheader h).1

/-- A column names one field, and is the place of one field. -/
theorem column?_injective {other : Text} (h : (infer first schema).column? field = some i)
    (hother : (infer first schema).column? other = some i) : field = other := by
  cases hheader : (infer first schema).hasHeader with
  | true =>
    obtain ⟨c, hc, hfield⟩ := ((column?_isLeast hheader).mp h).1
    obtain ⟨d, hd, hnamed⟩ := ((column?_isLeast hheader).mp hother).1
    obtain rfl : c = d := Option.some.inj (hc.symm.trans hd)
    exact Option.some.inj (hfield.symm.trans hnamed)
  | false =>
    have hplace := (place_of_column? hheader h).2
    exact Option.some.inj (hplace.symm.trans (place_of_column? hheader hother).2)

/-- The mapping that a first row implies. It is a header when some cell that is no number is a known
spelling; then a field is mapped when some such cell names it, to the leftmost one. Otherwise the
fields are mapped by their places, as far as the row goes. Every column that is mapped is in the row,
and feeds one field. -/
theorem infer_columns (schema : Schema) (hnodup : schema.fieldOrder.Nodup) (first : Row) :
    ((infer first schema).hasHeader = true ↔
      ∃ c ∈ first, c.isNumber = false ∧ c.text.folded ∈ schema.keys) ∧
    ((infer first schema).hasHeader = true → ∀ field,
      (((infer first schema).column? field).isSome = true ↔
        ∃ c ∈ first, c.isNumber = false ∧ schema.lookup c.text = some field) ∧
      ∀ i, (infer first schema).column? field = some i ↔
        IsLeast {j | ∃ c, first[j]? = some c ∧ c.isNumber = false ∧
          schema.lookup c.text = some field} i) ∧
    ((infer first schema).hasHeader = false → ∀ field i,
      (infer first schema).column? field = some i ↔
        i < first.length ∧ schema.fieldOrder[i]? = some field) ∧
    (∀ field i, (infer first schema).column? field = some i → i < first.length) ∧
    ∀ field other i, (infer first schema).column? field = some i →
      (infer first schema).column? other = some i → field = other := by
  refine ⟨infer_hasHeader_iff_key, fun hheader field => ⟨isSome_column?_iff hheader, fun i => ?_⟩,
    fun hheader field i => column?_of_position hnodup hheader, fun field i => column?_lt,
    fun field other i => column?_injective⟩
  simp only [← names_iff]
  exact column?_isLeast hheader

/-- A number, a spelling of no field, and twice a spelling of one field. -/
def serialTwice : Row :=
  [Cell.ofText "3", Cell.ofText "vendeur", Cell.ofText " N° SÉRIE", Cell.ofText "sn"]

theorem printer_lookups :
    Schema.printer.lookup (Cell.ofText "sn").text = some FieldName.serialNumber ∧
      Schema.printer.lookup (Cell.ofText " N° SÉRIE").text = some FieldName.serialNumber ∧
      Schema.printer.lookup (Cell.ofText "vendeur").text = none := by
  simp only [Schema.lookup_eq, Schema.printer, Schema.spellings, List.map_cons, List.map_nil,
    List.cons_append, List.nil_append, Text.ofString, String.reduceToList]
  decide +kernel

/-- The leftmost of the two columns counts, and a row of numbers is mapped by position. -/
theorem serialTwice_columns :
    Schema.printer.fieldOrder.Nodup ∧
    (infer serialTwice .printer).hasHeader = true ∧
    (infer serialTwice .printer).column? FieldName.serialNumber = some 2 ∧
    (infer [Cell.ofText "3", Cell.ofText "4"] .printer).hasHeader = false ∧
    (infer [Cell.ofText "3", Cell.ofText "4"] .printer).column? FieldName.ipAddress = some 1 := by
  have hnodup : Schema.printer.fieldOrder.Nodup := by decide
  obtain ⟨hshort, hlong, hnone⟩ := printer_lookups
  have hheader : (infer serialTwice .printer).hasHeader = true :=
    (infer_columns .printer hnodup serialTwice).1.mpr
      ⟨Cell.ofText "sn", by simp [serialTwice], by decide,
        Schema.isSome_lookup_iff.mp (hshort ▸ rfl)⟩
  have hserial : (infer serialTwice .printer).column? FieldName.serialNumber = some 2 := by
    refine (((infer_columns .printer hnodup serialTwice).2.1 hheader _).2 2).mpr ⟨?_, ?_⟩
    · exact ⟨Cell.ofText " N° SÉRIE", rfl, by decide, hlong⟩
    · rintro j ⟨c, hc, hnumber, hlookup⟩
      by_contra hbefore
      obtain rfl | rfl : j = 0 ∨ j = 1 := by omega
      · cases hc
        revert hnumber
        decide
      · cases hc
        exact Option.some_ne_none _ (hlookup.symm.trans hnone)
  have hnumbers : (infer [Cell.ofText "3", Cell.ofText "4"] .printer).hasHeader = false := by
    decide
  exact ⟨hnodup, hheader, hserial, hnumbers,
    ((infer_columns .printer hnodup _).2.2.1 hnumbers _ 1).mpr ⟨by decide, rfl⟩⟩

end Mapping
end Stockroom

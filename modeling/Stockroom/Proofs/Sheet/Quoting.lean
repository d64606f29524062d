import Stockroom.Proofs.Sheet.EmptyLines
import Stockroom.Proofs.Sheet.Mark

/-!
Records written with every field in quotes. Within quotes a field may hold separators, line ends and
quotes, so what is read of such a file is what was written, byte for byte. Two things do not come back:
a carriage return before a line feed, since line ends are unified in quotes too, and a byte order mark
at the very start. Which separator is read is decided by the first line, whatever stands in its fields.

Main definitions and statements:
* `quotedField`, `quotedRecord`, `quotedFile`: fields, records and files in quotes;
* `skim_quotedField`, `skim_quotedRecord`, `skim_quotedFile`: what the scanner makes of them;
* `unifyLines_quotedFile`: their line ends are those of a unified file;
* `read_quotedFile`: a file in quotes is read as its records.
-/
namespace Stockroom.Csv
set_option autoImplicit false

/-! ## Writing -/

/-- A field with its quotes written twice. -/
def doubled : List UInt8 → List UInt8
  | [] => []
  | b :: field => if b = quote then quote :: quote :: doubled field else b :: doubled field

/-- A field in quotes. -/
def quotedField (field : List UInt8) : List UInt8 := quote :: (doubled field ++ [quote])

/-- Fields in quotes with separators between them, and the end of their line. -/
def quotedRecord (sep : UInt8) : List (List UInt8) → List UInt8
  | [] => [lineFeed]
  | [field] => quotedField field ++ [lineFeed]
  | field :: next :: more => quotedField field ++ sep :: quotedRecord sep (next :: more)

/-- Records in quotes, each on lines of its own. -/
def quotedFile (sep : UInt8) (records : List (List (List UInt8))) : List UInt8 :=
  records.flatMap (quotedRecord sep)

theorem quotedField_append (field rest : List UInt8) :
    quotedField field ++ rest = quote :: (doubled field ++ quote :: rest) := by
  simp [quotedField]

/-! ## Line ends -/

/-- No carriage return stands before a line feed. -/
def Unpaired (xs : List UInt8) : Prop := ¬ [carriageReturn, lineFeed] <:+: xs

theorem Unpaired.tail {b : UInt8} {xs : List UInt8} (h : Unpaired (b :: xs)) : Unpaired xs :=
  fun hpair => h (hpair.trans (List.suffix_cons b xs).isInfix)

theorem Unpaired.head {b : UInt8} {xs : List UInt8} (h : Unpaired (carriageReturn :: b :: xs)) :
    b ≠ lineFeed := by
  rintro rfl
  exact h ⟨[], xs, rfl⟩

theorem unifyLines_return_cons {b : UInt8} (hb : b ≠ lineFeed) (rest : List UInt8) :
    unifyLines (carriageReturn :: b :: rest) = carriageReturn :: unifyLines (b :: rest) := by
  rw [unifyLines, if_neg (by simp [hb])]

/-- In quotes there are only the line ends of the field. -/
theorem unifyLines_doubled {field : List UInt8} (h : Unpaired field) (rest : List UInt8) :
    unifyLines (doubled field ++ quote :: rest) = doubled field ++ quote :: unifyLines rest := by
  have hquote (rest : List UInt8) : unifyLines (quote :: rest) = quote :: unifyLines rest :=
    unifyLines_cons (by decide) rest
  induction field with
  | nil => exact hquote rest
  | cons b field ih =>
    have hrest := ih h.tail
    by_cases hb : b = quote
    · rw [doubled, if_pos hb, List.cons_append, List.cons_append, hquote, hquote, hrest]
      rfl
    rw [doubled, if_neg hb, List.cons_append]
    by_cases hreturn : b = carriageReturn
    · -- what follows the carriage return is the next byte of the field, or a quote
      obtain ⟨c, more, hc, hmore⟩ : ∃ c more, c ≠ lineFeed ∧
          doubled field ++ quote :: rest = c :: more := by
        cases field with
        | nil => exact ⟨quote, rest, by decide, rfl⟩
        | cons c field =>
          by_cases hc : c = quote
          · exact ⟨quote, _, by decide, by rw [doubled, if_pos hc]; rfl⟩
          · subst hreturn
            exact ⟨c, _, h.head, by rw [doubled, if_neg hc]; rfl⟩
      rw [hmore] at hrest ⊢
      rw [hreturn, unifyLines_return_cons hc, hrest]
      rfl
    · rw [unifyLines_cons hreturn, hrest]
      rfl

theorem unifyLines_quotedField {field : List UInt8} (h : Unpaired field) (rest : List UInt8) :
    unifyLines (quotedField field ++ rest) = quotedField field ++ unifyLines rest := by
  rw [quotedField_append, quotedField_append, unifyLines_cons (by decide), unifyLines_doubled h]

section
variable {sep : UInt8} (hsep : sep = comma ∨ sep = semicolon)
include hsep

theorem unifyLines_quotedRecord {record : List (List UInt8)} (h : ∀ field ∈ record, Unpaired field)
    (rest : List UInt8) :
    unifyLines (quotedRecord sep record ++ rest) = quotedRecord sep record ++ unifyLines rest := by
  have hreturn : sep ≠ carriageReturn := by
    obtain rfl | rfl := hsep <;> decide
  induction record with
  | nil => exact unifyLines_cons (by decide) rest
  | cons field more ih =>
    obtain ⟨hfield, hmore⟩ := List.forall_mem_cons.mp h
    cases more with
    | nil =>
      rw [quotedRecord, List.append_assoc, unifyLines_quotedField hfield, List.append_assoc]
      exact congrArg _ (unifyLines_cons (by decide) rest)
    | cons next more =>
      rw [quotedRecord, List.append_assoc, unifyLines_quotedField hfield, List.append_assoc,
        List.cons_append, unifyLines_cons hreturn, ih hmore]
      rfl

/-- Unifying the line ends of a file in quotes changes nothing. -/
theorem unifyLines_quotedFile {records : List (List (List UInt8))}
    (h : ∀ record ∈ records, ∀ field ∈ record, Unpaired field) :
    unifyLines (quotedFile sep records) = quotedFile sep records := by
  induction records with
  | nil => rfl
  | cons record more ih =>
    obtain ⟨hrecord, hmore⟩ := List.forall_mem_cons.mp h
    rw [quotedFile, List.flatMap_cons, unifyLines_quotedRecord hsep hrecord]
    exact congrArg _ (ih hmore)

/-! ## Scanning -/

omit hsep in
/-- The bytes of a field, up to the quote that closes it. -/
theorem skim_doubled (held field rest : List UInt8) (fields : Fields) :
    skim sep (.quoted held) fields (doubled field ++ quote :: rest) =
      skim sep (.closing (field.reverse ++ held)) fields rest := by
  have hclose (held rest : List UInt8) : skim sep (.quoted held) fields (quote :: rest) =
      skim sep (.closing held) fields rest := skim_silent (by rw [step, if_pos rfl])
  induction field generalizing held with
  | nil => exact hclose held rest
  | cons b field ih =>
    have hheld : (b :: field).reverse ++ held = field.reverse ++ b :: held := by simp
    by_cases hb : b = quote
    · -- the second of two quotes opens the field again
      have hopen (rest : List UInt8) : skim sep (.closing held) fields (quote :: rest) =
          skim sep (.quoted (quote :: held)) fields rest :=
        skim_silent (by rw [step, if_neg (by decide), if_pos rfl])
      rw [doubled, if_pos hb, List.cons_append, List.cons_append, hclose, hopen, ih, hheld, hb]
    · have hkeep : step sep (.quoted held) fields b (doubled field ++ quote :: rest) =
          .ok ([], .quoted (b :: held), fields) := if_neg hb
      rw [doubled, if_neg hb, List.cons_append, skim_silent hkeep, ih, hheld]

omit hsep in
theorem opening_quote (fields : Fields) (rest : List UInt8) :
    opening sep fields quote rest = (.quoted [], fields) := by
  rw [opening, blankLength_quote]
  rfl

omit hsep in
theorem skim_quotedField (field rest : List UInt8) (fields : Fields) :
    skim sep (.before 0) fields (quotedField field ++ rest) =
      skim sep (.closing field.reverse) fields rest := by
  have hopen (rest : List UInt8) : skim sep (.before 0) fields (quote :: rest) =
      skim sep (.quoted []) fields rest :=
    skim_silent (by rw [step, if_neg (by decide), opening_quote])
  rw [quotedField_append, hopen, skim_doubled, List.append_nil]

/-- The fields of a record come after those that are finished. -/
theorem skim_fields (fields : Fields) {record : List (List UInt8)} (h : record ≠ [])
    (rest : List UInt8) :
    skim sep (.before 0) fields (quotedRecord sep record ++ rest) =
      (skim sep .between [] rest).map ((fields.reverse ++ record) :: ·) := by
  have hfeed : sep ≠ lineFeed := by
    obtain rfl | rfl := hsep <;> decide
  have hquote : sep ≠ quote := by
    obtain rfl | rfl := hsep <;> decide
  induction record generalizing fields with
  | nil => exact absurd rfl h
  | cons field more ih =>
    cases more with
    | nil =>
      rw [quotedRecord, List.append_assoc, skim_quotedField, List.singleton_append, skim, step,
        if_pos rfl, bind_ok]
      simp [finished]
    | cons next more =>
      have hnext (rest : List UInt8) : skim sep (.closing field.reverse) fields (sep :: rest) =
          skim sep (.before 0) (field :: fields) rest := by
        refine skim_silent ?_
        rw [step, if_neg hfeed, if_neg hquote, if_pos rfl, List.reverse_reverse]
      rw [quotedRecord, List.append_assoc, skim_quotedField, List.cons_append, hnext,
        ih _ (List.cons_ne_nil next more)]
      simp

theorem skim_quotedRecord {record : List (List UInt8)} (h : record ≠ []) (rest : List UInt8) :
    skim sep .between [] (quotedRecord sep record ++ rest) =
      (skim sep .between [] rest).map (record :: ·) := by
  -- a record starts with a quote, so it does not matter that it starts
  have hstart (rest : List UInt8) : skim sep .between [] (quote :: rest) =
      skim sep (.before 0) [] (quote :: rest) := by
    rw [skim, skim, step, step, if_neg (by decide), if_neg (by decide)]
  have hbefore := skim_fields hsep [] h rest
  obtain ⟨field, more, rfl⟩ := List.exists_cons_of_ne_nil h
  obtain ⟨tail, htail⟩ : ∃ tail, quotedRecord sep (field :: more) ++ rest = quote :: tail := by
    cases more with
    | nil => exact ⟨_, rfl⟩
    | cons next more => exact ⟨_, rfl⟩
  rw [htail] at hbefore ⊢
  rw [hstart, hbefore]
  rfl

theorem skim_quotedFile {records : List (List (List UInt8))} (h : ∀ record ∈ records, record ≠ []) :
    skim sep .between [] (quotedFile sep records) = .ok records := by
  induction records with
  | nil => rfl
  | cons record more ih =>
    obtain ⟨hrecord, hmore⟩ := List.forall_mem_cons.mp h
    rw [quotedFile, List.flatMap_cons, skim_quotedRecord hsep hrecord]
    exact map_eq_ok.mpr ⟨more, ih hmore, rfl⟩

end

/-! ## Reading -/

/-- The first field does not start with the byte order mark. -/
def Unmarked (records : List (List (List UInt8))) : Prop :=
  ∀ first others, records = withFirst first others → ¬ mark <+: first

/-- Without a mark at its start, each field is the text of a cell. -/
theorem rowsOfRecords_unmarked {records : List (List (List UInt8))} (h : Unmarked records) :
    rowsOfRecords records =
      records.map fun record => record.map fun field => Cell.ofText (Text.ofBytes field) := by
  match records with
  | [] => rfl
  | [] :: rest => simp [rowsOfRecords, rowsOfTexts]
  | (first :: more) :: rest =>
    have hfirst := dropMark_ofBytes (h first (more, rest) rfl)
    simp [rowsOfRecords, rowsOfTexts, hfirst]

/-- A file in quotes is read as its records. Its fields may be any bytes, but for carriage returns before
line feeds and a mark at the start, and the first line must suggest the separator that is used. -/
theorem read_quotedFile {sep : UInt8} (hsep : sep = comma ∨ sep = semicolon)
    {records : List (List (List UInt8))} (hfilled : ∀ record ∈ records, record ≠ [])
    (hpairs : ∀ record ∈ records, ∀ field ∈ record, ¬ [carriageReturn, lineFeed] <:+: field)
    (hmark : Unmarked records)
    (hline : (firstLine (quotedFile sep records)).count comma <
      (firstLine (quotedFile sep records)).count semicolon ↔ sep = semicolon) :
    ∃ rows, read (quotedFile sep records) = .ok rows ∧
      (rows.map fun row => row.map Cell.text) =
        records.map (fun record => record.map Text.ofBytes) ∧
      (rows.map fun row => row.map fun cell => cell.text.bytes) = records := by
  have hseparator : separator (quotedFile sep records) = sep := by
    rw [separator_eq]
    split
    · next hmore => exact (hline.mp hmore).symm
    · next hless => exact (hsep.resolve_right (mt hline.mpr hless)).symm
  have hrecords : recordsWith sep (quotedFile sep records) = .ok records := by
    rw [recordsWith, unifyLines_quotedFile hsep hpairs, skim_quotedFile hsep hfilled]
  refine ⟨rowsOfRecords records, read_eq_ok.mpr ⟨records, by rw [hseparator, hrecords], rfl⟩, ?_⟩
  rw [rowsOfRecords_unmarked hmark]
  have hfield (field : List UInt8) : (Cell.ofText (Text.ofBytes field)).text.bytes = field :=
    Text.bytes_ofBytes field
  constructor
  · simp [Cell.ofText]
  · simp [Function.comp_def, hfield]

/-- Fields with separators, quotes, a line feed, a carriage return at their end and a stray byte. -/
def unrulyFields : List (List (List UInt8)) :=
  [[Text.bytes "a;b\"", Text.bytes "\n,"], [[], [0xE9, carriageReturn]]]

theorem unrulyFields_read :
    (∀ record ∈ unrulyFields, record ≠ []) ∧
      (∀ record ∈ unrulyFields, ∀ field ∈ record, ¬ [carriageReturn, lineFeed] <:+: field) ∧
      Unmarked unrulyFields ∧
      ((firstLine (quotedFile semicolon unrulyFields)).count comma <
        (firstLine (quotedFile semicolon unrulyFields)).count semicolon ↔ semicolon = semicolon) ∧
      ∃ rows, read (quotedFile semicolon unrulyFields) = .ok rows ∧
        (rows.map fun row => row.map Cell.text) =
          unrulyFields.map (fun record => record.map Text.ofBytes) ∧
        (rows.map fun row => row.map fun cell => cell.text.bytes) = unrulyFields := by
  have hfilled : ∀ record ∈ unrulyFields, record ≠ [] := by decide +kernel
  have hpairs : ∀ record ∈ unrulyFields, ∀ field ∈ record,
      ¬ [carriageReturn, lineFeed] <:+: field := by decide +kernel
  have hmark : Unmarked unrulyFields := by
    intro first others h
    obtain ⟨rfl, -⟩ : Text.bytes "a;b\"" = first ∧ _ := List.cons.inj (List.cons.inj h).1
    decide +kernel
  have hline : (firstLine (quotedFile semicolon unrulyFields)).count comma <
      (firstLine (quotedFile semicolon unrulyFields)).count semicolon ↔ semicolon = semicolon :=
    iff_of_true (by decide +kernel) rfl
  exact ⟨hfilled, hpairs, hmark, hline,
    read_quotedFile (.inr rfl) hfilled hpairs hmark hline⟩

end Stockroom.Csv

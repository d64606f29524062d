import Stockroom.Proofs.Import.Shown
import Stockroom.Proofs.Intake.Inference
import Stockroom.Proofs.Sheet.Workbook

/-!
The rows of data of a sheet and their lines. Which row is the header is found in one walk over the
sheet, and it is passed over in another one; both mean the same row wherever blank rows stand, so every
row that is not blank becomes one row of data, but for the header.

Main definitions and statements:
* `IsHeaderAt`: where the header of a sheet is;
* `mem_bodyRows`, `filledRows_increasing`: which rows hold data, and on which lines;
* `prepare_rows`: the rows that are prepared, and what becomes of the file.
-/
namespace Stockroom
set_option autoImplicit false

/-! ## Rows that are not blank -/

theorem kept_iff {cells : Row} {line : Nat} {d : DataRow} :
    (if cells.isBlank then none else some (DataRow.mk line cells)) = some d ↔
      cells.isBlank = false ∧ d = ⟨line, cells⟩ := by
  cases cells.isBlank <;> simp [eq_comm]

theorem mem_filledRows {grid : List Row} {d : DataRow} :
    d ∈ filledRows grid ↔ ∃ i, grid[i]? = some d.cells ∧ d.cells.isBlank = false ∧ d.line = i + 1 := by
  simp only [filledRows, List.mem_filterMap, Prod.exists, List.mem_zipIdx_iff_le_and_getElem?_sub,
    kept_iff]
  constructor
  · rintro ⟨cells, line, ⟨hline, hcells⟩, hfilled, rfl⟩
    exact ⟨line - 1, hcells, hfilled, (Nat.sub_add_cancel hline).symm⟩
  · rintro ⟨i, hcells, hfilled, hline⟩
    have hplace : d.line - 1 = i := by omega
    exact ⟨d.cells, d.line, ⟨by omega, hplace ▸ hcells⟩, hfilled, rfl⟩

theorem filledRows_increasing (grid : List Row) :
    (filledRows grid).Pairwise fun d e => d.line < e.line := by
  refine List.pairwise_filterMap.mpr ((zipIdx_ascending grid 1).imp ?_)
  rintro ⟨cells, line⟩ ⟨cells', line'⟩ hlt d hd e he
  obtain ⟨-, rfl⟩ := kept_iff.mp hd
  obtain ⟨-, rfl⟩ := kept_iff.mp he
  exact hlt

/-- Without the first of rows on increasing lines, those are left that stand below another one. -/
theorem mem_drop_one_iff {rows : List DataRow} (h : rows.Pairwise fun d e => d.line < e.line)
    {d : DataRow} : d ∈ rows.drop 1 ↔ d ∈ rows ∧ ∃ e ∈ rows, e.line < d.line := by
  cases rows with
  | nil => simp
  | cons first rest =>
    obtain ⟨hfirst, -⟩ := List.pairwise_cons.mp h
    rw [List.drop_one, List.tail_cons, List.mem_cons]
    constructor
    · intro hd
      exact ⟨.inr hd, first, List.mem_cons_self, hfirst d hd⟩
    · rintro ⟨rfl | hd, e, he, hlt⟩
      · obtain rfl | he := List.mem_cons.mp he
        · exact absurd hlt (Nat.lt_irrefl _)
        · exact absurd (hfirst e he) (Nat.lt_asymm hlt)
      · exact hd

/-! ## The header -/

/-- The first row that is not blank is the one at a place, counted from zero, and a cell of it that is
no number is a known spelling. -/
def IsHeaderAt (schema : Schema) (grid : List Row) (i : Nat) : Prop :=
  (∃ row, grid[i]? = some row ∧ row.isBlank = false ∧
    ∃ c ∈ row, c.isNumber = false ∧ (schema.lookup c.text).isSome = true) ∧
  ∀ j < i, ∀ row, grid[j]? = some row → row.isBlank = true

theorem topRow_eq {grid : List Row} {i : Nat} {row : Row} (hrow : grid[i]? = some row)
    (hfilled : row.isBlank = false)
    (hbefore : ∀ j < i, ∀ row, grid[j]? = some row → row.isBlank = true) : topRow grid = row := by
  obtain ⟨hi, rfl⟩ := List.getElem?_eq_some_iff.mp hrow
  have hfirst : grid.find? (!·.isBlank) = some grid[i] := by
    refine List.find?_eq_some_iff_getElem.mpr ⟨by rw [hfilled]; rfl, i, hi, rfl, fun j hj => ?_⟩
    rw [hbefore j hj _ (List.getElem?_eq_getElem (hj.trans hi))]
    rfl
  rw [topRow, hfirst]
  rfl

theorem isHeaderAt_iff {schema : Schema} {grid : List Row} {i : Nat} {row : Row}
    (hrow : grid[i]? = some row) (hfilled : row.isBlank = false) :
    IsHeaderAt schema grid i ↔ (Mapping.infer (topRow grid) schema).hasHeader = true ∧
      ∀ j < i, ∀ row, grid[j]? = some row → row.isBlank = true := by
  refine and_congr_left fun hbefore => ?_
  rw [topRow_eq hrow hfilled hbefore, Mapping.infer_hasHeader_iff_key]
  simp only [hrow, Option.some.injEq, Schema.isSome_lookup_iff]
  exact ⟨fun ⟨_, heq, _, hspelled⟩ => heq ▸ hspelled, fun hspelled => ⟨row, rfl, hfilled, hspelled⟩⟩

/-- The rows of data are those that are not blank, but for the header. -/
theorem mem_bodyRows {schema : Schema} {grid : List Row} {d : DataRow} :
    d ∈ bodyRows grid (Mapping.infer (topRow grid) schema) ↔
      ∃ i, grid[i]? = some d.cells ∧ d.cells.isBlank = false ∧ ¬ IsHeaderAt schema grid i ∧
        d.line = i + 1 := by
  have hbelow {i : Nat} (hline : d.line = i + 1) : (∃ e ∈ filledRows grid, e.line < d.line) ↔
      ¬ ∀ j < i, ∀ row, grid[j]? = some row → row.isBlank = true := by
    push Not
    constructor
    · rintro ⟨e, he, hlt⟩
      obtain ⟨j, hj, hfilled, hline'⟩ := mem_filledRows.mp he
      exact ⟨j, by omega, e.cells, hj, by rw [hfilled]; decide⟩
    · rintro ⟨j, hji, row, hj, hfilled⟩
      have hlt : j + 1 < d.line := by omega
      exact ⟨⟨j + 1, row⟩, mem_filledRows.mpr ⟨j, hj, Bool.not_eq_true _ ▸ hfilled, rfl⟩, hlt⟩
  unfold bodyRows
  split
  · next hheader =>
    rw [mem_drop_one_iff (filledRows_increasing grid), mem_filledRows]
    constructor
    · rintro ⟨⟨i, hi, hfilled, hline⟩, habove⟩
      refine ⟨i, hi, hfilled, fun h => ?_, hline⟩
      exact (hbelow hline).mp habove ((isHeaderAt_iff hi hfilled).mp h).2
    · rintro ⟨i, hi, hfilled, hnot, hline⟩
      refine ⟨⟨i, hi, hfilled, hline⟩, (hbelow hline).mpr fun hbefore => hnot ?_⟩
      exact (isHeaderAt_iff hi hfilled).mpr ⟨hheader, hbefore⟩
  · next hheader =>
    rw [mem_filledRows]
    refine exists_congr fun i => and_congr_right fun hi => and_congr_right fun hfilled => ?_
    refine (and_iff_right fun h => hheader ?_).symm
    exact ((isHeaderAt_iff hi hfilled).mp h).1

theorem bodyRows_increasing (grid : List Row) (m : Mapping) :
    (bodyRows grid m).Pairwise fun d e => d.line < e.line := by
  unfold bodyRows
  split
  · exact (filledRows_increasing grid).sublist (List.drop_sublist _ _)
  · exact filledRows_increasing grid

/-! ## Whole files -/

theorem prepare_blank {ρ : Type} {grid : List Row} (hblank : grid.all Row.isBlank = true)
    (schema : Schema) (branch : Text) (n : Normalizer ρ) :
    (prepare grid schema branch n).1 = [] := by
  refine List.map_eq_nil_iff.mpr (List.eq_nil_iff_forall_not_mem.mpr fun d hd => ?_)
  obtain ⟨i, hi, hfilled, -⟩ := mem_bodyRows.mp hd
  rw [List.all_eq_true.mp hblank _ (List.mem_of_getElem? hi)] at hfilled
  cases hfilled

section
variable {ρ σ : Type} [Inhabited ρ] {job : ImportJob ρ} {content : FileContent} {grid : List Row}

/-- A file that can be read is imported with the rows that are prepared, if there are any. -/
theorem ImportJob.start_eq (job : ImportJob ρ) (hgrid : rowsOfFile job.file content = .ok grid) :
    job.start content =
      if (prepare grid job.schema job.branch job.normalizer).1 = [] then .error ⟨job.file, .empty⟩
      else .ok ((prepare grid job.schema job.branch job.normalizer).1.map PreparedRow.toImportRow,
        (prepare grid job.schema job.branch job.normalizer).2) := by
  have hread : readSheet job.file content =
      if grid.all Row.isBlank then .error .empty else .ok grid := by
    rw [readSheet, hgrid]
    by_cases hblank : grid.all Row.isBlank = true
    · rw [if_pos hblank]
      simp [bind, Except.bind, hblank, throw, throwThe, MonadExceptOf.throw]
    · rw [if_neg hblank]
      simp [bind, Except.bind, hblank, pure, Except.pure]
  rw [start, hread]
  by_cases hblank : grid.all Row.isBlank = true
  · rw [if_pos hblank, if_pos (prepare_blank hblank _ _ _)]
  · rw [if_neg hblank]
    dsimp only
    simp only [List.isEmpty_iff]

/-- What is prepared of a sheet. There is one row for each row of the sheet that is not blank, but for
the header, on the line where that row is counting from one, with what the normaliser makes of that
row; they stand in the order of their lines. A file with this sheet is empty exactly if no row is
prepared; otherwise it is imported with these rows, and all that is shown is of as many rows. -/
theorem prepare_rows (grid : List Row) (schema : Schema) (branch : Text) (n : Normalizer ρ) :
    let rows := (prepare grid schema branch n).1
    (rows.Pairwise fun a b => a.line < b.line) ∧
    (∀ row, row ∈ rows ↔ ∃ i cells, grid[i]? = some cells ∧ cells.isBlank = false ∧
      ¬ IsHeaderAt schema grid i ∧
      row = ⟨i + 1, n.record (i + 1) cells (Mapping.infer (topRow grid) schema) branch⟩) ∧
    ∀ (batch file : Text) (content : FileContent), rowsOfFile file content = .ok grid →
      let job : ImportJob ρ := ⟨batch, file, schema, branch, n⟩
      (job.start content = .error ⟨file, .empty⟩ ↔ rows = []) ∧
      (rows ≠ [] →
        (∃ notices, job.start content = .ok (rows.map PreparedRow.toImportRow, notices)) ∧
        ∀ (submit : Submitter ρ σ) (maxAttempts : Int) (s : Session ρ σ), ∃ r,
          job.run submit maxAttempts content s = .ok r ∧ r.progress.total = rows.length ∧
          ∀ p ∈ r.published, p.total = rows.length) := by
  refine ⟨List.pairwise_map.mpr (bodyRows_increasing _ _), fun row => ?_, ?_⟩
  · rw [prepare, List.mem_map]
    constructor
    · rintro ⟨⟨line, cells⟩, hd, rfl⟩
      obtain ⟨i, hi, hfilled, hnot, rfl⟩ := mem_bodyRows.mp hd
      exact ⟨i, cells, hi, hfilled, hnot, rfl⟩
    · rintro ⟨i, cells, hi, hfilled, hnot, rfl⟩
      exact ⟨⟨i + 1, cells⟩, mem_bodyRows.mpr ⟨i, hi, hfilled, hnot, rfl⟩, rfl⟩
  · intro batch file content hgrid
    have hstart := ImportJob.start_eq ⟨batch, file, schema, branch, n⟩ hgrid
    dsimp only at hstart ⊢
    refine ⟨?_, fun hsome => ?_⟩
    · rw [hstart]
      split
      · next hnone => exact iff_of_true rfl hnone
      · next hsome => exact iff_of_false (fun h => by cases h) hsome
    · rw [if_neg hsome] at hstart
      refine ⟨⟨_, hstart⟩, fun submit maxAttempts s => ?_⟩
      have hshown := ImportJob.run_shows hstart (kept_total _ _) rfl submit maxAttempts s
      rwa [List.length_map] at hshown

end

/-- A workstation under a header, with blank rows between them and around them. -/
def sheetOfBlanks : List Row :=
  ([[[], []], ["Nom du poste"], [[], []], ["PC-1"], [[], []]] : List (List Text)).map
    fun row => row.map Cell.ofText

def fileOfBlanks : FileContent := .bytes (Text.bytes ",\nNom du poste\n , \nPC-1\n,\n")

/-- The header is on the second line, and the workstation on the fourth. -/
theorem sheetOfBlanks_prepared :
    rowsOfFile "pcs.csv" fileOfBlanks = .ok sheetOfBlanks ∧
    (∃ row ∈ (prepare sheetOfBlanks .pc "B" (.pc placeholderName)).1, row.line = 4) ∧
    ∀ (submit : Submitter Item Unit), ∃ r,
      ImportJob.run ⟨"1", "pcs.csv", .pc, "B", .pc placeholderName⟩ submit 3 fileOfBlanks
        { state := () } = .ok r ∧ r.progress.total = 1 := by
  have hread : rowsOfFile "pcs.csv" fileOfBlanks = .ok sheetOfBlanks := by decide +kernel
  have hlength : (prepare sheetOfBlanks .pc "B" (.pc placeholderName)).1.length = 1 := by
    rw [prepare_of_infer (show topRow sheetOfBlanks = _ from rfl) Mapping.infer_assetName]
    decide
  obtain ⟨-, hrows, hfile⟩ :=
    prepare_rows (σ := Unit) sheetOfBlanks .pc "B" (.pc placeholderName)
  have hnot : ¬ IsHeaderAt .pc sheetOfBlanks 3 := by
    intro h
    have hblank := h.2 1 (by decide) [Cell.ofText "Nom du poste"] rfl
    revert hblank
    decide
  refine ⟨hread, ⟨_, (hrows _).mpr ⟨3, _, rfl, by decide, hnot, rfl⟩, rfl⟩, fun submit => ?_⟩
  obtain ⟨r, hrun, htotal, -⟩ := ((hfile "1" "pcs.csv" fileOfBlanks hread).2
    (List.ne_nil_of_length_pos (by rw [hlength]; decide))).2 submit 3 { state := () }
  exact ⟨r, hrun, htotal.trans (congrArg _ hlength)⟩

end Stockroom

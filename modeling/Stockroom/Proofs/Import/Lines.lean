import Stockroom.Proofs.Import.Rows
import Stockroom.Proofs.Sheet.Lines

/-!
The numbers that the rows of an import are reported under. A row has the number of its record, and this
is the line of the file on which the record begins as long as every line above is one record; after an
empty line, or after a field over several lines, it is less.

Main statement: `ImportJob.start_lines`.
-/
namespace Stockroom
set_option autoImplicit false

section
variable {ρ : Type} [Inhabited ρ]

theorem toImportRow_line (r : PreparedRow ρ) : r.toImportRow.line = r.line := by
  unfold PreparedRow.toImportRow
  split <;> rfl

/-- What is read of a row of a file: the row has the number of a record, and what is submitted is made
from that record. -/
theorem ImportJob.mem_start {job : ImportJob ρ} {content : FileContent} {grid : List Row}
    {rows : List (ImportRow ρ)} {notices : List LogEntry}
    (hgrid : rowsOfFile job.file content = .ok grid)
    (hstart : job.start content = .ok (rows, notices)) {row : ImportRow ρ} (hrow : row ∈ rows) :
    ∃ i cells, grid[i]? = some cells ∧ row = PreparedRow.toImportRow ⟨i + 1,
      job.normalizer.record (i + 1) cells (Mapping.infer (topRow grid) job.schema) job.branch⟩ := by
  rw [start_eq job hgrid] at hstart
  split at hstart
  · cases hstart
  · obtain ⟨rfl, -⟩ := Prod.mk.inj (Except.ok.inj hstart)
    obtain ⟨prepared, hprepared, rfl⟩ := List.mem_map.mp hrow
    obtain ⟨⟨line, cells⟩, hd, rfl⟩ := List.mem_map.mp hprepared
    obtain ⟨i, hi, -, -, hline⟩ := mem_bodyRows.mp hd
    obtain rfl : line = i + 1 := hline
    exact ⟨i, cells, hi, rfl⟩

/-- The rows of a file with a header have the numbers of the records below it. -/
theorem ImportJob.start_numbers (job : ImportJob ρ) {content : FileContent} {grid : List Row}
    (hgrid : rowsOfFile job.file content = .ok grid)
    (hheader : (Mapping.infer (topRow grid) job.schema).hasHeader = true)
    (hsome : (filledRows grid).drop 1 ≠ []) :
    ∃ rows notices, job.start content = .ok (rows, notices) ∧
      rows.map (·.line) = ((filledRows grid).drop 1).map fun d => (d.line : Int) := by
  have hbody : bodyRows grid (Mapping.infer (topRow grid) job.schema) = (filledRows grid).drop 1 :=
    if_pos hheader
  have hlines :
      (prepare grid job.schema job.branch job.normalizer).1.map (fun r => (r.line : Int)) =
        ((filledRows grid).drop 1).map fun d => (d.line : Int) := by
    rw [prepare, hbody, List.map_map]
    rfl
  have hprepared : (prepare grid job.schema job.branch job.normalizer).1 ≠ [] := by
    intro hnone
    rw [hnone, eq_comm, List.map_nil, List.map_eq_nil_iff] at hlines
    exact hsome hlines
  refine ⟨_, _, by rw [start_eq job hgrid, if_neg hprepared], ?_⟩
  simp only [← hlines, List.map_map, Function.comp_def, toImportRow_line]

theorem read_of_start {job : ImportJob ρ} {bytes : List UInt8} {rows : List (ImportRow ρ)}
    {notices : List LogEntry} (hkind : FileKind.ofName job.file = some .csv)
    (hstart : job.start (.bytes bytes) = .ok (rows, notices)) :
    ∃ grid, Csv.read bytes = .ok grid ∧ rowsOfFile job.file (.bytes bytes) = .ok grid := by
  cases hread : Csv.read bytes with
  | ok grid => exact ⟨grid, rfl, by simp [rowsOfFile, hkind, hread]⟩
  | error e =>
    have hfile : rowsOfFile job.file (.bytes bytes) = .error (.csv e) := by
      simp [rowsOfFile, hkind, hread]
    rw [ImportJob.start, readSheet, hfile] at hstart
    cases hstart

/-- Where the rows of an import come from. A row is made from the record with its number, which begins
on just one line of the file. Down to that line there are as many lines as the number says that are not
empty and do not start within quotes, so the number is that of the line exactly if each line above is
neither empty nor leaves quotes open. Failures are reported under the numbers of these rows. -/
theorem ImportJob.start_lines {σ : Type} {job : ImportJob ρ} {bytes : List UInt8}
    {rows : List (ImportRow ρ)} {notices : List LogEntry}
    (hkind : FileKind.ofName job.file = some .csv)
    (hstart : job.start (.bytes bytes) = .ok (rows, notices)) :
    (∃ grid, Csv.read bytes = .ok grid ∧ ∀ row ∈ rows, ∃ number line cells,
      grid[number - 1]? = some cells ∧
      row = PreparedRow.toImportRow ⟨number,
        job.normalizer.record number cells (Mapping.infer (topRow grid) job.schema) job.branch⟩ ∧
      row.line = number ∧
      (∀ l, Csv.BeginsOn bytes number l ↔ l = line) ∧
      number = Csv.beginnings false ((Csv.lines bytes).take line) ∧
      (number = line ↔ ∀ l ∈ (Csv.lines bytes).take (line - 1),
        Csv.holdsNothing l = false ∧ l.count Csv.quote % 2 = 0)) ∧
    ∀ (submit : Submitter ρ σ) (maxAttempts : Int) (s : Session ρ σ), ∃ r,
      job.run submit maxAttempts (.bytes bytes) s = .ok r ∧
      ∀ p ∈ r.progress :: r.published, ∀ f ∈ p.failures, ∃ row ∈ rows, f.line = row.line := by
  obtain ⟨grid, hread, hgrid⟩ := read_of_start hkind hstart
  refine ⟨⟨grid, hread, fun row hrow => ?_⟩, fun submit maxAttempts s => ?_⟩
  · obtain ⟨i, cells, hi, rfl⟩ := mem_start hgrid hstart hrow
    obtain ⟨records, hrecords, rfl⟩ := Csv.read_eq_ok.mp hread
    obtain ⟨hlt, -⟩ := List.getElem?_eq_some_iff.mp hi
    rw [Csv.rowsOfRecords_length] at hlt
    obtain ⟨line, hline⟩ := Csv.exists_beginsOn hrecords hlt
    refine ⟨i + 1, line, cells, hi, rfl, toImportRow_line _, fun l => ?_, hline.number_eq,
      hline.eq_iff⟩
    constructor
    · exact fun h => h.unique hline
    · rintro rfl
      exact hline
  · obtain ⟨r, hrun, hown, hshown⟩ :=
      run_shows hstart (kept_failures rows) (by simp) submit maxAttempts s
    exact ⟨r, hrun, List.forall_mem_cons.mpr ⟨hown, hshown⟩⟩

end

/-- Two workstations, the first with a remark over two lines, and an empty line between them. -/
def fileOfLines : List UInt8 := Text.bytes "Nom du poste;Remarque\nPC-1;\"a\nb\"\n\nPC-2;\n"

def sheetOfLines : List Row :=
  [["Nom du poste", "Remarque"], ["PC-1", "a\nb"], ["PC-2", ""]].map fun row =>
    row.map fun t => Cell.ofText (Text.ofString t)

/-- The second workstation has number 3, and begins on the fifth line. -/
theorem fileOfLines_numbered :
    ∃ rows notices, ImportJob.start ⟨"1", "pcs.csv", .pc, "B", .pc placeholderName⟩
      (.bytes fileOfLines) = .ok (rows, notices) ∧
      ∃ row ∈ rows, row.line = 3 ∧ ∀ l, Csv.BeginsOn fileOfLines 3 l ↔ l = 5 := by
  have hgrid : rowsOfFile "pcs.csv" (.bytes fileOfLines) = .ok sheetOfLines := by decide +kernel
  obtain ⟨rows, notices, hstart, hnumbers⟩ := ImportJob.start_numbers
    ⟨"1", "pcs.csv", .pc, "B", .pc placeholderName⟩ hgrid
    (Mapping.hasHeader_of_first Mapping.namedField_assetName) (by decide)
  replace hnumbers : rows.map (·.line) = [2, 3] := hnumbers.trans (by decide)
  obtain ⟨row, hrow, hthree⟩ := List.mem_map.mp (show 3 ∈ rows.map (·.line) by simp [hnumbers])
  obtain ⟨⟨grid, hread, hrows⟩, -⟩ := ImportJob.start_lines (σ := Unit) (by decide +kernel) hstart
  obtain ⟨records, hrecords, -⟩ := Csv.read_eq_ok.mp hread
  obtain ⟨number, line, cells, -, -, hnumber, hbegins, -⟩ := hrows row hrow
  obtain rfl : number = 3 := by omega
  have hlines : Csv.lines fileOfLines =
      (Csv.lines fileOfLines).take 4 ++ Text.bytes "PC-2;\n" :: [] := by decide +kernel
  have hfifth := Csv.beginsOn_of_lines hrecords hlines (by decide +kernel) (by decide +kernel)
  obtain rfl := (hbegins 5).mp hfifth
  exact ⟨rows, notices, hstart, row, hrow, hthree, hbegins⟩

/-- A consumable without a reference, under an empty line. -/
def fileOfGap : List UInt8 := Text.bytes "Marque;Référence\n\nHP;\n"

def sheetOfGap : List Row :=
  [["Marque", "Référence"], ["HP", ""]].map fun row =>
    row.map fun t => Cell.ofText (Text.ofString t)

/-- The import reports it under the number 2, while it begins on the third line and on no other. -/
theorem fileOfGap_misnumbered :
    ∃ rows notices, ImportJob.start ⟨"1", "in.csv", .consumable, "A", .consumable⟩
      (.bytes fileOfGap) = .ok (rows, notices) ∧
      rows.map (·.line) = [2] ∧ Csv.BeginsOn fileOfGap 2 3 ∧ ¬ Csv.BeginsOn fileOfGap 2 2 := by
  have hgrid : rowsOfFile "in.csv" (.bytes fileOfGap) = .ok sheetOfGap := by decide +kernel
  obtain ⟨rows, notices, hstart, hnumbers⟩ := ImportJob.start_numbers
    ⟨"1", "in.csv", .consumable, "A", .consumable⟩ hgrid
    (Mapping.hasHeader_of_first Mapping.namedField_brand) (by decide)
  replace hnumbers : rows.map (·.line) = [2] := hnumbers.trans (by decide)
  obtain ⟨grid, hread, -⟩ := read_of_start (by decide +kernel) hstart
  obtain ⟨records, hrecords, -⟩ := Csv.read_eq_ok.mp hread
  have hlines : Csv.lines fileOfGap =
      (Csv.lines fileOfGap).take 2 ++ Text.bytes "HP;\n" :: [] := by decide +kernel
  have hthird : Csv.BeginsOn fileOfGap 2 3 :=
    Csv.beginsOn_of_lines hrecords hlines (by decide +kernel) (by decide +kernel)
  refine ⟨rows, notices, hstart, hnumbers, hthird, fun hsecond => ?_⟩
  cases hsecond.unique hthird

end Stockroom

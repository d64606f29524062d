import Stockroom.Sheet.Cell
import Stockroom.Sheet.Schema

/-!
Which column feeds which field. The first row that is not blank is a header when one of its cells
that are no numbers is a known spelling. Then each such cell maps its field, the leftmost column
winning; otherwise fields are mapped by position.

Main definitions:
* `Mapping`, `Mapping.column?`, `Mapping.cell?`, `Mapping.text`;
* `Mapping.infer`: the mapping of a first row;
* `topRow`, `bodyRows`: the row that may be a header, and the rows that hold data.
-/
namespace Stockroom
set_option autoImplicit false

/-- The column of each mapped field, and whether the first row is a header. -/
structure Mapping where
  columns : List (Text × Nat) := []
  hasHeader : Bool := false
  deriving DecidableEq, Repr, Inhabited

namespace Mapping

/-- The column of a field. -/
def column? (m : Mapping) (field : Text) : Option Nat := m.columns.lookup field

/-- The cell that feeds a field; blank cells and cells beyond the row are absent. -/
def cell? (m : Mapping) (row : Row) (field : Text) : Option Cell :=
  ((m.column? field).bind fun i => row[i]?).filter (!·.isBlank)

/-- The value that feeds a field, or nothing. -/
def text (m : Mapping) (row : Row) (field : Text) : Text :=
  match m.cell? row field with
  | some c => c.value
  | none => []

/-- The field a cell of a header names; numbers name none. -/
def namedField (schema : Schema) (c : Cell) : Option Text :=
  if c.isNumber then none else schema.lookup c.text

/-- Maps each named field to its leftmost column, counting columns from `start`. -/
def ofHeader (schema : Schema) (start : Nat) (taken : List (Text × Nat)) :
    Row → List (Text × Nat)
  | [] => taken
  | c :: rest =>
    match namedField schema c with
    | some field =>
      if (taken.lookup field).isSome then ofHeader schema (start + 1) taken rest
      else ofHeader schema (start + 1) (taken ++ [(field, start)]) rest
    | none => ofHeader schema (start + 1) taken rest

/-- Maps fields by position up to a width. Of a field that is named twice the later column wins, as
it stands in front. -/
def ofPosition (fields : List Text) (width : Nat) : List (Text × Nat) :=
  ((fields.take width).zipIdx).reverse

/-- The mapping a first row implies. -/
def infer (first : Row) (schema : Schema) : Mapping :=
  if first.any fun c => (namedField schema c).isSome then
    { columns := ofHeader schema 0 [] first, hasHeader := true }
  else { columns := ofPosition schema.fieldOrder first.length, hasHeader := false }

end Mapping

/-- A row of data with its line, counted from one. -/
structure DataRow where
  line : Nat
  cells : Row
  deriving DecidableEq, Repr, Inhabited

/-- The first row that is not blank. -/
def topRow (rows : List Row) : Row := (rows.find? (!·.isBlank)).getD []

/-- The rows that are not blank, with their lines. -/
def filledRows (rows : List Row) : List DataRow :=
  (rows.zipIdx 1).filterMap fun (cells, line) =>
    if cells.isBlank then none else some ⟨line, cells⟩

/-- The rows that are not blank, without the header. -/
def bodyRows (rows : List Row) (m : Mapping) : List DataRow :=
  if m.hasHeader then (filledRows rows).drop 1 else filledRows rows

end Stockroom

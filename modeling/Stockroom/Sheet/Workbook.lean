import Stockroom.Sheet.Csv
import Stockroom.Sheet.SharedText

/-!
Workbooks: named sheets of cells at places such as `B3`. Reading takes the first sheet, row by row
down to the last cell that holds anything, with empty rows and cells between the others. Writing puts
texts into the table that all sheets share.

Main definitions:
* `CellContent`, `PlacedCell`, `WorkSheet`, `Workbook`;
* `CellRef.read`: column and row of a place;
* `Workbook.rows`: the rows of the first sheet;
* `Workbook.written`: a workbook as it reads after it was written;
* `isSheetName`, `Workbook.ofTexts`: a workbook with one sheet of texts.
-/
namespace Stockroom
set_option autoImplicit false

/-- What a workbook stores in a cell. -/
inductive CellContent where
  /-- A text of the table that all cells share. -/
  | text (t : Text)
  /-- A text that stands in the cell itself. -/
  | spelled (t : Text)
  /-- A number, as it is spelled in the file. -/
  | number (spelling : Text)
  | flag (b : Bool)
  deriving DecidableEq, Repr

/-- A cell with its row and its column, both counted from one. -/
structure PlacedCell where
  row : Nat
  column : Nat
  content : CellContent
  deriving DecidableEq, Repr

structure WorkSheet where
  name : Text
  cells : List PlacedCell
  deriving DecidableEq, Repr

structure Workbook where
  sheets : List WorkSheet
  deriving DecidableEq, Repr

/-! ## Places -/

namespace CellRef

/-- The number of a column in letters: `A` is one, `Z` twenty-six, `AA` twenty-seven. -/
def columnNumber (letters : List Char) : Nat :=
  letters.foldl (fun n c => n * 26 + (c.toUpper.toNat - 64)) 0

/-- Row and column of a place. -/
def read (cs : List Char) : Option (Nat × Nat) :=
  let letters := cs.takeWhile Char.isAlpha
  (digitsValue (cs.dropWhile Char.isAlpha)).map fun row => (row, columnNumber letters)

end CellRef

/-! ## Reading -/

namespace CellContent

/-- A value that was put into a cell as it is: a number if it reads as one without underscores and
without space around it. -/
def ofRaw (t : Text) : CellContent :=
  if (readNumeral t.toChars).isSome && !t.contains (.char '_') then .number t else .spelled t

/-- The text a cell reads as. -/
def shown : CellContent → Text
  | .text t => t
  | .spelled t => t
  | .number spelling => spelling
  | .flag true => "1"
  | .flag false => "0"

/-- Whether the workbook types the cell as a number. -/
def isTyped : CellContent → Bool
  | .number _ => true
  | _ => false

end CellContent

/-- The members of a list by a number, in ascending order; those of one number keep their order. -/
def grouped {α : Type} (number : α → Nat) (xs : List α) : List (Nat × List α) :=
  ((xs.mergeSort fun a b => number a ≤ number b).splitBy fun a b => number a == number b).filterMap
    fun group => group.head?.map fun first => (number first, group)

/-- Puts things at their places, which ascend from the next one on, with nothing in between. -/
def spread {α : Type} (nothing : α) (next : Nat) : List (Nat × α) → List α
  | [] => []
  | (place, x) :: rest =>
    List.replicate (place - next) nothing ++ x :: spread nothing (place + 1) rest

/-- A list without those of its last members that have a property. -/
def dropLastWhile {α : Type} (p : α → Bool) (xs : List α) : List α := (xs.reverse.dropWhile p).reverse

/-- The cell that is read at a place. The very first cell loses a byte order mark. -/
def PlacedCell.read (c : PlacedCell) : Cell :=
  let shown := c.content.shown
  let t := if c.row = 1 ∧ c.column = 1 then Csv.dropMark shown else shown
  if c.content.isTyped then Cell.ofStored t else Cell.ofText t

/-- A row up to its last cell that holds anything. Of several cells at a place the one written last
counts. -/
def readRow (cells : List PlacedCell) : Row :=
  let columns := (grouped PlacedCell.column cells).filterMap fun (column, group) =>
    group.getLast?.map fun c => (column, c)
  spread (Cell.ofText []) 1 ((dropLastWhile (fun e => e.2.content.shown.isEmpty) columns).map fun e =>
    (e.1, e.2.read))

/-- The rows down to the last cell that holds anything. -/
def WorkSheet.rows (s : WorkSheet) : List Row :=
  let rows := (grouped PlacedCell.row s.cells).map fun (row, cells) => (row, readRow cells)
  spread [] 1 (dropLastWhile (fun e => e.2.isEmpty) rows)

/-- The rows of the first sheet. -/
def Workbook.rows (w : Workbook) : List Row :=
  match w.sheets with
  | [] => []
  | s :: _ => s.rows

/-! ## Writing -/

/-- The characters a sheet name cannot hold. -/
def forbiddenInSheetName : List Char := [':', '\\', '/', '?', '*', '[', ']']

/-- Whether a sheet may have this name. -/
def isSheetName (name : Text) : Bool :=
  let cs := name.toChars
  1 ≤ cs.length && cs.length ≤ 31 && cs.head? != some '\'' && cs.getLast? != some '\'' &&
    !cs.any forbiddenInSheetName.contains

/-- A cell as it reads after it was written, and the table after it. -/
def PlacedCell.written (table : SharedTexts) (c : PlacedCell) : PlacedCell × SharedTexts :=
  match c.content with
  | .text t =>
    let (t, table) := table.add t
    ({ c with content := .text t }, table)
  | .spelled t => ({ c with content := .spelled (storableText t) }, table)
  | _ => (c, table)

/-- Cells as they read after they were written one after the other. -/
def writtenCells (table : SharedTexts) : List PlacedCell → List PlacedCell × SharedTexts
  | [] => ([], table)
  | c :: rest =>
    let (c, table) := c.written table
    let (rest, table) := writtenCells table rest
    (c :: rest, table)

/-- Sheets as they read after they were written one after the other. -/
def writtenSheets (table : SharedTexts) : List WorkSheet → List WorkSheet
  | [] => []
  | s :: rest =>
    let (cells, table) := writtenCells table s.cells
    ⟨storableText s.name, cells⟩ :: writtenSheets table rest

/-- A workbook as it reads after it was written. -/
def Workbook.written (w : Workbook) : Workbook := ⟨writtenSheets {} w.sheets⟩

/-- The most rows of a sheet. -/
def maxSheetRows : Nat := 1048576

/-- The cells of rows of texts, from the first row and the first column on. -/
def placedTexts (rows : List (List Text)) : List PlacedCell :=
  (rows.zipIdx 1).flatMap fun (row, i) => (row.zipIdx 1).map fun (t, j) => ⟨i, j, .text t⟩

/-- A workbook with one sheet of texts, the header in its first row; none when the name is refused or
there are too many rows. -/
def Workbook.ofTexts (name : Text) (header : List Text) (rows : List (List Text)) :
    Option Workbook :=
  if isSheetName name && rows.length < maxSheetRows then
    some (Workbook.written ⟨[⟨name, placedTexts (header :: rows)⟩]⟩)
  else none

end Stockroom

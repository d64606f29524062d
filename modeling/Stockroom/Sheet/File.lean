import Stockroom.Sheet.Workbook
import Stockroom.Text.Folded

/-!
Spreadsheet files. The extension of the file name decides how a file is read: separated values, or
the first sheet of a workbook.

Main definitions: `FileContent`, `extension`, `ReadError`, `readSheet`.
-/
namespace Stockroom
set_option autoImplicit false

/-- What a file holds: a workbook, or bytes that are none. -/
inductive FileContent where
  | bytes (bs : List UInt8)
  | workbook (w : Workbook)
  deriving DecidableEq, Repr

/-- Why a file cannot be read. -/
inductive ReadError where
  | unsupported (extension : Text)
  | csv (e : Csv.Error)
  | notAWorkbook
  | empty
  deriving DecidableEq, Repr

def ReadError.message : ReadError → Text
  | .unsupported ext => "unsupported file format: " ++ ext
  | .csv e => "parsing csv: " ++ e.message
  | .notAWorkbook => "opening workbook: zip: not a valid zip file"
  | .empty => "spreadsheet is empty"

/-- The extension of a file name: from the last dot of its last part. -/
def extension (name : Text) : Text :=
  let base := name.reverse.takeWhile (· != .char '/')
  if base.contains (.char '.') then
    .char '.' :: (base.takeWhile (· != .char '.')).reverse
  else []

/-- The kinds of files that can be read. -/
inductive FileKind where
  | csv
  | workbook
  deriving DecidableEq, Repr

/-- The kind of a file by its name, whatever the case of the extension. -/
def FileKind.ofName (name : Text) : Option FileKind :=
  let ext := (extension name).lower
  if ext = Text.ofString ".csv" then some .csv
  else if ext = Text.ofString ".xlsx" ∨ ext = Text.ofString ".xlsm" then some .workbook
  else none

/-- The rows of a file, blank or not. -/
def rowsOfFile (name : Text) (content : FileContent) : Except ReadError (List Row) :=
  match FileKind.ofName name, content with
  | none, _ => .error (.unsupported (extension name))
  | some .csv, .bytes bs =>
    match Csv.read bs with
    | .ok rows => .ok rows
    | .error e => .error (.csv e)
  | some .csv, .workbook _ => .ok []
  | some .workbook, .bytes _ => .error .notAWorkbook
  | some .workbook, .workbook w => .ok w.rows

/-- The rows of a file, one of which is not blank. -/
def readSheet (name : Text) (content : FileContent) : Except ReadError (List Row) := do
  let rows ← rowsOfFile name content
  if rows.all Row.isBlank then throw .empty
  return rows

end Stockroom

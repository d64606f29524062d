import Stockroom.Number.Literal
import Stockroom.Number.Shortest
import Stockroom.Text.Blank

/-!
Cells and rows of a spreadsheet. A cell keeps its text as it was written; when the text is a
numeral, the cell is a number as well. Only a workbook can say that a cell was stored as a number.

Main definitions: `Cell`, `Cell.ofText`, `Cell.ofNumber`, `Cell.value`, `Row`, `Row.isBlank`.
-/
namespace Stockroom
set_option autoImplicit false

/-- A value of a spreadsheet. -/
structure Cell where
  text : Text
  /-- The number the text reads as. -/
  number : Option Binary64 := none
  /-- Whether a workbook typed the cell as a number. -/
  stored : Bool := false
  deriving DecidableEq, Repr, Inhabited

namespace Cell

/-- A cell of a text; space around a numeral does not count. -/
def ofText (t : Text) : Cell := { text := t, number := readDouble t.trim.toChars }

/-- A number of a workbook. -/
def ofNumber (x : Binary64) : Cell :=
  { text := Text.ofChars x.positional, number := some x, stored := true }

/-- A text a workbook typed as a number: stored as one if it reads as one. -/
def ofStored (t : Text) : Cell :=
  let c := ofText t
  { c with stored := c.number.isSome }

/-- Whether there is nothing but white space. -/
def isBlank (c : Cell) : Bool := c.text.isBlank

def isNumber (c : Cell) : Bool := c.number.isSome

/-- Whether a stored numeral has an exponent, or a fraction that ends in a zero. -/
def isUnusual (t : Text) : Bool :=
  t.contains (.char 'e') || t.contains (.char 'E') ||
    (t.contains (.char '.') && t.getLast? == some (.char '0'))

/-- The text without the space around it. A stored number with an unusual spelling is written
positionally instead; a text stays as it is written, also where it looks like a number. -/
def value (c : Cell) : Text :=
  let t := c.text.trim
  match c.number with
  | some x => if c.stored && isUnusual t then Text.ofChars x.positional else t
  | none => t

end Cell

/-- A line of a spreadsheet. -/
abbrev Row := List Cell

/-- Whether all cells are blank. -/
def Row.isBlank (r : Row) : Bool := r.all Cell.isBlank

end Stockroom

import Stockroom.Sheet.Cell

/-!
Separated values. Fields stand between separators, records on lines; a field in double quotes may
hold separators, line ends and, written twice, quotes. Space before a field does not count, and empty
lines hold no record.

Main definitions:
* `Csv.unifyLines`: line ends as single line feeds;
* `Csv.scan`: one pass over the bytes, by the mode the scanner is in;
* `Csv.separator`: the separator the first line suggests;
* `Csv.read`: the rows of a file.
-/
namespace Stockroom.Csv
set_option autoImplicit false

def lineFeed : UInt8 := 10
def carriageReturn : UInt8 := 13
def quote : UInt8 := 34
def comma : UInt8 := 44
def semicolon : UInt8 := 59

/-! ## Errors -/

/-- What is wrong with a quote. -/
inductive Fault where
  /-- A quote inside a field that does not start with one. -/
  | bareQuote
  /-- A quoted field that is not closed, or goes on after its closing quote. -/
  | strayQuote
  deriving DecidableEq, Repr

/-- A fault, where its record starts and where it stands. Columns count bytes from one. -/
structure Error where
  fault : Fault
  recordLine : Nat
  line : Nat
  column : Nat
  deriving DecidableEq, Repr

def Fault.message : Fault → Text
  | .bareQuote => "bare \" in non-quoted-field"
  | .strayQuote => "extraneous or missing \" in quoted-field"

def Error.message (e : Error) : Text :=
  let place : Text :=
    "parse error on line " ++ Text.ofNat e.line ++ ", column " ++ Text.ofNat e.column ++ ": " ++
      e.fault.message
  if e.recordLine = e.line then place
  else "record on line " ++ Text.ofNat e.recordLine ++ "; " ++ place

/-! ## Line ends -/

/-- Turns a carriage return before a line feed into nothing, and drops one at the very end. -/
def unifyLines : List UInt8 → List UInt8
  | [] => []
  | [b] => if b = carriageReturn then [] else [b]
  | a :: b :: rest =>
    if a = carriageReturn ∧ b = lineFeed then unifyLines (b :: rest)
    else a :: unifyLines (b :: rest)

/-! ## White space in bytes -/

/-- How many bytes the white-space character at the front takes. -/
def blankLength (b : UInt8) (rest : List UInt8) : Option Nat :=
  match Text.firstChar b rest with
  | some (c, more) => if isBlankChar c then some (more + 1) else none
  | none => none

/-! ## Scanning -/

/-- What the scanner is in the middle of. Fields are held back to front. -/
inductive Mode where
  /-- Between records. -/
  | between
  /-- Before a field, with that many bytes of a white-space character still to pass. -/
  | before (skip : Nat)
  /-- In a field without quotes. -/
  | plain (field : List UInt8)
  /-- In a field with quotes. -/
  | quoted (field : List UInt8)
  /-- After a quote in a field with quotes. -/
  | closing (field : List UInt8)
  deriving DecidableEq, Repr

/-- Where the scanner is, and the finished fields of the record, back to front. -/
structure Place where
  recordLine : Nat := 1
  line : Nat := 1
  column : Nat := 1
  fields : List (List UInt8) := []
  deriving DecidableEq, Repr

namespace Place

/-- Some bytes further on the same line. -/
def right (p : Place) (n : Nat) : Place := { p with column := p.column + n }

/-- At the start of the next line. -/
def down (p : Place) : Place := { p with line := p.line + 1, column := 1 }

/-- With one more field. -/
def add (p : Place) (field : List UInt8) : Place := { p with fields := field.reverse :: p.fields }

/-- The record that ends with a field. -/
def record (p : Place) (field : List UInt8) : List (List UInt8) := (p.add field).fields.reverse

/-- At the start of a record. -/
def begin (p : Place) : Place := { p with recordLine := p.line, column := 1, fields := [] }

def error (p : Place) (fault : Fault) : Error := ⟨fault, p.recordLine, p.line, p.column⟩

end Place

/-- Mode and place after the byte at the front, when a field may start there. -/
def openField (sep : UInt8) (p : Place) (b : UInt8) (rest : List UInt8) : Mode × Place :=
  match blankLength b rest with
  | some n => (.before (n - 1), p.right 1)
  | none =>
    if b = quote then (.quoted [], p.right 1)
    else if b = sep then (.before 0, (p.add []).right 1)
    else (.plain [b], p.right 1)

/-- The records of bytes with unified line ends, from a mode and a place. -/
def scan (sep : UInt8) : Mode → Place → List UInt8 → Except Error (List (List (List UInt8)))
  | .between, _, [] => .ok []
  | .before _, p, [] => .ok [p.record []]
  | .plain field, p, [] => .ok [p.record field]
  | .quoted _, p, [] => .error (p.error .strayQuote)
  | .closing field, p, [] => .ok [p.record field]
  | .between, p, b :: rest =>
    if b = lineFeed then scan sep .between p.down rest
    else scan sep (openField sep p.begin b rest).1 (openField sep p.begin b rest).2 rest
  | .before (n + 1), p, _ :: rest => scan sep (.before n) (p.right 1) rest
  | .before 0, p, b :: rest =>
    if b = lineFeed then (scan sep .between p.down rest).map (p.record [] :: ·)
    else scan sep (openField sep p b rest).1 (openField sep p b rest).2 rest
  | .plain field, p, b :: rest =>
    if b = lineFeed then (scan sep .between p.down rest).map (p.record field :: ·)
    else if b = sep then scan sep (.before 0) ((p.add field).right 1) rest
    else if b = quote then .error (p.error .bareQuote)
    else scan sep (.plain (b :: field)) (p.right 1) rest
  | .quoted field, p, b :: rest =>
    if b = quote then scan sep (.closing field) (p.right 1) rest
    else if b = lineFeed ∧ rest ≠ [] then scan sep (.quoted (b :: field)) p.down rest
    else scan sep (.quoted (b :: field)) (p.right 1) rest
  | .closing field, p, b :: rest =>
    if b = lineFeed then (scan sep .between p.down rest).map (p.record field :: ·)
    else if b = quote then scan sep (.quoted (b :: field)) (p.right 1) rest
    else if b = sep then scan sep (.before 0) ((p.add field).right 1) rest
    else .error { p.error .strayQuote with column := p.column - 1 }

/-! ## Files -/

/-- The semicolon when the first line has more of them than commas, else the comma. -/
def separator (bytes : List UInt8) : UInt8 :=
  let first := bytes.takeWhile (· != lineFeed)
  if first.count comma < first.count semicolon then semicolon else comma

/-- The records of a file. -/
def records (bytes : List UInt8) : Except Error (List (List (List UInt8))) :=
  scan (separator bytes) .between {} (unifyLines bytes)

/-- A text without a byte order mark at its start. -/
def dropMark (t : Text) : Text :=
  match t with
  | .char '\uFEFF' :: rest => rest
  | t => t

/-- Rows of texts; the mark at the start of the first cell is dropped. -/
def rowsOfTexts : List (List Text) → List Row
  | [] => []
  | [] :: rest => [] :: rest.map fun r => r.map Cell.ofText
  | (first :: more) :: rest =>
    (Cell.ofText (dropMark first) :: more.map Cell.ofText) :: rest.map fun r => r.map Cell.ofText

/-- The rows of a file. -/
def read (bytes : List UInt8) : Except Error (List Row) :=
  (records bytes).map fun rs => rowsOfTexts (rs.map fun r => r.map Text.ofBytes)

end Stockroom.Csv

import Stockroom.Json.Reader
import Stockroom.Text.Basic

/-!
The table of texts that the cells of a workbook share. In it a character may be written by its number,
as in `_x0041_`, and reading replaces such an escape by the character. A text goes into the table as
it is, under a key in which its own escapes are made harmless; a later text that equals the key of an
earlier one therefore finds the earlier one.

Main definitions:
* `SharedText.takeEscape`: an escape at the front of a text;
* `SharedText.unescape`, `SharedText.keyOf`: reading escapes, and making them harmless;
* `SharedTexts`, `SharedTexts.add`: the table, and what a text put into it reads as;
* `storableText`: a text as a workbook can hold it.
-/
namespace Stockroom
set_option autoImplicit false

/-! ## Escapes -/

namespace SharedText

/-- Whether a character is a letter or a digit of ASCII. -/
def isWordChar (c : Char) : Bool := c.isAlphanum

/-- The four characters of an escape without its first underscore, and what follows it. -/
def takeTail : List Char → Option (List Char × List Char)
  | 'x' :: a :: b :: c :: d :: '_' :: rest =>
    if [a, b, c, d].all isWordChar then some ([a, b, c, d], rest) else none
  | _ => none

/-- The four characters of an escape at the front of a text, and what follows it. -/
def takeEscape : List Char → Option (List Char × List Char)
  | '_' :: rest => takeTail rest
  | _ => none

/-- The character with a number of four hexadecimal digits. -/
def charOf (digits : List Char) : Option Char := do
  let n := (← digits.mapM Json.hexValue).foldl (fun n d => n * 16 + d) 0
  if Json.isSurrogate n then none else some (Char.ofNat n)

/-- The escape of given digits. -/
def escapeOf (digits : List Char) : List Char := '_' :: 'x' :: digits ++ ['_']

/-- The digits of the underscore. -/
def underscore : List Char := ['0', '0', '5', 'F']

/-- Replaces escapes from the left, each by its character; one that names no character is dropped. -/
def unescapeWithin : Nat → List Char → List Char
  | 0, cs => cs
  | _, [] => []
  | fuel + 1, c :: rest =>
    match takeEscape (c :: rest) with
    | some (digits, after) => (charOf digits).toList ++ unescapeWithin fuel after
    | none => c :: unescapeWithin fuel rest

def unescape (cs : List Char) : List Char := unescapeWithin cs.length cs

/-- The key of an escape, given what follows it: an underscore's escape goes before one that names a
character, and an escaped underscore is escaped once more when the rest of an escape follows it. -/
def keyOfEscape (digits after : List Char) : List Char :=
  if digits = underscore then
    match takeTail after with
    | some (next, _) =>
      if (charOf next).isSome then
        escapeOf underscore ++ ('x' :: underscore) ++ escapeOf underscore
      else escapeOf underscore ++ 'x' :: underscore ++ ['_']
    | none => escapeOf underscore ++ 'x' :: underscore ++ ['_']
  else if (charOf digits).isSome then ('_' :: 'x' :: underscore) ++ escapeOf digits
  else escapeOf digits

/-- The key of a text. -/
def keyWithin : Nat → List Char → List Char
  | 0, cs => cs
  | _, [] => []
  | fuel + 1, c :: rest =>
    match takeEscape (c :: rest) with
    | some (digits, after) => keyOfEscape digits after ++ keyWithin fuel after
    | none => c :: keyWithin fuel rest

def keyOf (cs : List Char) : List Char := keyWithin cs.length cs

end SharedText

/-! ## What a workbook can hold -/

/-- The longest text of a cell, in units of sixteen bits. -/
def maxCellUnits : Nat := 32767

/-- The units of sixteen bits of a glyph. -/
def Glyph.units (g : Glyph) : Nat := if g.toChar.toNat < 0x10000 then 1 else 2

/-- The beginning of a text that fits into a number of units. -/
def takeUnits : Nat → Text → Text
  | _, [] => []
  | room, g :: rest => if g.units ≤ room then g :: takeUnits (room - g.units) rest else []

/-- Whether a workbook can hold a character. -/
def isStorable (c : Char) : Bool :=
  let n := c.toNat
  n == 9 || n == 10 || n == 13 || (0x20 ≤ n && n != 0xFFFE && n != 0xFFFF)

/-- Characters with U+FFFD for each that a workbook cannot hold. -/
def storableChars (cs : List Char) : List Char := cs.map fun c => if isStorable c then c else '\uFFFD'

/-- A text with U+FFFD for what a workbook cannot hold. -/
def storableText (t : Text) : Text := Text.ofChars (storableChars t.toChars)

/-! ## The table -/

/-- The texts of a workbook with their keys, the latest first. -/
structure SharedTexts where
  entries : List (List Char × List Char) := []

/-- Puts a text, cut to the longest length, into the table and gives what it reads as. -/
def SharedTexts.add (table : SharedTexts) (t : Text) : Text × SharedTexts :=
  let cs := (takeUnits maxCellUnits t).toChars
  let shown (cs : List Char) : Text := Text.ofChars (SharedText.unescape (storableChars cs))
  match table.entries.lookup cs with
  | some found => (shown found, table)
  | none => (shown cs, ⟨(SharedText.keyOf cs, cs) :: table.entries⟩)

end Stockroom

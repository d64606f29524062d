import Stockroom.Json.Reader
import Stockroom.Yaml.Token

/-!
What can be said of a node or a document besides its content: anchors, aliases, tags and directives.

Main definitions:
* `Yaml.Cursor.takeAnchor`: the name of an anchor or alias;
* `Yaml.Cursor.takeTag`: a tag, in full or with a handle;
* `Yaml.Cursor.takeDirective`: the version of a document, or a handle of its tags.
-/
namespace Stockroom.Yaml
set_option autoImplicit false

/-! ## Anchors -/

/-- The characters other than blanks that may follow the name of an anchor. -/
def anchorEnds : List Char := ['?', ':', ',', ']', '\x7d', '%', '@', Char.ofNat 96]

/-- The name of an anchor or alias, from its mark on. -/
def Cursor.takeAnchor (here : Cursor) : Except Snag (List Char × Cursor) := do
  let (name, here) := here.advance.takeWhile isWordChar
  here.require (!name.isEmpty && (startsBlank here.rest || here.rest.head?.any anchorEnds.contains))
    .missingName
  return (name, here)

/-! ## Tags -/

/-- Whether a character may stand in a tag. -/
def isTagChar (c : Char) : Bool :=
  isWordChar c ||
    [';', '/', '?', ':', '@', '&', '=', '+', '$', '.', ',', '!', '~', '*', '\'', '(', ')', '[', ']',
      '%'].contains c

/-- The number of bytes of a character that starts with the given byte, zero if none does. -/
def sequenceLength (b : Nat) : Nat :=
  if b < 0x80 then 1
  else if 0xC0 ≤ b && b < 0xE0 then 2
  else if 0xE0 ≤ b && b < 0xF0 then 3
  else if 0xF0 ≤ b && b < 0xF8 then 4
  else 0

/-- A byte written as a percent sign and two hexadecimal digits. -/
def escapedByte : List Char → Option Nat
  | '%' :: a :: b :: _ => do
    let high ← Json.hexValue a
    let low ← Json.hexValue b
    return high * 16 + low
  | _ => none

/-- The given number of further bytes of a character. -/
def Cursor.takeTrailBytes : Nat → Cursor → Except Snag (List Char × Cursor)
  | 0, here => .ok ([], here)
  | n + 1, here =>
    match escapedByte here.rest with
    | none => here.snag .badEscapedByte
    | some b => do
      here.require (0x80 ≤ b && b < 0xC0) .badTrailByte
      let (more, here) ← takeTrailBytes n (here.forward 3)
      return (Char.ofNat b :: more, here)

/-- The characters of a tag; the bytes of an escaped character are taken one by one. -/
def Cursor.takeTagText : Nat → Cursor → Except Snag (List Char × Cursor)
  | 0, here => .ok ([], here)
  | fuel + 1, here =>
    match here.rest with
    | [] => .ok ([], here)
    | c :: _ =>
      if c == '%' then
        match escapedByte here.rest with
        | none => here.snag .badEscapedByte
        | some b => do
          let length := sequenceLength b
          here.require (length != 0) .badLeadByte
          let (bytes, here) ← takeTrailBytes (length - 1) (here.forward 3)
          let (more, here) ← takeTagText fuel here
          return (Char.ofNat b :: bytes ++ more, here)
      else if isTagChar c then
        (takeTagText fuel here.advance).map fun (cs, here) => (c :: cs, here)
      else .ok ([], here)

/-- The characters of a tag, of which there is at least one. -/
def Cursor.takeTagUri (here : Cursor) : Except Snag (List Char × Cursor) := do
  let (text, here) ← takeTagText here.size here
  here.require (!text.isEmpty) .missingTagText
  return (text, here)

/-- An exclamation mark, a word and perhaps a second exclamation mark. -/
def Cursor.takeHandle (here : Cursor) : Except Snag (List Char × Cursor) := do
  here.require (here.sees '!') .missingTagMark
  let (word, here) := here.advance.takeWhile isWordChar
  if here.sees '!' then return ('!' :: word ++ ['!'], here.advance)
  return ('!' :: word, here)

/-- Whether a text is a handle between two exclamation marks. -/
def isClosedHandle (handle : List Char) : Bool := 1 < handle.length && handle.getLast? == some '!'

/-- A tag as its handle and the rest. A tag in full has no handle, and a lone exclamation mark is the
rest without a handle. -/
def Cursor.takeTag (here : Cursor) : Except Snag (List Char × List Char × Cursor) := do
  let (handle, suffix, here) ←
    if (here.rest.drop 1).head? == some '<' then do
      let (uri, here) ← (here.forward 2).takeTagUri
      here.require (here.sees '>') .missingTagClose
      pure ([], uri, here.advance)
    else do
      let (handle, here) ← here.takeHandle
      if isClosedHandle handle then do
        let (suffix, here) ← here.takeTagUri
        pure (handle, suffix, here)
      else do
        let (more, here) ← takeTagText here.size here
        let suffix := handle.drop 1 ++ more
        pure (if suffix.isEmpty then ([], ['!'], here) else (['!'], suffix, here))
  here.require (startsBlank here.rest) .missingGap
  return (handle, suffix, here)

/-! ## Directives -/

/-- A number of one or two digits. -/
def Cursor.takeVersionNumber (here : Cursor) : Except Snag (Nat × Cursor) := do
  let (digits, here) := here.takeWhile fun c => '0' ≤ c && c ≤ '9'
  here.require (digits.length ≤ 2) .longVersion
  here.require (!digits.isEmpty) .missingVersion
  return (digits.foldl (fun n d => n * 10 + (d.toNat - 48)) 0, here)

/-- The value of a directive of the given name. -/
def Cursor.takeDirectiveValue (name : List Char) (here : Cursor) : Except Snag (Token × Cursor) := do
  let after := here.skipWhile isBlank
  if name == ['Y', 'A', 'M', 'L'] then
    let (major, here) ← after.takeVersionNumber
    here.require (here.sees '.') .missingVersionPoint
    let (minor, here) ← here.advance.takeVersionNumber
    return (.version major minor, here)
  else if name == ['T', 'A', 'G'] then
    let (handle, here) ← after.takeHandle
    here.require (isClosedHandle handle || handle == ['!']) .missingTagMark
    here.require (here.rest.head?.any isBlank) .missingBlank
    let (expansion, here) ← (here.skipWhile isBlank).takeTagUri
    here.require (startsBlank here.rest) .missingGap
    return (.tagHandle handle expansion, here)
  else here.snag .unknownDirective

/-- A directive with its line, from the percent sign on. -/
def Cursor.takeDirective (here : Cursor) : Except Snag (Token × Cursor) := do
  let (name, here) := here.advance.takeWhile isWordChar
  here.require (!name.isEmpty) .missingDirectiveName
  here.require (startsBlank here.rest) .badDirectiveName
  let (token, here) ← here.takeDirectiveValue name
  let here := here.skipWhile isBlank
  let here := if here.sees '#' then here.skipLine else here
  here.require (here.rest.head?.all isBreak) .missingLineEnd
  return (token, here.skipBreak)

end Stockroom.Yaml

import Stockroom.Text.Quoted
import Stockroom.Text.Numeral

/-!
JSON values and their written form.

A number is kept as its literal and a member of an object with the source its value was read from,
since some readers report that source. The writer escapes what a page could take for markup (angle
brackets, ampersands) and the two line separators that scripts cannot hold.

Main definitions: `Json`, `Json.render`.
-/
namespace Stockroom
set_option autoImplicit false

/-- A JSON value. Members keep their order, their key, the source of their value and the value. -/
inductive Json where
  | null
  | bool (b : Bool)
  | number (literal : List Char)
  | string (s : Text)
  | array (items : List Json)
  | object (members : List (Text × List Char × Json))
  deriving Inhabited, Repr

namespace Json

/-! ## Writing -/

/-- A character inside a written string. -/
def escapedChar (c : Char) : List Char :=
  let n := c.toNat
  if c == '"' || c == '\\' then ['\\', c]
  else if n == 8 then ['\\', 'b']
  else if n == 9 then ['\\', 't']
  else if n == 10 then ['\\', 'n']
  else if n == 12 then ['\\', 'f']
  else if n == 13 then ['\\', 'r']
  else if n < 0x20 || c == '<' || c == '>' || c == '&' || n == 0x2028 || n == 0x2029 then
    '\\' :: 'u' :: hexDigits 4 n
  else [c]

/-- A glyph inside a written string; stray bytes are written as the escape of U+FFFD. -/
def escapedGlyph : Glyph → List Char
  | .char c => escapedChar c
  | .stray _ => ['\\', 'u', 'f', 'f', 'f', 'd']

/-- A written string. -/
def renderString (t : Text) : List Char := '"' :: (t.flatMap escapedGlyph ++ ['"'])

mutual

/-- The written form of a value, without any space. -/
def render : Json → List Char
  | .null => ['n', 'u', 'l', 'l']
  | .bool true => ['t', 'r', 'u', 'e']
  | .bool false => ['f', 'a', 'l', 's', 'e']
  | .number literal => literal
  | .string s => renderString s
  | .array items => '[' :: (renderItems items ++ [']'])
  | .object members => '{' :: (renderMembers members ++ ['}'])

/-- Items with commas between them. -/
def renderItems : List Json → List Char
  | [] => []
  | [v] => render v
  | v :: rest => render v ++ ',' :: renderItems rest

/-- Members with commas between them. -/
def renderMembers : List (Text × List Char × Json) → List Char
  | [] => []
  | [(key, _, v)] => renderString key ++ ':' :: render v
  | (key, _, v) :: rest => renderString key ++ ':' :: (render v ++ ',' :: renderMembers rest)

end

/-! ## Building -/

/-- An integer. -/
def int (i : Int) : Json := .number (Text.ofInt i).toChars

/-- A member with the source that writing its value gives. -/
def member (key : String) (v : Json) : Text × List Char × Json := (key, v.render, v)

/-- A member that is left out when its text is empty. -/
def memberUnlessEmpty (key : String) (t : Text) : List (Text × List Char × Json) :=
  if t.isEmpty then [] else [member key (.string t)]

end Json
end Stockroom

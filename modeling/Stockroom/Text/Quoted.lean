import Stockroom.Text.Printable

/-!
Quoting a text for a message: in double quotes, with escapes for quotes, backslashes and everything
that would not show.

Main definitions: `Text.quoted`, `hexDigits`.
-/
namespace Stockroom
set_option autoImplicit false

/-- One hexadecimal digit in lower case. -/
def hexDigit (n : Nat) : Char :=
  if n < 10 then Char.ofNat (48 + n) else Char.ofNat (87 + n)

/-- The last `width` hexadecimal digits of a number. -/
def hexDigits : Nat → Nat → List Char
  | 0, _ => []
  | width + 1, n => hexDigits width (n / 16) ++ [hexDigit (n % 16)]

/-- The letter that escapes a control character. -/
def escapeLetter (c : Char) : Option Char :=
  match c.toNat with
  | 7 => some 'a'
  | 8 => some 'b'
  | 9 => some 't'
  | 10 => some 'n'
  | 11 => some 'v'
  | 12 => some 'f'
  | 13 => some 'r'
  | _ => none

/-- A character as it stands between quotes. -/
def quotedChar (c : Char) : List Char :=
  if c == '"' || c == '\\' then ['\\', c]
  else if isPrintable c then [c]
  else match escapeLetter c with
    | some letter => ['\\', letter]
    | none =>
      let n := c.toNat
      if n < 0x20 || n == 0x7F then '\\' :: 'x' :: hexDigits 2 n
      else if n < 0x10000 then '\\' :: 'u' :: hexDigits 4 n
      else '\\' :: 'U' :: hexDigits 8 n

/-- A glyph as it stands between quotes; a stray byte by its value. -/
def Glyph.quoted : Glyph → List Char
  | .char c => quotedChar c
  | .stray b => '\\' :: 'x' :: hexDigits 2 b.toNat

/-- A text in double quotes with escapes. -/
def Text.quoted (t : Text) : Text :=
  Text.ofChars ('"' :: (t.flatMap Glyph.quoted ++ ['"']))

end Stockroom

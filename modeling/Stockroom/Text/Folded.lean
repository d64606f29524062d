import Stockroom.Text.Blank
import Stockroom.Text.Canonical
import Stockroom.Text.Case
import Stockroom.Text.Marks

/-!
Words compared as people read them: without accents, in lower case, without space around them.
A text is decomposed canonically, its nonspacing marks are dropped, what is left is composed again
and put in lower case. `Numéro De Série` and `numero de serie` fold to the same text.

Main definition: `Text.folded`.
-/
namespace Stockroom
set_option autoImplicit false

/-- A text without its nonspacing marks. -/
def unaccented (cs : List Char) : List Char := composed ((decomposed cs).filter (!isMark ·))

/-- A text without accents, in lower case and without space at its ends. -/
def Text.folded (t : Text) : Text :=
  Text.trim (Text.ofChars ((unaccented t.toChars).map lowerChar))

end Stockroom

import Stockroom.Log.Entry
import Stockroom.Text.Blank

/-!
Hand-typed e-mail addresses. Separators typed in place of dots are mended, white space and dots next
to the at sign are dropped. What then looks like an address is taken; what has one at sign and a dot
after it is kept with a warning; anything else is dropped with one.

Main definitions: `tidyEmail`, `EmailVerdict`, `judgeEmail`, `cleanEmail`, `emailNotices`.
-/
namespace Stockroom
set_option autoImplicit false

def atSign : Glyph := .char '@'
def dot : Glyph := .char '.'

/-- Drops the dots that stand before an at sign. -/
def dropDotsBeforeAt : Text → Text
  | [] => []
  | g :: rest =>
    let rest := dropDotsBeforeAt rest
    if g = dot ∧ rest.head? = some atSign then rest else g :: rest

/-- Drops the dots that stand after an at sign. -/
def dropDotsAfterAt (t : Text) : Text := (dropDotsBeforeAt t.reverse).reverse

/-- A semicolon or a comma stands for a dot. -/
def mendSeparator (g : Glyph) : Glyph := if g = .char ';' ∨ g = .char ',' then dot else g

/-- The address with separators mended and space and superfluous dots dropped. Stray bytes that had
space between them may come to spell a character. -/
def tidyEmail (raw : Text) : Text :=
  dropDotsAfterAt (dropDotsBeforeAt (Text.squeeze (raw.trim.map mendSeparator)).rejoin)

/-- What becomes of a typed address. -/
inductive EmailVerdict where
  | taken (address : Text)
  | kept (address : Text)
  | dropped
  deriving DecidableEq, Repr

/-- Whether a dot stands inside a text, with something on either side. -/
def hasInnerDot (t : Text) : Bool := (t.drop 1).dropLast.contains dot

/-- Judges a tidied address. -/
def judgeEmail (t : Text) : EmailVerdict :=
  match Text.splitOn atSign t with
  | [mailbox, domain] =>
    if !mailbox.isEmpty && hasInnerDot domain then .taken t
    else if domain.contains dot then .kept t
    else .dropped
  | _ => if t.isEmpty then .taken t else .dropped

/-- The address that is stored. -/
def cleanEmail (raw : Text) : Text :=
  match judgeEmail (tidyEmail raw) with
  | .taken address | .kept address => address
  | .dropped => []

/-- What is said about an address. -/
def emailNotices (raw : Text) : List LogEntry :=
  match judgeEmail (tidyEmail raw) with
  | .taken _ => []
  | .kept address => [⟨.warn, "keeping malformed email", [("email", address)]⟩]
  | .dropped => [⟨.warn, "dropping invalid email", [("email", raw)]⟩]

end Stockroom

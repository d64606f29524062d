import Stockroom.Net.Url
import Stockroom.Text.Blank

/-!
Media types and other header values with parameters: a name, and after semicolons keys with values,
which may stand in quotes. A long value may be split over numbered keys, and a value in another
character set is escaped; both show by an asterisk in the key.

Main definitions: `MediaType`, `MediaType.parse`, `MediaType.parameter`.
-/
namespace Stockroom
set_option autoImplicit false

/-- A name in lower case, and the parameters as they were written, their keys in lower case. -/
structure MediaType where
  name : Text
  written : List (Text × Text) := []
  deriving DecidableEq, Repr

namespace MediaType

/-! ## Words -/

/-- The characters that part words from each other. -/
def separators : List Char := "()<>@,;:\\\"/[]?=".toList

/-- Whether a glyph may stand in a word. -/
def isWordGlyph : Glyph → Bool
  | .char c => ' ' < c && c < '\x7f' && !separators.contains c
  | .stray _ => false

def lowerGlyph : Glyph → Glyph
  | .char c => .char c.toLower
  | g => g

/-- The word at the start of a text, and what follows it. -/
def takeWord (t : Text) : Text × Text :=
  let word := t.takeWhile isWordGlyph
  (word, t.drop word.length)

/-- Whether a text is one word, or two with a slash between them. -/
def isName (t : Text) : Bool :=
  let (word, rest) := takeWord t
  !word.isEmpty &&
    match rest with
    | [] => true
    | .char '/' :: rest => !rest.isEmpty && rest.all isWordGlyph
    | _ => false

/-! ## Parameters -/

/-- What stands up to the closing quote, and the rest. A backslash escapes only what parts words. -/
def takeQuoted : Text → Option (Text × Text)
  | [] => none
  | .char '"' :: rest => some ([], rest)
  | .char '\\' :: .char c :: rest =>
    if separators.contains c then (takeQuoted rest).map fun (t, rest) => (.char c :: t, rest)
    else (takeQuoted (.char c :: rest)).map fun (t, rest) => (.char '\\' :: t, rest)
  | g :: rest =>
    if g = .char '\r' ∨ g = .char '\n' then none
    else (takeQuoted rest).map fun (t, rest) => (g :: t, rest)
termination_by t => t.length

/-- The value at the start of a text, which is a word or stands in quotes. -/
def takeValue : Text → Option (Text × Text)
  | .char '"' :: rest => takeQuoted rest
  | t =>
    let (word, rest) := takeWord t
    if word.isEmpty then none else some (word, rest)

/-- The parameter at the start of a text, from its semicolon on. -/
def takeParameter (t : Text) : Option ((Text × Text) × Text) := do
  let t ← Text.after? ";" t.trimStart
  let (key, t) := takeWord t.trimStart
  if key.isEmpty then none
  let t ← Text.after? "=" t.trimStart
  let (value, t) ← takeValue t.trimStart
  return ((key.map lowerGlyph, value), t)

/-- Whether a key came before with another value. -/
def clashes (read : List (Text × Text)) (p : Text × Text) : Bool :=
  read.any fun q => q.1 == p.1 && q.2 != p.2

/-- The parameters of a text. A semicolon at the end means nothing, and a key comes twice only with the
same value. -/
def readParameters (read : List (Text × Text)) : Nat → Text → Option (List (Text × Text))
  | 0, _ => some read.reverse
  | fuel + 1, t =>
    if t.isBlank then some read.reverse
    else match takeParameter t with
      | some (p, rest) => if clashes read p then none else readParameters (p :: read) fuel rest
      | none => if t.trim == Text.ofString ";" then some read.reverse else none

/-- Reads a header value. -/
def parse (t : Text) : Option MediaType := do
  let head : Text := t.takeWhile (· != .char ';')
  let name := Text.trim (head.map lowerGlyph)
  if !isName name then none
  return ⟨name, ← readParameters [] (t.length + 1) (t.drop head.length)⟩

/-! ## Split and escaped values -/

/-- A text with its percent signs decoded. -/
def unescape (t : Text) : Option Text := (percentDecode false t.bytes).map Text.ofBytes

/-- The character sets that are known. -/
def knownCharsets : List Text := ["us-ascii", "utf-8"]

/-- A value after its character set and language, which end with an apostrophe each. -/
def unescapeMarked (t : Text) : Option Text := do
  let (charset, t) ← Text.cut (.char '\'') t
  let (_, t) ← Text.cut (.char '\'') t
  if knownCharsets.contains (charset.map lowerGlyph) then unescape t else none

/-- The pieces of a value from the given number on, none if there is no such piece. -/
def pieces (m : MediaType) (key : Text) : Nat → Nat → Option Text
  | 0, _ => none
  | fuel + 1, n =>
    let numbered := key ++ "*" ++ Text.ofNat n
    let piece := match m.written.lookup numbered with
      | some value => some value
      | none => (m.written.lookup (numbered ++ "*")).map fun value =>
        ((if n = 0 then unescapeMarked value else unescape value).getD [])
    piece.map fun piece => piece ++ (m.pieces key fuel (n + 1)).getD []

/-- The value of a parameter. One that is escaped or split counts before one that is neither. -/
def parameter (m : MediaType) (key : Text) : Option Text :=
  let special := match m.written.lookup (key ++ "*") with
    | some value => unescapeMarked value
    | none => m.pieces key (m.written.length + 1) 0
  special.or (m.written.lookup key)

end MediaType
end Stockroom

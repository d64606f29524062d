import Stockroom.Net.MediaType

/-!
Forms of several parts. A line with a boundary comes before each part and, with two more hyphens, after
the last; a part has headers, an empty line and a content.

Main definitions: `Form.Part`, `Form.Part.ofHeaders`, `Form.read`, `Form.ofBody`.
-/
namespace Stockroom
set_option autoImplicit false

namespace Form

/-- A part with a name; a part that is a file has a file name too. -/
structure Part where
  name : Text
  file : Text
  content : Text
  deriving DecidableEq, Repr

/-! ## Lines -/

/-- The first line with its end, and the rest. -/
def takeLine (t : Text) : Text × Text :=
  let line : Text := t.takeWhile (· != .char '\n')
  (t.take (line.length + 1), t.drop (line.length + 1))

/-- A line without its end. -/
def withoutLineEnd (line : Text) : Text :=
  if line.getLast? == some (.char '\n') then
    let line := line.dropLast
    if line.getLast? == some (.char '\r') then line.dropLast else line
  else line

def isSpaceOrTab (g : Glyph) : Bool := g == .char ' ' || g == .char '\t'

/-- Without spaces and tabs at either end. -/
def trimSpaces (t : Text) : Text :=
  ((t.dropWhile isSpaceOrTab).reverse.dropWhile isSpaceOrTab).reverse

/-! ## Headers -/

/-- Headers by their names, in order. -/
abbrev Headers := List (Text × Text)

/-- What comes of reading headers: the text may end within them, or they may be malformed. -/
inductive HeaderBlock where
  | ended
  | malformed
  | read (headers : Headers) (rest : Text)
  deriving DecidableEq, Repr

/-- A header with the lines that go on after it, which start with a space or a tab. -/
def continued : Nat → Text → Text → Text × Text
  | 0, line, rest => (line, rest)
  | fuel + 1, line, rest =>
    if rest.head?.any isSpaceOrTab then
      let (more, rest) := takeLine (rest.dropWhile isSpaceOrTab)
      continued fuel (line ++ .char ' ' :: trimSpaces (withoutLineEnd more)) rest
    else (line, rest)

/-- The characters besides letters and digits that the name of a header may have. -/
def headerMarks : List Char := "!#$%&'*+-.^_|~".toList ++ [Char.ofNat 96, ' ']

/-- Whether a glyph may stand in the name of a header. -/
def isHeaderGlyph : Glyph → Bool
  | .char c => c.isAlphanum || headerMarks.contains c
  | .stray _ => false

/-- Whether a glyph may stand in the value of a header. -/
def isHeaderValueGlyph : Glyph → Bool
  | .char c => c == '\t' || (' ' ≤ c && c != '\x7f')
  | .stray _ => true

/-- A header from its line. -/
def headerOf (line : Text) : Option (Text × Text) := do
  let (name, value) ← Text.cut (.char ':') line
  if !name.isEmpty && name.all isHeaderGlyph && value.all isHeaderValueGlyph then
    return (name, value.dropWhile isSpaceOrTab)
  else none

/-- Headers up to an empty line. -/
def readHeaderLines (headers : Headers) : Nat → Text → HeaderBlock
  | 0, _ => .malformed
  | fuel + 1, t =>
    if t.isEmpty then .ended
    else
      let (line, rest) := takeLine t
      let line := withoutLineEnd line
      if line.isEmpty then .read headers.reverse rest
      else if !line.contains (.char ':') then .malformed
      else
        let (line, rest) := continued rest.length (trimSpaces line) rest
        match headerOf line with
        | some header => readHeaderLines (header :: headers) fuel rest
        | none => .malformed

/-- Headers up to an empty line. The first line starts with no space. -/
def readHeaders (t : Text) : HeaderBlock :=
  if t.head?.any isSpaceOrTab then .malformed else readHeaderLines [] (t.length + 1) t

/-- The first value of a header, whatever the case of its name. -/
def Headers.get (headers : Headers) (name : String) : Text :=
  ((headers.find? fun h => h.1.map MediaType.lowerGlyph == Text.ofString name.toLower).map
    (·.2)).getD []

/-- The name and the file name of a part by its headers; both are empty if it has none. -/
def Part.ofHeaders (headers : Headers) (content : Text) : Part :=
  match MediaType.parse (headers.get "Content-Disposition") with
  | some m =>
    let name := if m.name == Text.ofString "form-data" then (m.parameter "name").getD [] else []
    ⟨name, (m.parameter "filename").getD [], content⟩
  | none => ⟨[], [], content⟩

/-! ## Boundaries -/

/-- How the lines of a form end, and the two hyphens and the boundary that stand before its parts. -/
structure Boundary where
  lineEnd : Text := "\r\n"
  mark : Text
  deriving DecidableEq, Repr

namespace Boundary

/-- What follows the mark and further text on a line that starts with them, without spaces. -/
def after (b : Boundary) (more line : Text) : Option Text :=
  (Text.after? (b.mark ++ more) line).map fun rest => rest.dropWhile isSpaceOrTab

/-- Whether a line ends the form. -/
def isLast (b : Boundary) (line : Text) : Bool :=
  (b.after "--" line).any fun rest => rest.isEmpty || rest == b.lineEnd

/-- Whether a line starts a part. Before the first part it also tells how lines end. -/
def starts (b : Boundary) (first : Bool) (line : Text) : Option Boundary := do
  let rest ← b.after [] line
  let b := if first && rest == Text.ofString "\n" then { b with lineEnd := "\n" } else b
  if rest == b.lineEnd then some b else none

/-- Whether the mark is the whole of a boundary before the given text. -/
def ends : Text → Bool
  | [] => true
  | .char '-' :: .char '-' :: _ => true
  | g :: _ => isSpaceOrTab g || g == .char '\r' || g == .char '\n'

/-- The content of a part and what follows it, from the line end before the next boundary on; the
boundary may also stand at the very start. `skip` glyphs are passed over first. -/
def takeContent (b : Boundary) (first : Bool) : Nat → Text → Text → Option (Text × Text)
  | _, _, [] => none
  | skip + 1, done, g :: rest => b.takeContent false skip (g :: done) rest
  | 0, done, g :: rest =>
    let mark := if first && b.mark.isPrefixOf (g :: rest) then b.mark else b.lineEnd ++ b.mark
    match Text.after? mark (g :: rest) with
    | some after =>
      if ends after then some (done.reverse, g :: rest)
      else b.takeContent false (mark.length - 1) (g :: done) rest
    | none => b.takeContent false 0 (g :: done) rest

end Boundary

/-! ## Forms -/

/-- The greatest length in bytes of a line outside of parts. -/
def maxLine : Nat := 4096

/-- How many parts a form may have. -/
def maxParts : Nat := 1000

/-- The parts of a form from a line on. `first` says that no part came before; after an empty line, as
`blank` says, a boundary must follow. A text that ends within the headers of a part ends the form. -/
def readParts : Nat → Boundary → Bool → Bool → Text → Option (List Part)
  | 0, _, _, _, _ => none
  | fuel + 1, b, first, blank, t =>
    let (line, rest) := takeLine t
    if line.getLast? != some (.char '\n') then (if b.isLast line then some [] else none)
    else if maxLine < line.bytes.length then none
    else match b.starts first line with
      | some b =>
        match readHeaders rest with
        | .ended => some []
        | .malformed => none
        | .read headers rest => do
          let (content, rest) ← b.takeContent true 0 [] rest
          return Part.ofHeaders headers content :: (← readParts fuel b false false rest)
      | none =>
        if b.isLast line then some []
        else if blank then none
        else if first then readParts fuel b true false rest
        else if line == b.lineEnd then readParts fuel b false true rest
        else none

/-- The parts of a form with the given boundary. Parts without a name are left out. -/
def read (boundary body : Text) : Option (List Part) := do
  if boundary.isEmpty then none
  let parts ← readParts (body.length + 1) { mark := "--" ++ boundary } true false body
  if maxParts < parts.length then none
  return parts.filter fun p => !p.name.isEmpty

/-- The parts of a body, if its media type is that of a form. -/
def ofBody (media body : Text) : Option (List Part) := do
  let m ← MediaType.parse media
  if m.name != Text.ofString "multipart/form-data" then none
  read (← m.parameter "boundary") body

end Form
end Stockroom

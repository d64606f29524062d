import Stockroom.Yaml.Fault

/-!
Places in a text: what is left to read, with the line and the column it starts at. The line ends are
the carriage return, the line feed, both together, and three further characters; the blanks are the
space and the tab.

Main definitions:
* `Yaml.isBreak`, `Yaml.isBlank`: line ends and blanks;
* `Yaml.Place`, `Yaml.Cursor`: a place in a text, and what is left to read there;
* `Yaml.Snag`: a problem and the line where it was noticed;
* `Yaml.Cursor.advance`, `Yaml.Cursor.skipBreak`: the next character, and the next line;
* `Yaml.Cursor.skipComments`, `Yaml.Cursor.skipLineComment`: past comments.
-/
namespace Stockroom.Yaml
set_option autoImplicit false

/-! ## Characters -/

/-- Whether a character ends a line. -/
def isBreak (c : Char) : Bool :=
  c == '\n' || c == '\r' || c == '\u0085' || c == '\u2028' || c == '\u2029'

/-- Whether a character is a space or a tab. -/
def isBlank (c : Char) : Bool := c == ' ' || c == '\t'

/-- Whether a character may stand in a name of an anchor, a directive or a tag's handle. -/
def isWordChar (c : Char) : Bool :=
  ('0' ≤ c && c ≤ '9') || ('A' ≤ c && c ≤ 'Z') || ('a' ≤ c && c ≤ 'z') || c == '_' || c == '-'

/-- Whether a text starts with a blank or a line end, or is at its end. -/
def startsBlank : List Char → Bool
  | [] => true
  | c :: _ => isBlank c || isBreak c

/-! ## Places -/

/-- A place in a text. Lines and columns count from zero. -/
structure Place where
  line : Nat := 0
  column : Nat := 0
  deriving DecidableEq, Repr, Inhabited

/-- What is left to read at a place. The index counts characters from zero. -/
structure Cursor where
  rest : List Char
  /-- How many characters the whole text has. -/
  size : Nat
  index : Nat := 0
  line : Nat := 0
  column : Nat := 0
  /-- Whether a line has ended here and only blanks have come since. -/
  fresh : Bool := false

/-- A problem inside a token and the line where it was noticed. -/
structure Snag where
  problem : Problem
  line : Nat
  deriving DecidableEq, Repr

/-- The fault of a snag in a token that starts on the given line. -/
def Snag.fault (start : Nat) (snag : Snag) : Fault := .inToken start snag.line snag.problem

namespace Cursor

def place (here : Cursor) : Place := ⟨here.line, here.column⟩

/-- Notices a problem here. -/
def snag {α : Type} (here : Cursor) (problem : Problem) : Except Snag α :=
  .error ⟨problem, here.line⟩

/-- Notices a problem here unless a condition holds. -/
def require (here : Cursor) (ok : Bool) (problem : Problem) : Except Snag Unit :=
  if ok then .ok () else here.snag problem

/-- Whether the next character is the given one. -/
def sees (here : Cursor) (c : Char) : Bool := here.rest.head? == some c

/-- Whether the next character is a blank or ends a line. -/
def seesGap (here : Cursor) : Bool := !here.rest.isEmpty && startsBlank here.rest

/-- Past the next character, on the same line. -/
def advance (here : Cursor) : Cursor :=
  match here.rest with
  | [] => here
  | c :: rest =>
    { here with rest, index := here.index + 1, column := here.column + 1, fresh := here.fresh && isBlank c }

/-- Past the given number of characters, on the same line. -/
def forward : Nat → Cursor → Cursor
  | 0, here => here
  | n + 1, here => forward n here.advance

/-- At the start of the line after `used` characters. -/
def nextLine (here : Cursor) (used : Nat) : Cursor :=
  { here with
    rest := here.rest.drop used, index := here.index + used
    line := here.line + 1, column := 0, fresh := true }

/-- The next line end as it counts in a scalar, and the place after it. Two of the line ends stand for
themselves, the others for a line feed. -/
def takeBreak (here : Cursor) : List Char × Cursor :=
  match here.rest with
  | '\r' :: '\n' :: _ => (['\n'], here.nextLine 2)
  | c :: _ =>
    if c == '\u2028' || c == '\u2029' then ([c], here.nextLine 1)
    else if isBreak c then (['\n'], here.nextLine 1)
    else ([], here)
  | [] => ([], here)

/-- Past a line end, if there is one. -/
def skipBreak (here : Cursor) : Cursor := here.takeBreak.2

/-- The characters up to the first that fails a test, and the place there. -/
def takeWhile (here : Cursor) (p : Char → Bool) : List Char × Cursor :=
  let taken := here.rest.takeWhile p
  (taken, here.forward taken.length)

def skipWhile (here : Cursor) (p : Char → Bool) : Cursor := (here.takeWhile p).2

/-- At the end of the line. -/
def skipLine (here : Cursor) : Cursor := here.skipWhile fun c => !isBreak c

/-- Past the given number of characters, line ends among them. -/
def pass : Nat → Cursor → Cursor
  | 0, here => here
  | n + 1, here =>
    match here.rest with
    | '\r' :: '\n' :: _ => pass (n - 1) (here.nextLine 2)
    | c :: _ => pass n (if isBreak c then here.nextLine 1 else here.advance)
    | [] => here

/-- Whether a mark of a document's start or end stands at the start of the line. -/
def atDocumentMark (here : Cursor) : Bool :=
  here.column == 0 && (['-', '-', '-'].isPrefixOf here.rest || ['.', '.', '.'].isPrefixOf here.rest) &&
    startsBlank (here.rest.drop 3)

/-! ## Comments -/

/-- How far ahead a comment is looked for. -/
def commentReach : Nat := 512

/-- Past comments. Comments on lines that follow each other, with at most blank lines between them,
belong together, and tabs may stand before them. -/
def skipCommentsFrom : Nat → Cursor → Cursor
  | 0, here => here
  | fuel + 1, here =>
    let here := here.skipLine
    match here.rest with
    | c :: after =>
      if c == '\n' || c == '\r' then
        let gap := after.takeWhile fun c => isBlank c || c == '\n' || c == '\r'
        if gap.length + 1 < commentReach && (after.drop gap.length).head? == some '#' then
          skipCommentsFrom fuel (pass (gap.length + 1) here)
        else here
      else here
    | [] => here

/-- Past comments, which start here. -/
def skipComments (here : Cursor) : Cursor := skipCommentsFrom (here.size + 1) here

/-- Past a comment that follows on the same line. -/
def skipLineComment (here : Cursor) : Cursor :=
  let blanks := here.rest.takeWhile isBlank
  if !here.fresh && blanks.length < commentReach &&
      (here.rest.drop blanks.length).head? == some '#' then here.skipLine
  else here

end Cursor
end Stockroom.Yaml

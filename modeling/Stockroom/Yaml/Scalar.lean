import Stockroom.Json.Reader
import Stockroom.Yaml.Cursor

/-!
The scalars of YAML: plain, in quotes, and in blocks of lines. A line end inside a scalar is folded:
alone it counts as a space, and before empty lines it is dropped.

Main definitions:
* `Yaml.Gap`: the space between two words of a scalar;
* `Yaml.Cursor.takeQuoted`, `Yaml.Cursor.takePlain`, `Yaml.Cursor.takeBlock`: a scalar in each style.
-/
namespace Stockroom.Yaml
set_option autoImplicit false

/-! ## Folding -/

/-- The space between two words. -/
structure Gap where
  /-- Blanks before any line end. -/
  blanks : List Char := []
  /-- Whether a line ended. -/
  broken : Bool := false
  /-- The first line end; nothing when it was escaped. -/
  lineEnd : List Char := []
  /-- The line ends after the first. -/
  more : List Char := []

/-- What a gap counts as. -/
def Gap.text (g : Gap) : List Char :=
  if !g.broken then g.blanks
  else if g.lineEnd == ['\n'] then (if g.more.isEmpty then [' '] else g.more)
  else g.lineEnd ++ g.more

/-- Reads blanks and line ends. On a new line no tab may stand left of the given column. -/
def Cursor.takeGap (margin : Nat) : Nat → Gap → Cursor → Except Snag (Gap × Cursor)
  | 0, g, here => .ok (g, here)
  | fuel + 1, g, here =>
    match here.rest with
    | [] => .ok (g, here)
    | c :: _ =>
      if isBlank c then
        if !g.broken then takeGap margin fuel { g with blanks := g.blanks ++ [c] } here.advance
        else if c == '\t' && here.column < margin then here.snag .tabInScalar
        else takeGap margin fuel g here.advance
      else if isBreak c then
        let (lineEnd, here) := here.takeBreak
        if g.broken then takeGap margin fuel { g with more := g.more ++ lineEnd } here
        else takeGap margin fuel { broken := true, lineEnd } here
      else .ok (g, here)

/-! ## Quoted scalars -/

/-- What an escape in double quotes stands for. -/
def escapeChar (c : Char) : Option Char :=
  match c with
  | '0' => some (Char.ofNat 0)
  | 'a' => some (Char.ofNat 7)
  | 'b' => some (Char.ofNat 8)
  | 't' => some '\t'
  | '\t' => some '\t'
  | 'n' => some '\n'
  | 'v' => some (Char.ofNat 11)
  | 'f' => some (Char.ofNat 12)
  | 'r' => some '\r'
  | 'e' => some (Char.ofNat 27)
  | ' ' => some ' '
  | '"' => some '"'
  | '\'' => some '\''
  | '\\' => some '\\'
  | 'N' => some (Char.ofNat 0x85)
  | '_' => some (Char.ofNat 0xA0)
  | 'L' => some (Char.ofNat 0x2028)
  | 'P' => some (Char.ofNat 0x2029)
  | _ => none

/-- How many hexadecimal digits follow an escape. -/
def escapeWidth (c : Char) : Option Nat :=
  match c with
  | 'x' => some 2
  | 'u' => some 4
  | 'U' => some 8
  | _ => none

/-- The value of the given number of hexadecimal digits at the front of a text. -/
def hexNumber (width : Nat) (cs : List Char) : Option Nat := do
  let digits := cs.take width
  guard (digits.length = width)
  let values ← digits.mapM Json.hexValue
  return values.foldl (fun n d => n * 16 + d) 0

/-- The character that an escape stands for, the escape's letter first, and how many characters the
escape takes up after its backslash. -/
def readEscape (cs : List Char) : Except Problem (Char × Nat) :=
  match cs with
  | [] => .error .unknownEscape
  | e :: digits =>
    match escapeWidth e with
    | some width =>
      match hexNumber width digits with
      | none => .error .badDigits
      | some n =>
        if Json.isSurrogate n || 0x10FFFF < n then .error .badCodePoint
        else .ok (Char.ofNat n, width + 1)
    | none =>
      match escapeChar e with
      | some c => .ok (c, 1)
      | none => .error .unknownEscape

/-- A word of a quoted scalar: what stands up to the next blank, line end or closing quote. Says also
whether an escaped line end closed the word. -/
def Cursor.takeQuotedWord (double : Bool) : Nat → Cursor → Except Snag (List Char × Bool × Cursor)
  | 0, here => .ok ([], false, here)
  | fuel + 1, here =>
    let go (c : Char) (here : Cursor) : Except Snag (List Char × Bool × Cursor) :=
      (takeQuotedWord double fuel here).map fun (cs, more) => (c :: cs, more)
    match here.rest with
    | [] => .ok ([], false, here)
    | c :: after =>
      if isBlank c || isBreak c then .ok ([], false, here)
      else if !double && c == '\'' then
        if after.head? == some '\'' then go '\'' (here.forward 2) else .ok ([], false, here)
      else if double && c == '"' then .ok ([], false, here)
      else if double && c == '\\' then
        if after.head?.any isBreak then .ok ([], true, here.advance.skipBreak)
        else match readEscape after with
          | .error problem => here.snag problem
          | .ok (c, used) => go c (here.forward (used + 1))
      else go c here.advance

/-- The text of a quoted scalar after its opening quote. No mark of a document may stand in it. -/
def Cursor.takeQuotedText (double : Bool) : Nat → Cursor → Except Snag (List Char × Cursor)
  | 0, here => here.snag .endInQuotes
  | fuel + 1, here => do
    here.require (!here.atDocumentMark) .markInQuotes
    here.require (!here.rest.isEmpty) .endInQuotes
    let (word, joined, here) ← takeQuotedWord double (here.size + 1) here
    if here.sees (if double then '"' else '\'') then return (word, here.advance)
    let (gap, here) ← takeGap 0 here.size { broken := joined } here
    let (more, here) ← takeQuotedText double fuel here
    return (word ++ gap.text ++ more, here)

/-- A quoted scalar, from its opening quote on. -/
def Cursor.takeQuoted (here : Cursor) : Except Snag (List Char × Cursor) :=
  takeQuotedText (here.sees '"') (here.size + 1) here.advance

/-! ## Plain scalars -/

/-- The characters that end a plain scalar inside brackets or braces. -/
def flowEnds : List Char := [',', '?', '[', ']', '\x7b', '\x7d']

/-- A word of a plain scalar: what stands up to the next blank or line end, a colon before a blank,
or an end of a flow item. -/
def plainWord (flow : Bool) : List Char → List Char
  | [] => []
  | c :: rest =>
    if isBlank c || isBreak c || (c == ':' && startsBlank rest) || (flow && flowEnds.contains c) then []
    else c :: plainWord flow rest

/-- A plain scalar, which may go on over lines that are indented by the margin. Says also whether
the scalar ended with a line end. -/
def Cursor.takePlainText (flow : Bool) (margin : Nat) :
    Nat → Cursor → Except Snag (List Char × Bool × Cursor)
  | 0, here => .ok ([], false, here)
  | fuel + 1, here => do
    let word := plainWord flow here.rest
    let here := here.forward word.length
    if !here.seesGap then return (word, false, here)
    let (gap, here) ← takeGap margin here.size {} here
    if (!flow && here.column < margin) || here.atDocumentMark || here.sees '#' ||
        (plainWord flow here.rest).isEmpty then return (word, gap.broken, here)
    let (more, broken, here) ← takePlainText flow margin fuel here
    return (word ++ gap.text ++ more, broken, here)

def Cursor.takePlain (flow : Bool) (margin : Nat) (here : Cursor) :
    Except Snag (List Char × Bool × Cursor) :=
  takePlainText flow margin (here.size + 1) here

/-! ## Block scalars -/

/-- What happens to the line ends at the end of a block. -/
inductive Chomping where
  /-- All are dropped. -/
  | strip
  /-- The first is kept. -/
  | clip
  /-- All are kept. -/
  | keep
  deriving DecidableEq

def chompingOf (c : Char) : Option Chomping :=
  if c == '+' then some .keep else if c == '-' then some .strip else none

/-- The head of a block scalar: how it ends, and by how much it is indented. -/
structure BlockHead where
  chomping : Chomping := .clip
  increment : Option Nat := none

/-- A mark of chomping, if there is one. -/
def Cursor.takeChomping (here : Cursor) : Option Chomping × Cursor :=
  match here.rest.head?.bind chompingOf with
  | some chomping => (some chomping, here.advance)
  | none => (none, here)

/-- A digit that gives the indentation, if there is one. It is not zero. -/
def Cursor.takeIncrement (here : Cursor) : Except Snag (Option Nat × Cursor) :=
  match here.rest with
  | c :: _ =>
    if c == '0' then here.snag .zeroIndentation
    else if '1' ≤ c && c ≤ '9' then .ok (some (c.toNat - 48), here.advance)
    else .ok (none, here)
  | [] => .ok (none, here)

/-- The two marks in either order. -/
def Cursor.takeBlockHead (here : Cursor) : Except Snag (BlockHead × Cursor) := do
  match here.takeChomping with
  | (some chomping, here) =>
    let (increment, here) ← here.takeIncrement
    return (⟨chomping, increment⟩, here)
  | (none, here) =>
    let (increment, here) ← here.takeIncrement
    if increment.isNone then return ({}, here)
    let (chomping, here) := here.takeChomping
    return (⟨chomping.getD .clip, increment⟩, here)

/-- Reads empty lines and the indentation of the line after them: all its spaces, or as many as the
given indentation has. A tab must not stand there. Gives the line ends and the widest indentation. -/
def Cursor.takeEmptyLines (indent : Option Nat) :
    Nat → Nat → Cursor → Except Snag (List Char × Nat × Cursor)
  | 0, widest, here => .ok ([], widest, here)
  | fuel + 1, widest, here =>
    let spaces := (here.rest.takeWhile (· == ' ')).length
    let here := here.forward (match indent with | some n => min spaces (n - here.column) | none => spaces)
    let widest := max widest here.column
    let inside := match indent with | some n => here.column < n | none => true
    if inside && here.sees '\t' then here.snag .tabInIndentation
    else match here.rest with
      | [] => .ok ([], widest, here)
      | c :: _ =>
        if isBreak c then
          let (lineEnd, here) := here.takeBreak
          (takeEmptyLines indent fuel widest here).map fun (more, rest) => (lineEnd ++ more, rest)
        else .ok ([], widest, here)

/-- The lines of a block scalar; `lineEnd` and `empty` are the line ends just before, `indented` says
whether the line before began with a blank. Gives the text and the line ends at its end. -/
def Cursor.takeBlockLines (literal : Bool) (indent : Nat) :
    Nat → List Char → List Char → Bool → Cursor →
      Except Snag (List Char × List Char × List Char × Cursor)
  | 0, lineEnd, empty, _, here => .ok ([], lineEnd, empty, here)
  | fuel + 1, lineEnd, empty, indented, here => do
    if here.column != indent || here.rest.isEmpty then return ([], lineEnd, empty, here)
    let blank := (here.rest.head?.map isBlank).getD false
    let glue :=
      if !literal && !indented && !blank && lineEnd == ['\n'] then
        (if empty.isEmpty then [' '] else [])
      else lineEnd
    let (line, here) := here.takeWhile fun c => !isBreak c
    let (lineEnd, here) := here.takeBreak
    let (nextEmpty, _, here) ← takeEmptyLines (some indent) (here.size + 1) 0 here
    let (more, lineEnd, nextEmpty, here) ← takeBlockLines literal indent fuel lineEnd nextEmpty blank here
    return (glue ++ empty ++ line ++ more, lineEnd, nextEmpty, here)

/-- A block scalar, from its mark on: a bar keeps the lines, a greater-than sign folds them. -/
def Cursor.takeBlock (margin : Nat) (here : Cursor) : Except Snag (List Char × Cursor) := do
  let literal := here.sees '|'
  let (head, here) ← here.advance.takeBlockHead
  let here := here.skipWhile isBlank
  let here := if here.sees '#' then here.skipLine else here
  here.require (here.rest.head?.all isBreak) .missingLineEnd
  let here := here.skipBreak
  let indent := head.increment.map fun n => margin - 1 + n
  let (empty, widest, here) ← takeEmptyLines indent (here.size + 1) 0 here
  let indent := indent.getD (max (max widest margin) 1)
  let (text, lineEnd, empty, here) ←
    takeBlockLines literal indent (here.size + 1) [] empty false here
  return (text ++ (if head.chomping = .strip then [] else lineEnd) ++
    (if head.chomping = .keep then empty else []), here)

end Stockroom.Yaml

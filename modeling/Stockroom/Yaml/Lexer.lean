import Stockroom.Yaml.Property
import Stockroom.Yaml.Scalar

/-!
Finding tokens. The start of a block mapping shows only at the colon after its first key, so the place
where a key may have started is remembered, and the tokens of the key and of the mapping are put
before it when the colon comes. Tokens are looked for no further ahead than they are needed: two
tokens beyond the next one, and more only while the next one may turn out to be a key.

Main definitions:
* `Yaml.KeyPlace`: a place where a key may have started;
* `Yaml.Lexer`: the tokens found so far and what has to be known to find more;
* `Yaml.Lexer.fetch`: finds one more token;
* `Yaml.Lexer.ready`, `Yaml.Lexer.drop`: looks ahead, and takes the next token.
-/
namespace Stockroom.Yaml
set_option autoImplicit false

/-- A place where a key may have started. -/
structure KeyPlace where
  /-- Whether a key is still possible there. -/
  possible : Bool := false
  /-- Whether nothing but a key can stand there. -/
  required : Bool := false
  /-- The number of the token that starts there. -/
  token : Nat := 0
  index : Nat := 0
  place : Place := {}

/-- The tokens found so far. -/
structure Lexer where
  here : Cursor
  /-- Tokens that were found and not yet taken. -/
  queue : List PlacedToken := []
  /-- How many tokens were taken. -/
  taken : Nat := 0
  /-- The least column of what belongs to the innermost block: zero outside of all blocks. -/
  margin : Nat := 0
  /-- The margins of the blocks around, innermost first. -/
  outer : List Nat := []
  /-- How many blocks are open. -/
  blocks : Nat := 0
  /-- How many brackets and braces are open. -/
  depth : Nat := 0
  /-- The places of keys: one for each pair of brackets or braces around, and one outside of all. -/
  keys : List KeyPlace := [{}]
  /-- Tokens that may be keys, the latest first, with the number of brackets around the place of the
  key. -/
  awaited : List (Nat × Nat) := []
  /-- Whether a key may start here. -/
  keyAllowed : Bool := true
  /-- Whether the text opens with a second byte order mark, by which every line loses its first
  character. -/
  marked : Bool := false

namespace Lexer

/-! ## The queue -/

/-- Whether brackets or braces are open. -/
def inFlow (l : Lexer) : Bool := 0 < l.depth

/-- The number of the next token. -/
def number (l : Lexer) : Nat := l.taken + l.queue.length

/-- Adds a token that starts at the given place. -/
def push (l : Lexer) (t : Token) (place : Place) : Lexer := { l with queue := l.queue ++ [⟨t, place⟩] }

/-- Puts a token before the token of the given number; at the end, if that one was taken. -/
def insert (l : Lexer) (number : Nat) (t : Token) (place : Place) : Lexer :=
  if number < l.taken then l.push t place
  else
    let i := number - l.taken
    { l with queue := l.queue.take i ++ ⟨t, place⟩ :: l.queue.drop i }

/-- A problem here, in a token that starts at the given place. -/
def refuse {α : Type} (l : Lexer) (start : Place) (problem : Problem) : Except Fault α :=
  .error (.inToken start.line l.here.line problem)

/-- A problem here unless a condition holds. -/
def require (l : Lexer) (ok : Bool) (problem : Problem) : Except Fault Unit :=
  if ok then .ok () else l.refuse l.here.place problem

/-- What was read of a token that starts here. -/
def scanned {α : Type} (l : Lexer) (result : Except Snag α) : Except Fault α :=
  result.mapError (Snag.fault l.here.line)

/-! ## Places of keys -/

/-- The tokens that may be keys without the one of the given number, in falling order of numbers. -/
def withoutToken (token : Nat) : List (Nat × Nat) → List (Nat × Nat)
  | [] => []
  | e :: rest =>
    if e.1 == token then rest
    else if e.1 < token then e :: rest
    else e :: withoutToken token rest

/-- Forgets that a token may be a key. -/
def unawait (l : Lexer) (token : Nat) : Lexer := { l with awaited := withoutToken token l.awaited }

/-- Gives up the innermost place of a key, where no key may be required. -/
def dropKey (l : Lexer) : Except Fault Lexer :=
  match l.keys with
  | [] => .ok l
  | k :: outer =>
    if !k.possible then .ok l
    else if k.required then l.refuse k.place .missingColon
    else .ok ({ l with keys := { k with possible := false } :: outer }.unawait k.token)

/-- Remembers that a key may start here. -/
def saveKey (l : Lexer) : Except Fault Lexer :=
  if !l.keyAllowed then .ok l
  else do
    let place : KeyPlace := {
      possible := true
      required := !l.inFlow && l.margin == l.here.column + 1
      token := l.number
      index := l.here.index
      place := l.here.place }
    let l ← l.dropKey
    let l := l.unawait place.token
    return { l with
      keys := place :: l.keys.drop 1
      awaited := (place.token, l.depth) :: l.awaited }

/-- How far behind a key its colon may be. -/
def keyReach : Nat := 1024

/-- Whether a key is still possible at the place with the given number of brackets around. It must
end on the line where it starts. -/
def keyStands (l : Lexer) (depth : Nat) : Except Fault (Bool × Lexer) :=
  let i := l.depth - depth
  match l.keys[i]? with
  | none => .ok (false, l)
  | some k =>
    if !k.possible then .ok (false, l)
    else if k.place.line < l.here.line || k.index + keyReach < l.here.index then
      if k.required then l.refuse k.place .missingColon
      else .ok (false, { l with keys := l.keys.set i { k with possible := false } })
    else .ok (true, l)

/-- Opens brackets or braces. -/
def enterFlow (l : Lexer) : Except Fault Lexer := do
  l.require (l.depth < maxDepth) .tooDeep
  return { l with
    depth := l.depth + 1
    keys := { token := l.number, place := l.here.place } :: l.keys }

/-- Closes brackets or braces, if any are open. -/
def leaveFlow (l : Lexer) : Lexer :=
  match l.keys with
  | k :: next :: outer => { l with depth := l.depth - 1, keys := next :: outer }.unawait k.token
  | _ => l

/-! ## Blocks -/

/-- Opens a block at a place that lies within the block around. -/
def openBlock (l : Lexer) (place : Place) (number : Nat) (t : Token) : Except Fault Lexer :=
  if l.inFlow || place.column < l.margin then .ok l
  else if maxDepth ≤ l.blocks then l.refuse ((l.keys.head?.map KeyPlace.place).getD {}) .tooDeep
  else .ok ({ l with
    outer := l.margin :: l.outer
    margin := place.column + 1
    blocks := l.blocks + 1 }.insert number t place)

/-- The margin after closing all blocks with a margin beyond a limit, the margins around it, and how
many blocks were closed. -/
def closedMargins (limit : Nat) : Nat → List Nat → Nat × List Nat × Nat
  | margin, [] => (margin, [], 0)
  | margin, next :: outer =>
    if limit < margin then
      let (margin, outer, n) := closedMargins limit next outer
      (margin, outer, n + 1)
    else (margin, next :: outer, 0)

/-- Closes all blocks with a margin beyond a limit; they end at the given place. -/
def closeBlocks (l : Lexer) (limit : Nat) (place : Place) : Lexer :=
  if l.inFlow then l
  else
    let (margin, outer, n) := closedMargins limit l.margin l.outer
    { l with
      margin, outer
      blocks := l.blocks - n
      queue := l.queue ++ List.replicate n ⟨.blockEnd, place⟩ }

/-! ## Space -/

/-- Passes over space, comments and line ends. A tab counts as space where no key may start. -/
def skipSpace : Nat → Lexer → Lexer
  | 0, l => l
  | fuel + 1, l =>
    let here := l.here
    let here := if here.column == 0 && l.marked && 4 ≤ here.rest.length then here.advance else here
    let here := here.skipWhile fun c => c == ' ' || ((l.inFlow || !l.keyAllowed) && c == '\t')
    let here := if here.sees '#' then here.skipComments else here
    match here.rest with
    | [] => { l with here }
    | c :: _ =>
      if isBreak c then
        skipSpace fuel { l with here := here.skipBreak, keyAllowed := l.keyAllowed || !l.inFlow }
      else { l with here }

/-! ## Tokens -/

/-- The end of the text, which also ends the line. -/
def fetchEnd (l : Lexer) : Except Fault Lexer := do
  let here := if l.here.column == 0 then l.here else l.here.nextLine 0
  let l ← ({ l with here }.closeBlocks 0 here.place).dropKey
  return { l with keyAllowed := false }.push .streamEnd here.place

def fetchDirective (l : Lexer) : Except Fault Lexer := do
  let l ← (l.closeBlocks 0 l.here.place).dropKey
  let (token, here) ← l.scanned l.here.takeDirective
  return { l with here, keyAllowed := false }.push token l.here.place

def fetchDocumentMark (l : Lexer) : Except Fault Lexer := do
  let token := if l.here.sees '-' then Token.documentStart else Token.documentEnd
  let l ← (l.closeBlocks 0 l.here.place).dropKey
  return { l with here := l.here.forward 3, keyAllowed := false }.push token l.here.place

/-- Passes over the character of a token that is only this character. -/
def pushMark (l : Lexer) (t : Token) (keyAllowed : Bool) : Lexer :=
  { l with here := l.here.advance, keyAllowed }.push t l.here.place

def fetchFlowStart (l : Lexer) (t : Token) : Except Fault Lexer := do
  let l ← (← l.saveKey).enterFlow
  return l.pushMark t true

def fetchFlowEnd (l : Lexer) (t : Token) : Except Fault Lexer := do
  let l := (← l.dropKey).leaveFlow
  return l.pushMark t false

def fetchFlowEntry (l : Lexer) : Except Fault Lexer := do
  let l ← l.dropKey
  return l.pushMark .flowEntry true

def fetchBlockEntry (l : Lexer) : Except Fault Lexer := do
  l.require (l.inFlow || l.keyAllowed) .misplacedEntry
  let l ← (← l.openBlock l.here.place l.number .blockSequenceStart).dropKey
  return l.pushMark .blockEntry true

def fetchKey (l : Lexer) : Except Fault Lexer := do
  l.require (l.inFlow || l.keyAllowed) .misplacedKey
  let l ← (← l.openBlock l.here.place l.number .blockMappingStart).dropKey
  return l.pushMark .key (!l.inFlow)

/-- A colon, either after a key on the same line or after one with a mark of its own. -/
def fetchValue (l : Lexer) : Except Fault Lexer := do
  let (stands, l) ← l.keyStands l.depth
  match l.keys, stands with
  | k :: outer, true =>
    let l ← (l.insert k.token .key k.place).openBlock k.place k.token .blockMappingStart
    let l := { l with keys := { k with possible := false } :: outer }.unawait k.token
    return l.pushMark .value false
  | _, _ =>
    l.require (l.inFlow || l.keyAllowed) .misplacedValue
    let l ← l.openBlock l.here.place l.number .blockMappingStart
    return l.pushMark .value (!l.inFlow)

def fetchAnchor (l : Lexer) : Except Fault Lexer := do
  let l ← l.saveKey
  let (name, after) ← l.scanned l.here.takeAnchor
  return { l with here := after, keyAllowed := false }.push
    (if l.here.sees '*' then .alias name else .anchor name) l.here.place

def fetchTag (l : Lexer) : Except Fault Lexer := do
  let l ← l.saveKey
  let (handle, suffix, here) ← l.scanned l.here.takeTag
  return { l with here, keyAllowed := false }.push (.tag handle suffix) l.here.place

def fetchBlockScalar (l : Lexer) : Except Fault Lexer := do
  let l ← l.dropKey
  let (text, here) ← l.scanned (l.here.takeBlock l.margin)
  return { l with here, keyAllowed := true }.push (.scalar text false) l.here.place

def fetchQuoted (l : Lexer) : Except Fault Lexer := do
  let l ← l.saveKey
  let (text, here) ← l.scanned l.here.takeQuoted
  return { l with here, keyAllowed := false }.push (.scalar text false) l.here.place

def fetchPlain (l : Lexer) : Except Fault Lexer := do
  let l ← l.saveKey
  let (text, broken, here) ← l.scanned (l.here.takePlain l.inFlow l.margin)
  return { l with here, keyAllowed := broken }.push (.scalar text true) l.here.place

/-- The characters that no plain scalar starts with. -/
def indicators : List Char :=
  ['-', '?', ':', ',', '[', ']', '\x7b', '\x7d', '#', '&', '*', '!', '|', '>', '\'', '"', '%', '@',
    Char.ofNat 96]

/-- Whether a plain scalar starts with the given character before the given text. -/
def startsPlain (flow : Bool) (c : Char) (after : List Char) : Bool :=
  !(isBlank c || indicators.contains c) ||
    (c == '-' && !after.head?.any isBlank) ||
    (!flow && (c == '?' || c == ':') && !startsBlank after)

/-- The token that starts with a character. -/
def fetchToken (l : Lexer) (c : Char) (after : List Char) : Except Fault Lexer :=
  if c == '[' then l.fetchFlowStart .flowSequenceStart
  else if c == '\x7b' then l.fetchFlowStart .flowMappingStart
  else if c == ']' then l.fetchFlowEnd .flowSequenceEnd
  else if c == '\x7d' then l.fetchFlowEnd .flowMappingEnd
  else if c == ',' then l.fetchFlowEntry
  else if c == '-' && startsBlank after then l.fetchBlockEntry
  else if c == '?' && (l.inFlow || startsBlank after) then l.fetchKey
  else if c == ':' && (l.inFlow || startsBlank after) then l.fetchValue
  else if c == '*' || c == '&' then l.fetchAnchor
  else if c == '!' then l.fetchTag
  else if (c == '|' || c == '>') && !l.inFlow then l.fetchBlockScalar
  else if c == '\'' || c == '"' then l.fetchQuoted
  else if startsPlain l.inFlow c after then l.fetchPlain
  else l.refuse l.here.place .strayCharacter

/-- Finds one more token, and passes over a comment after it on its line. -/
def fetch (l : Lexer) : Except Fault Lexer :=
  let start := l.here.place
  let l := skipSpace (l.here.size + 1) l
  let l := l.closeBlocks (l.here.column + 1) start
  match l.here.rest with
  | [] => l.fetchEnd
  | c :: after =>
    if l.here.column == 0 && c == '%' then l.fetchDirective
    else if l.here.atDocumentMark then l.fetchDocumentMark
    else (l.fetchToken c after).map fun l =>
      if (l.queue.getLast?.map PlacedToken.token) == some .blockEntry then l
      else { l with here := l.here.skipLineComment }

/-! ## Looking ahead -/

/-- How many tokens are found before the next one is taken. -/
def lookahead : Nat := 3

def readyWithin : Nat → Lexer → Except Fault Lexer
  | 0, l => .ok l
  | fuel + 1, l =>
    if l.queue.length < lookahead then l.fetch.bind (readyWithin fuel)
    else match l.awaited.lookup l.taken with
      | none => .ok l
      | some depth =>
        match l.keyStands depth with
        | .error fault => .error fault
        | .ok (false, l) => .ok l
        | .ok (true, l) => l.fetch.bind (readyWithin fuel)

/-- Finds as many tokens as must be known before the next one is looked at. -/
def ready (l : Lexer) : Except Fault Lexer := readyWithin (l.here.size + 2 * lookahead) l

/-- Takes the next token. -/
def drop (l : Lexer) : Lexer := { l with queue := l.queue.drop 1, taken := l.taken + 1 }

/-- A text with nothing read. -/
def ofText (cs : List Char) : Lexer :=
  { here := { rest := cs, size := cs.length }, marked := cs.head? == some '\uFEFF' }

end Lexer
end Stockroom.Yaml

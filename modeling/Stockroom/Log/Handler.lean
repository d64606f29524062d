import Stockroom.Log.Entry
import Stockroom.Text.Blank
import Stockroom.Text.Numeral
import Stockroom.Text.Quoted

/-!
Writing the log. Entries below a level are left out; errors go to one stream and all else to
another. An entry is a line of keys and values, quoted where they could be misread.

Main definitions: `LogLevel.parse`, `logText`, `LogHandler`, `LogHandler.line`, `LogHandler.write`.
-/
namespace Stockroom
set_option autoImplicit false

/-! ## Levels by name -/

/-- An upper-case letter of a level's name; the dotless i is a lower-case form of the same letter. -/
def levelLetter (c : Char) : Char := if c.toNat = 0x131 then 'I' else c.toUpper

namespace LogLevel

/-- The level of a name. -/
def ofName (cs : List Char) : Option LogLevel :=
  match String.ofList (cs.map levelLetter) with
  | "DEBUG" => some debug
  | "INFO" => some info
  | "WARN" => some warn
  | "ERROR" => some error
  | _ => none

/-- The level of a name that a signed distance may follow. -/
def parse (t : Text) : Option LogLevel :=
  let cs := t.toChars
  let isSign (c : Char) : Bool := c == '+' || c == '-'
  match cs.dropWhile (!isSign ·) with
  | [] => ofName cs
  | distance => do
    let d ← readInt64 distance
    let level ← ofName (cs.takeWhile (!isSign ·))
    return wrapInt64 (level + d)

/-- What is said of a text that names no level. -/
def unknownMessage (t : Text) : Text := "invalid log level " ++ t.quoted

end LogLevel

/-! ## Lines -/

/-- Whether a glyph keeps a text from standing without quotes. -/
def needsQuotes : Glyph → Bool
  | .stray _ => true
  | .char c =>
    let n := c.toNat
    if n < 0x80 then c == ' ' || c == '=' || c == '"' || n < 0x20
    else isBlankChar c || !isPrintable c || n == 0xFFFD

/-- Whether a text cannot stand without quotes. -/
def mustQuote (t : Text) : Bool := t.isEmpty || t.any needsQuotes

/-- A key or a value as it stands in a line. -/
def logText (t : Text) : Text := if mustQuote t then t.quoted else t

/-- A key and a value. -/
def logPair (key value : Text) : Text := logText key ++ [.char '='] ++ logText value

/-- What is written: the least level, the time if there is one, attributes of every entry, and the
group that the keys of each entry's own attributes belong to. -/
structure LogHandler where
  least : LogLevel
  time : Text := []
  attributes : List (Text × Text) := []
  group : Text := []
  deriving Repr

namespace LogHandler

def isEnabled (h : LogHandler) (level : LogLevel) : Bool := h.least ≤ level

/-- A key as it stands in a line, with the group before it. Both stand in quotes if either must. -/
def groupedKey (h : LogHandler) (key : Text) : Text :=
  if h.group.isEmpty then logText key
  else
    let grouped := h.group ++ [.char '.'] ++ key
    if mustQuote h.group || mustQuote key then grouped.quoted else grouped

/-- The line of an entry. -/
def line (h : LogHandler) (e : LogEntry) : Text :=
  Text.join [.char ' '] ((if h.time.isEmpty then [] else [logPair "time" h.time]) ++
    [logPair "level" e.level.name, logPair "msg" e.message] ++
    h.attributes.map (fun (k, v) => logPair k v) ++
    e.attributes.map (fun (k, v) => h.groupedKey k ++ [.char '='] ++ logText v)) ++ [.char '\n']

/-- What is written to either stream. -/
structure Output where
  standard : Text := []
  error : Text := []
  deriving DecidableEq, Repr

/-- Writes an entry. -/
def write (h : LogHandler) (out : Output) (e : LogEntry) : Output :=
  if !h.isEnabled e.level then out
  else if LogLevel.error ≤ e.level then { out with error := out.error ++ h.line e }
  else { out with standard := out.standard ++ h.line e }

def writeAll (h : LogHandler) (entries : List LogEntry) : Output := entries.foldl h.write {}

end LogHandler
end Stockroom

import Stockroom.Text.Blank
import Stockroom.Text.Numeral
import Stockroom.Text.Quoted

/-!
Files of environment variables. A statement is a name, an equals sign or a colon, and a value: up to
the end of the line, or in quotes. Values without quotes and in double quotes may refer to variables
that stand before them in the file.

Main definitions: `Environment`, `EnvFileError`, `EnvFile.parse`, `EnvFile.load`, `EnvFile.loadAll`.
-/
namespace Stockroom
set_option autoImplicit false

/-- The variables of a process. -/
abbrev Environment := List (Text × Text)

namespace Environment

/-- The value of a variable, empty when it is not set. -/
def get (env : Environment) (name : Text) : Text := (env.lookup name).getD []

/-- Sets a variable, in its place if it was set before. -/
def set (env : Environment) (name value : Text) : Environment :=
  if (env.lookup name).isSome then
    env.map fun e => if e.1 = name then (name, value) else e
  else env ++ [(name, value)]

end Environment

/-- Why a file is malformed. -/
inductive EnvFileError where
  /-- A byte that no name has, and the text it was found in. -/
  | badNameByte (byte : UInt8) (near : Text)
  | nameMissing
  | unclosedQuote (value : Text)
  deriving DecidableEq, Repr

def EnvFileError.message : EnvFileError → Text
  | .badNameByte byte near =>
    "unexpected character " ++ Text.quoted [.char (Char.ofNat byte.toNat)] ++
      " in variable name near " ++ near.quoted
  | .nameMissing => "zero length string"
  | .unclosedQuote value => "unterminated quoted value " ++ value

namespace EnvFile

def newline : Glyph := .char '\n'

/-- Space within a line. -/
def isLineSpace : Glyph → Bool
  | .char c =>
    let n := c.toNat
    n == 9 || n == 11 || n == 12 || n == 13 || n == 32 || n == 0x85 || n == 0xA0
  | .stray _ => false

/-- Pairs of a carriage return and a line feed as single line feeds. -/
def unifyLines : Text → Text
  | [] => []
  | [g] => [g]
  | g :: h :: rest =>
    if g = .char '\r' ∧ h = newline then unifyLines (h :: rest) else g :: unifyLines (h :: rest)

/-! ## Names -/

/-- Whether a byte may stand in a name, or is space between its parts. A byte beyond ASCII is taken
for the character with its number. -/
def isNameByte (b : UInt8) : Bool :=
  let n := b.toNat
  (48 ≤ n && n ≤ 57) || (65 ≤ n && n ≤ 90) || (97 ≤ n && n ≤ 122) || n == 95 || n == 46 ||
    n == 9 || n == 11 || n == 12 || n == 13 || n == 32 || n == 0x85 || n == 0xA0 || n == 0xAA ||
    n == 0xB2 || n == 0xB3 || n == 0xB5 || n == 0xB9 || n == 0xBA || (0xBC ≤ n && n ≤ 0xBE) ||
    (0xC0 ≤ n && n ≠ 0xD7 && n ≠ 0xF7)

/-- The name up to an equals sign or a colon, and what follows it; without either sign there is no
name and nothing is used up. No other byte may stand in between. -/
def takeName (whole sofar : Text) : Text → Except EnvFileError (Text × Text)
  | [] => if whole.isEmpty then .error .nameMissing else .ok ([], whole)
  | g :: rest =>
    if g = .char '=' ∨ g = .char ':' then .ok (sofar.reverse, rest)
    else match g.bytes.find? (!isNameByte ·) with
      | none => takeName whole (g :: sofar) rest
      | some byte => .error (.badNameByte byte whole)

/-- A statement without the word that exports it. -/
def dropExport (t : Text) : Text :=
  match Text.after? "export" t with
  | some (g :: rest) => if isLineSpace g then rest.dropWhile isLineSpace else t
  | _ => t

/-! ## Values -/

/-- The length of a line before its last number sign that follows space. -/
def commentStart (last : Option Glyph) : Text → Option Nat
  | [] => none
  | g :: rest =>
    match commentStart (some g) rest with
    | some n => some (n + 1)
    | none => if g = .char '#' && last.any isLineSpace then some 0 else none

/-- The part of a line before its last number sign that follows space. -/
def beforeComment (line : Text) : Text :=
  match commentStart none line with
  | some n => line.take n
  | none => line

def trimLine (t : Text) : Text :=
  ((t.dropWhile isLineSpace).reverse.dropWhile isLineSpace).reverse

/-- Escapes of line ends become line ends; every other escape stays. -/
def expandEscapes : Text → Text
  | [] => []
  | [g] => [g]
  | g :: h :: rest =>
    if g = .char '\\' then
      if h = .char 'n' then newline :: expandEscapes rest
      else if h = .char 'r' then .char '\r' :: expandEscapes rest
      else if h = newline then g :: expandEscapes (h :: rest)
      else g :: h :: expandEscapes rest
    else g :: expandEscapes (h :: rest)

/-- Drops the backslash before anything but a dollar sign. -/
def dropEscapes : Text → Text
  | [] => []
  | [g] => [g]
  | g :: h :: rest =>
    if g = .char '\\' ∧ h ≠ .char '$' then h :: dropEscapes rest else g :: dropEscapes (h :: rest)

def isVariableGlyph : Glyph → Bool
  | .char c => ('A' ≤ c && c ≤ 'Z') || ('0' ≤ c && c ≤ '9') || c == '_'
  | .stray _ => false

/-- Splits off a glyph if the text starts with it. -/
def takeGlyph (g : Glyph) (t : Text) : Text × Text :=
  if t.head? = some g then ([g], t.drop 1) else ([], t)

/-- The reference after a dollar sign: its source, the name in it, and what follows. -/
def takeReference (t : Text) : Text × Text × Text :=
  let (paren, t) := takeGlyph (.char '(') t
  let (opening, t) := takeGlyph (.char '\x7b') t
  let name := t.takeWhile isVariableGlyph
  let (closing, t) := takeGlyph (.char '\x7d') (t.dropWhile isVariableGlyph)
  (paren ++ opening ++ name ++ closing, name, t)

/-- Replaces references by values; one after a backslash loses the backslash instead. -/
def expand (value : Text → Text) : Nat → Text → Text
  | 0, t => t
  | _, [] => []
  | fuel + 1, g :: rest =>
    if g = .char '\\' ∧ rest.head? = some (.char '$') then
      let (source, _, t) := takeReference (rest.drop 1)
      .char '$' :: (source ++ expand value fuel t)
    else if g = .char '$' then
      let (source, name, t) := takeReference rest
      (if name.isEmpty then g :: source else value name) ++ expand value fuel t
    else g :: expand value fuel rest

/-- The text up to a quote that no backslash precedes, and what follows the quote. -/
def takeQuoted (quote last : Glyph) : Text → Option (Text × Text)
  | [] => none
  | g :: rest =>
    if g = quote ∧ last ≠ .char '\\' then some ([], rest)
    else (takeQuoted quote g rest).map fun (t, after) => (g :: t, after)

/-- A value at the front of a text, and what follows it. -/
def takeValue (value : Text → Text) (t : Text) : Except EnvFileError (Text × Text) :=
  match t with
  | [] => .ok ([], [])
  | g :: rest =>
    if g = .char '"' ∨ g = .char '\'' then
      match takeQuoted g g rest with
      | none => .error (.unclosedQuote (t.takeWhile (· != newline)))
      | some (quoted, after) =>
        let bare := ((quoted.reverse.dropWhile (· = g)).reverse).dropWhile (· = g)
        if g = .char '"' then
          let v := dropEscapes (expandEscapes bare)
          .ok (expand value v.length v, after)
        else .ok (bare, after)
    else
      let isEnd (g : Glyph) : Bool := g = newline || g = .char '\r'
      let line := t.takeWhile (!isEnd ·)
      let v := trimLine (beforeComment line)
      .ok (expand value v.length v, t.dropWhile (!isEnd ·))

/-! ## Files -/

/-- The first statement: without blank lines and comments before it. `comment` says that one is being
passed over. -/
def statementStart (comment : Bool) : Text → Text
  | [] => []
  | g :: rest =>
    if comment then statementStart (g ≠ newline) rest
    else if g.isBlank then statementStart false rest
    else if g = .char '#' then statementStart true rest
    else g :: rest

/-- Reads statements one after the other; later ones replace earlier ones. -/
def parseFrom : Nat → Environment → Text → Except EnvFileError Environment
  | 0, vars, _ => .ok vars
  | fuel + 1, vars, t =>
    match statementStart false t with
    | [] => .ok vars
    | start => do
      let start := dropExport (start.dropWhile isLineSpace)
      let (name, after) ← takeName start [] start
      let (v, after) ← takeValue vars.get (after.dropWhile isLineSpace)
      parseFrom fuel (vars.set name.trimEnd v) after

/-- The variables of a file. -/
def parse (t : Text) : Except EnvFileError Environment :=
  let t := unifyLines t
  parseFrom (t.length + 1) [] t

/-- Whether a process can have such a variable. -/
def isSettable (name value : Text) : Bool :=
  !name.isEmpty && !name.contains (.char (Char.ofNat 0)) && !value.contains (.char (Char.ofNat 0))

/-- Adds the variables of a file that are not set yet. -/
def load (env : Environment) (t : Text) : Except EnvFileError Environment :=
  (parse t).map fun vars =>
    vars.foldl (fun acc (name, value) =>
      if (env.lookup name).isNone && isSettable name value then acc.set name value else acc) env

/-- Loads files in order, passing over absent ones; stops at one that is malformed. Says whether all
went well. -/
def loadAll (env : Environment) : List (Option Text) → Environment × Bool
  | [] => (env, true)
  | none :: rest => loadAll env rest
  | some t :: rest =>
    match load env t with
    | .ok env => loadAll env rest
    | .error _ => (env, false)

end EnvFile
end Stockroom

import Stockroom.Json.Basic

/-!
Reading JSON values. A reader takes the characters ahead of it and gives back the value it found
with the characters after it. Two halves of a surrogate pair are joined, a half that stands alone
becomes U+FFFD, and nesting ends at ten thousand levels.

Main definitions:
* `Json.readFirst`: the first value of a text, whatever follows it;
* `Json.read`: the one value of a text.
-/
namespace Stockroom
set_option autoImplicit false

namespace Json

/-! ## White space and numbers -/

def isSpace (c : Char) : Bool := c == ' ' || c == '\t' || c == '\n' || c == '\r'

def skipSpace (cs : List Char) : List Char := cs.dropWhile isSpace

def isDigit (c : Char) : Bool := '0' ≤ c && c ≤ '9'

/-- A run of one or more digits and what follows it. -/
def readDigits (cs : List Char) : Option (List Char × List Char) :=
  match cs.takeWhile isDigit with
  | [] => none
  | ds => some (ds, cs.dropWhile isDigit)

/-- The digits before the point: a zero alone, or digits that do not start with one. -/
def readWhole : List Char → Option (List Char × List Char)
  | '0' :: rest => some (['0'], rest)
  | cs => readDigits cs

/-- A point and digits, or nothing. -/
def readFraction : List Char → Option (List Char × List Char)
  | '.' :: rest => (readDigits rest).map fun (ds, after) => ('.' :: ds, after)
  | cs => some ([], cs)

/-- The digits of an exponent with their sign. -/
def readSignedDigits : List Char → Option (List Char × List Char)
  | '+' :: rest => (readDigits rest).map fun (ds, after) => ('+' :: ds, after)
  | '-' :: rest => (readDigits rest).map fun (ds, after) => ('-' :: ds, after)
  | cs => readDigits cs

/-- An exponent, or nothing. -/
def readExponent : List Char → Option (List Char × List Char)
  | 'e' :: rest => (readSignedDigits rest).map fun (ds, after) => ('e' :: ds, after)
  | 'E' :: rest => (readSignedDigits rest).map fun (ds, after) => ('E' :: ds, after)
  | cs => some ([], cs)

/-- A number without its sign. -/
def readUnsigned (cs : List Char) : Option (List Char × List Char) := do
  let (whole, cs) ← readWhole cs
  let (fraction, cs) ← readFraction cs
  let (exponent, cs) ← readExponent cs
  return (whole ++ fraction ++ exponent, cs)

/-- A number. -/
def readNumber : List Char → Option (List Char × List Char)
  | '-' :: rest => (readUnsigned rest).map fun (ds, after) => ('-' :: ds, after)
  | cs => readUnsigned cs

/-! ## Strings -/

/-- The value of a hexadecimal digit. -/
def hexValue (c : Char) : Option Nat :=
  if '0' ≤ c && c ≤ '9' then some (c.toNat - 48)
  else if 'a' ≤ c && c ≤ 'f' then some (c.toNat - 87)
  else if 'A' ≤ c && c ≤ 'F' then some (c.toNat - 55)
  else none

/-- The code unit four hexadecimal digits stand for. -/
def hexUnit (a b c d : Char) : Option Nat := do
  let a ← hexValue a
  let b ← hexValue b
  let c ← hexValue c
  let d ← hexValue d
  return ((a * 16 + b) * 16 + c) * 16 + d

def isSurrogate (n : Nat) : Bool := 0xD800 ≤ n && n < 0xE000

def isHighSurrogate (n : Nat) : Bool := 0xD800 ≤ n && n < 0xDC00

def isLowSurrogate (n : Nat) : Bool := 0xDC00 ≤ n && n < 0xE000

/-- The character of a code unit; half a pair becomes U+FFFD. -/
def unitChar (n : Nat) : Char := if isSurrogate n then '\uFFFD' else Char.ofNat n

/-- The character two halves of a pair stand for. -/
def pairChar (high low : Nat) : Char :=
  Char.ofNat (0x10000 + (high - 0xD800) * 1024 + (low - 0xDC00))

/-- The character after a backslash, the escapes by number apart. -/
def simpleEscape (c : Char) : Option Char :=
  match c with
  | '"' => some '"'
  | '\\' => some '\\'
  | '/' => some '/'
  | 'b' => some (Char.ofNat 8)
  | 'f' => some (Char.ofNat 12)
  | 'n' => some '\n'
  | 'r' => some '\r'
  | 't' => some '\t'
  | _ => none

/-- A piece of a string as it is read: a character, or a code unit written by number. -/
inductive Piece where
  | char (c : Char)
  | unit (n : Nat)
  deriving DecidableEq, Repr

/-- The pieces of a string up to its closing quote, and what follows the quote. -/
def readPieces : List Char → Option (List Piece × List Char)
  | [] => none
  | '"' :: rest => some ([], rest)
  | '\\' :: 'u' :: a :: b :: c :: d :: rest =>
    match hexUnit a b c d with
    | some n => (readPieces rest).map fun (ps, after) => (.unit n :: ps, after)
    | none => none
  | '\\' :: e :: rest =>
    match simpleEscape e with
    | some c => (readPieces rest).map fun (ps, after) => (.char c :: ps, after)
    | none => none
  | c :: rest =>
    if c.toNat < 0x20 || c == '\\' then none
    else (readPieces rest).map fun (ps, after) => (.char c :: ps, after)

/-- The characters of the pieces, the halves of pairs joined. -/
def joinPieces : List Piece → List Char
  | [] => []
  | .char c :: rest => c :: joinPieces rest
  | .unit high :: .unit low :: rest =>
    if isHighSurrogate high && isLowSurrogate low then pairChar high low :: joinPieces rest
    else unitChar high :: joinPieces (.unit low :: rest)
  | .unit n :: rest => unitChar n :: joinPieces rest

/-- A string after its opening quote. -/
def readString (cs : List Char) : Option (Text × List Char) :=
  (readPieces cs).map fun (ps, after) => (Text.ofChars (joinPieces ps), after)

/-! ## Values -/

/-- The deepest nesting of arrays and objects. -/
def maxDepth : Nat := 10000

/-- The characters that reading went past. -/
def consumed (before after : List Char) : List Char := before.take (before.length - after.length)

mutual

/-- A value at the given depth; the first argument bounds the number of steps. -/
def readValue : Nat → Nat → List Char → Option (Json × List Char)
  | 0, _, _ => none
  | fuel + 1, depth, cs =>
    match cs with
    | 'n' :: 'u' :: 'l' :: 'l' :: rest => some (.null, rest)
    | 't' :: 'r' :: 'u' :: 'e' :: rest => some (.bool true, rest)
    | 'f' :: 'a' :: 'l' :: 's' :: 'e' :: rest => some (.bool false, rest)
    | '"' :: rest => (readString rest).map fun (s, after) => (.string s, after)
    | '[' :: rest =>
      if depth ≥ maxDepth then none
      else match skipSpace rest with
        | ']' :: after => some (.array [], after)
        | rest => (readItems fuel (depth + 1) rest).map fun (vs, after) => (.array vs, after)
    | '{' :: rest =>
      if depth ≥ maxDepth then none
      else match skipSpace rest with
        | '}' :: after => some (.object [], after)
        | rest => (readMembers fuel (depth + 1) rest).map fun (ms, after) => (.object ms, after)
    | cs => (readNumber cs).map fun (literal, after) => (.number literal, after)

/-- One or more items and the closing bracket. -/
def readItems : Nat → Nat → List Char → Option (List Json × List Char)
  | 0, _, _ => none
  | fuel + 1, depth, cs => do
    let (v, rest) ← readValue fuel depth (skipSpace cs)
    match skipSpace rest with
    | ']' :: after => return ([v], after)
    | ',' :: more =>
      let (vs, after) ← readItems fuel depth more
      return (v :: vs, after)
    | _ => none

/-- One or more members and the closing brace. -/
def readMembers : Nat → Nat → List Char → Option (List (Text × List Char × Json) × List Char)
  | 0, _, _ => none
  | fuel + 1, depth, cs =>
    match skipSpace cs with
    | '"' :: rest => do
      let (key, rest) ← readString rest
      match skipSpace rest with
      | ':' :: rest =>
        let start := skipSpace rest
        let (v, rest) ← readValue fuel depth start
        let entry := (key, consumed start rest, v)
        match skipSpace rest with
        | '}' :: after => return ([entry], after)
        | ',' :: more =>
          let (entries, after) ← readMembers fuel depth more
          return (entry :: entries, after)
        | _ => none
      | _ => none
    | _ => none

end

/-- The first value of a text and what follows it. -/
def readFirst (cs : List Char) : Option (Json × List Char) :=
  readValue (2 * cs.length + 2) 0 (skipSpace cs)

/-- The one value of a text, with nothing but white space after it. -/
def read (cs : List Char) : Option Json :=
  match readFirst cs with
  | some (v, rest) => if (skipSpace rest).isEmpty then some v else none
  | none => none

end Json
end Stockroom

import Stockroom.Calendar.Layout
import Stockroom.Number.Literal

/-!
What a scalar without quotes stands for: nothing, a truth value, an integer, a number, a time, or
else the text itself. The kind matters only where a tag asks for one.

Main definitions: `Yaml.Kind`, `Yaml.nullWords`, `Yaml.kindOf`.
-/
namespace Stockroom.Yaml
set_option autoImplicit false

/-- What a scalar stands for. -/
inductive Kind where
  | null
  | truth
  | integer
  | number
  | time
  | text
  deriving DecidableEq, Repr

/-- The spellings of null. -/
def nullWords : List String := ["", "~", "null", "Null", "NULL"]

/-- The spellings of the truth values. -/
def truthWords : List String := ["true", "True", "TRUE", "false", "False", "FALSE"]

/-- The spellings of what is no finite number. -/
def infinityWords : List String :=
  [".nan", ".NaN", ".NAN", ".inf", ".Inf", ".INF", "+.inf", "+.Inf", "+.INF", "-.inf", "-.Inf", "-.INF"]

/-! ## Integers -/

/-- The value of digits in a base of at most sixteen. -/
def digitsIn (base : Nat) : List Char → Option Nat
  | [] => none
  | cs => cs.foldlM (fun n c => do
      let d ← mantissaDigit true c
      if d < base then some (n * base + d) else none) 0

/-- Digits after the mark of their base: `0x`, `0o`, `0b`, or a zero before octal digits. -/
def readMarked : List Char → Option Nat
  | '0' :: mark :: rest =>
    match mark.toLower with
    | 'x' => digitsIn 16 rest
    | 'o' => digitsIn 8 rest
    | 'b' => digitsIn 2 rest
    | _ => digitsIn 8 (mark :: rest)
  | cs => digitsIn 10 cs

/-- An integer after an optional sign. With a sign it has sixty-three bits, without one sixty-four. -/
def fitsSigned (read : List Char → Option Nat) : List Char → Bool
  | '-' :: rest => (read rest).any (· ≤ Nat.pow 2 63)
  | '+' :: rest => (read rest).any (· < Nat.pow 2 63)
  | cs => (read cs).any (· < Nat.pow 2 64)

/-- Whether a text is an integer. After a binary or octal mark a sign may stand too. -/
def isInteger (cs : List Char) : Bool :=
  fitsSigned readMarked cs ||
    match cs with
    | '0' :: 'b' :: rest => fitsSigned (digitsIn 2) rest
    | '0' :: 'o' :: rest => fitsSigned (digitsIn 8) rest
    | _ => false

/-- Whether an integer without a sign has more than sixty-three bits. -/
def isWide (cs : List Char) : Bool := (readMarked (cs.filter (· != '_'))).any (Nat.pow 2 63 ≤ ·)

/-! ## Numbers and times -/

/-- Whether a text is a decimal number within the range of doubles. -/
def isDecimal (cs : List Char) : Bool :=
  match readNumeral cs with
  | some n => !n.hex && n.value.isSome
  | none => false

/-- Year, month and day, the last two with one or two digits. -/
def looseDay : List LayoutPart :=
  [.year, .literal '-', .shortMonth, .literal '-', .shortDay]

/-- Hour, minute and second with one or two digits each. -/
def looseTime : List LayoutPart :=
  [.hour, .literal ':', .shortMinute, .literal ':', .shortSecond]

/-- The layouts of times. -/
def timeLayouts : List (List LayoutPart) :=
  [looseDay ++ [.literal 'T'] ++ looseTime ++ [.zone],
    looseDay ++ [.literal 't'] ++ looseTime ++ [.zone],
    looseDay ++ [.literal ' '] ++ looseTime,
    looseDay]

/-- Whether a text is a time. -/
def isTime (cs : List Char) : Bool := timeLayouts.any fun parts => (readLayout parts cs).isSome

/-! ## Kinds -/

/-- Whether a text may be an integer or a number by its first character. -/
def startsNumber : List Char → Bool
  | c :: _ => c == '+' || c == '-' || ('0' ≤ c && c ≤ '9')
  | [] => false

/-- What a text stands for; `timed` says whether it may be a time. -/
def kindOf (timed : Bool) (cs : List Char) : Kind :=
  let word := String.ofList cs
  if nullWords.contains word then .null
  else if truthWords.contains word then .truth
  else if infinityWords.contains word then .number
  else if cs.head? == some '.' then (if (readDouble cs).isSome then .number else .text)
  else if !startsNumber cs then .text
  else if timed && isTime cs then .time
  else
    let digits := cs.filter (· != '_')
    if fitsSigned readMarked digits then .integer
    else if isDecimal digits then .number
    else if isInteger digits then .integer
    else .text

end Stockroom.Yaml

import Stockroom.Text.Basic

/-!
Search as a database does it. A pattern stands for texts: `%` for any characters, `_` for any one, and
what follows a backslash for itself. To look for a text as it is, a backslash is put before each
character that would stand for others, and a `%` at both ends.

Main definitions:
* `searchNumbers`, `charactersOf`: the characters that a search sees in some bytes;
* `Pattern.fits`: whether characters fit a pattern;
* `Pattern.escape`, `Pattern.holding`: the pattern for all that holds a text somewhere;
* `Text.mentions`: whether a search for a text finds another.
-/
namespace Stockroom
set_option autoImplicit false

/-! ## Characters -/

/-- The bits of a character that its first byte holds. -/
def leadBits (b : UInt8) : Nat :=
  let n := b.toNat
  if n < 0xE0 then n % 32
  else if n < 0xF0 then n % 16
  else if n < 0xF8 then n % 8
  else if n < 0xFC then n % 4
  else if n < 0xFE then n % 2
  else 0

/-- The number that a search takes a character for: U+FFFD if no character of several bytes has it. -/
def settledNumber (n : Nat) : Nat :=
  if n < 0x80 || (0xD800 ≤ n && n ≤ 0xDFFF) || n == 0xFFFE || n == 0xFFFF then 0xFFFD else n

/-- The numbers of the characters that a search sees in some bytes: all continuation bytes after a
first byte belong to it, and one on its own stands for itself. `sofar` is the character being read. -/
def searchNumbers : Option Nat → List UInt8 → List Nat
  | none, [] => []
  | some n, [] => [settledNumber n]
  | none, b :: rest =>
    if b < 0xC0 then b.toNat :: searchNumbers none rest
    else searchNumbers (some (leadBits b)) rest
  | some n, b :: rest =>
    if 0x80 ≤ b ∧ b < 0xC0 then searchNumbers (some ((n * 64 + b.toNat % 64) % Nat.pow 2 32)) rest
    else if b < 0xC0 then settledNumber n :: b.toNat :: searchNumbers none rest
    else settledNumber n :: searchNumbers (some (leadBits b)) rest

/-- The characters that a search sees: those before a null character, which ends a text. -/
def charactersOf (bs : List UInt8) : List Nat := searchNumbers none (bs.takeWhile (· != 0))

/-- A number without the case of an ASCII letter. -/
def lowerNumber (n : Nat) : Nat := if 65 ≤ n ∧ n ≤ 90 then n + 32 else n

/-- Whether two characters are the same but for the case of ASCII letters. -/
def sameLetter (m n : Nat) : Bool := lowerNumber m == lowerNumber n

/-! ## Patterns -/

namespace Pattern

/-- The sign `%`, which stands for any characters. -/
def anyRun : UInt8 := 0x25

/-- The sign `_`, which stands for any one character. -/
def anyOne : UInt8 := 0x5F

/-- The backslash, after which a sign stands for itself. -/
def mark : UInt8 := 0x5C

/-- Whether a condition holds of what is left of a text somewhere in it. -/
def somewhere (cond : List Nat → Bool) : List Nat → Bool
  | [] => cond []
  | n :: rest => cond (n :: rest) || somewhere cond rest

/-- Whether characters fit a pattern. A pattern that ends in a mark fits nothing. -/
def fits : List Nat → List Nat → Bool
  | [], text => text.isEmpty
  | c :: rest, text =>
    if c == anyRun.toNat then somewhere (fits rest) text
    else if c == mark.toNat then
      match rest, text with
      | d :: rest, n :: text => sameLetter d n && fits rest text
      | _, _ => false
    else match text with
      | [] => false
      | n :: text => (c == anyOne.toNat || sameLetter c n) && fits rest text

/-- Puts a mark before every sign that would stand for something else. -/
def escape (bs : List UInt8) : List UInt8 :=
  bs.flatMap fun b => if b == mark || b == anyRun || b == anyOne then [mark, b] else [b]

/-- The pattern for all texts that hold a text somewhere. -/
def holding (t : Text) : List UInt8 := anyRun :: escape t.bytes ++ [anyRun]

end Pattern

/-- Whether a search for a text finds another. -/
def Text.mentions (t part : Text) : Bool :=
  Pattern.fits (charactersOf (Pattern.holding part)) (charactersOf t.bytes)

end Stockroom

import Stockroom.Text.Equivalence

/-!
Canonical forms of a text. Composed characters come apart, the marks after a character are put in the
order of their classes, and characters that compose are put together again. No character carries
more than thirty marks: a text with more of them is cut into stretches, and where it was cut a
joiner, which is drawn as nothing, keeps the marks apart.

Main definitions:
* `expand`: the characters a character stands for;
* `Stretch`, `stretches`: a character with the marks that cling to it;
* `settleMarks`, `compose`: order and composition within a stretch;
* `decomposed`, `composed`.
-/
namespace Stockroom
set_option autoImplicit false

/-! ## Characters -/

/-- The class by which a mark is put in order; zero for a character that stays where it is. -/
def canonicalClass (c : Char) : Nat :=
  let n := c.toNat
  if n < 0x300 then 0
  else match classRuns.find? fun (first, last, _) => first ≤ n && n ≤ last with
    | some (_, _, k) => k
    | none => 0

/-- Whether a character is a Korean syllable. -/
def isSyllable (n : Nat) : Bool := 0xAC00 ≤ n && n < 0xD7A4

/-- The parts of a Korean syllable: a first consonant, a vowel, and perhaps a last consonant. -/
def syllableParts (n : Nat) : List Char :=
  let i := n - 0xAC00
  let front := [Char.ofNat (0x1100 + i / 588), Char.ofNat (0x1161 + i % 588 / 28)]
  if i % 28 = 0 then front else front ++ [Char.ofNat (0x11A7 + i % 28)]

/-- The characters a character stands for. -/
def expand (c : Char) : List Char :=
  let n := c.toNat
  if n < 0xC0 then [c]
  else if isSyllable n then syllableParts n
  else match singletons.lookup n with
    | some base => [Char.ofNat base]
    | none => match expansions.lookup n with
      | some parts => parts.map Char.ofNat
      | none => [c]

/-- Whether a character belongs to the one before it: a mark, or a part that composes with it. -/
def clings (c : Char) : Bool :=
  let n := c.toNat
  0 < canonicalClass c || joiners.contains n || (0x1161 ≤ n && n ≤ 0x1175) ||
    (0x11A7 ≤ n && n ≤ 0x11C2)

/-- How many characters that cling a character starts and ends with, once it has come apart; what it
only resembles counts as well. -/
def edges (c : Char) : Nat × Nat :=
  let n := c.toNat
  if n < 0xA8 then (0, 0)
  else if isSyllable n then (0, (syllableParts n).length - 1)
  else match looseEdges.find? fun (first, last, _) => first ≤ n && n ≤ last with
    | some (_, _, leading, trailing) => (leading, trailing)
    | none =>
      let parts := expand c
      ((parts.takeWhile clings).length, (parts.reverse.takeWhile clings).length)

/-! ## Stretches -/

/-- The most characters that may cling to one. -/
def maxClinging : Nat := 30

/-- A character and what clings to it, and whether the text was cut after it. -/
structure Stretch where
  chars : List Char
  cut : Bool
  deriving DecidableEq, Repr

/-- Adds characters to the stretch at hand, which is held in reverse and has a number of clinging
characters at its end. The stretches before it are held in reverse too. -/
def stretchesFrom (before : List Stretch) (held : List Char) (count : Nat) :
    List Char → List Stretch
  | [] => (⟨held.reverse, false⟩ :: before).reverse
  | c :: rest =>
    let (leading, trailing) := edges c
    if leading = 0 then stretchesFrom (⟨held.reverse, false⟩ :: before) [c] trailing rest
    else if maxClinging < count + leading then
      stretchesFrom (⟨held.reverse, true⟩ :: before) [c] leading rest
    else stretchesFrom before (c :: held) (count + leading) rest

/-- Cuts a text before every character that does not cling, and where too many do. -/
def stretches (cs : List Char) : List Stretch := stretchesFrom [] [] 0 cs

/-! ## Order and composition -/

/-- Puts a character before marks already in order, moving it past those of a smaller class. -/
def settleMark (c : Char) : List Char → List Char
  | [] => [c]
  | d :: rest =>
    if 0 < canonicalClass d && canonicalClass d < canonicalClass c then d :: settleMark c rest
    else c :: d :: rest

/-- Puts neighbouring marks in the order of their classes. -/
def settleMarks : List Char → List Char
  | [] => []
  | c :: rest => settleMark c (settleMarks rest)

/-- The Korean syllable two parts of one form. -/
def composeSyllable (a b : Nat) : Option Nat :=
  if 0x1100 ≤ a && a < 0x1113 && 0x1161 ≤ b && b < 0x1176 then
    some (0xAC00 + ((a - 0x1100) * 21 + (b - 0x1161)) * 28)
  else if isSyllable a && (a - 0xAC00) % 28 == 0 && 0x11A8 ≤ b && b < 0x11C3 then
    some (a + (b - 0x11A7))
  else none

/-- The character two neighbours compose to. -/
def composePair (a b : Char) : Option Char :=
  let m := a.toNat
  let n := b.toNat
  if n < 0x300 then none
  else match composeSyllable m n with
    | some x => some (Char.ofNat x)
    | none => (spacedPairs.lookup (m, n)).map Char.ofNat

/-- Composes from the left, `held` being the last character so far. -/
def composeAfter (held : Char) : List Char → List Char
  | [] => [held]
  | c :: rest =>
    match composePair held c with
    | some x => composeAfter x rest
    | none => held :: composeAfter c rest

/-- Composes neighbours as far as they go, from the left. -/
def compose : List Char → List Char
  | [] => []
  | c :: rest => composeAfter c rest

/-! ## Forms -/

/-- The joiner that keeps two stretches apart. -/
def graphemeJoiner : Char := '\u034F'

/-- The joiner after a stretch that was cut. -/
def Stretch.tail (s : Stretch) : List Char := if s.cut then [graphemeJoiner] else []

/-- A text whose composed characters have come apart. -/
def decomposed (cs : List Char) : List Char :=
  (stretches cs).flatMap fun s => settleMarks (s.chars.flatMap expand) ++ s.tail

/-- A text of characters that are not composed and no nonspacing marks, put together. -/
def composed (cs : List Char) : List Char :=
  (stretches cs).flatMap fun s => compose (settleMarks s.chars) ++ s.tail

end Stockroom

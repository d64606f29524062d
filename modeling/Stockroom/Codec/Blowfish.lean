/-!
The Blowfish cipher, as far as keys are mixed and blocks enciphered. Its tables start as the binary
digits of the fraction of the circle number, so they are computed and not listed.

Main definitions:
* `Blowfish.circleFraction`: the first digits of the circle number;
* `Blowfish.Tables`, `Blowfish.initial`: the tables of the cipher, and those it starts with;
* `Blowfish.encipher`: one block;
* `Blowfish.Tables.mix`: the tables after a key and a salt went in.
-/
namespace Stockroom.Blowfish
set_option autoImplicit false

/-! ## The circle number -/

/-- The sum of the alternating series of `unit * arctan (1 / n)`, one term for each unit of fuel.
`power` is the unit divided by the odd power of `n` that the term needs, `odd` its exponent. -/
def arctanTerms (n : Nat) : Nat → Nat → Nat → Int
  | 0, _, _ => 0
  | fuel + 1, power, odd =>
    if power = 0 then 0
    else (power / odd : Nat) - arctanTerms n fuel (power / (n * n)) (odd + 2)

/-- The number `unit * arctan (1 / n)`, rounded term by term. -/
def arctanInverse (unit n : Nat) : Int := arctanTerms n (unit.log2 + 1) (unit / n) 1

/-- The given number of binary digits after the point of the circle number. Sixty-four further digits
take up what rounding loses. -/
def circleFraction (digits : Nat) : Nat :=
  let unit := Nat.pow 2 (digits + 64)
  let circle := 4 * (4 * arctanInverse unit 5 - arctanInverse unit 239)
  (circle.toNat / Nat.pow 2 64) % Nat.pow 2 digits

/-! ## Tables -/

/-- How many words the two tables have. -/
def subkeyCount : Nat := 18
def boxCount : Nat := 4 * 256

/-- The tables of the cipher: a word for each round and two more, and four boxes of a word for each
byte, one after the other. -/
structure Tables where
  subkeys : Array UInt32
  boxes : Array UInt32

/-- The words of a number of the given length, the first words first. -/
def wordsOf (count number : Nat) : Array UInt32 :=
  Array.ofFn fun i : Fin count => (number >>> (32 * (count - 1 - i.val))).toUInt32

/-- The tables that the cipher starts with. -/
def initial : Tables :=
  let words := wordsOf (subkeyCount + boxCount) (circleFraction (32 * (subkeyCount + boxCount)))
  { subkeys := words.extract 0 subkeyCount
    boxes := words.extract subkeyCount words.size }

/-! ## Blocks -/

/-- Half a block through the boxes: a byte each. -/
def Tables.boxed (t : Tables) (x : UInt32) : UInt32 :=
  let word (box : Nat) (b : UInt32) : UInt32 := t.boxes.getD (256 * box + b.toNat) 0
  ((word 0 (x >>> 24) + word 1 ((x >>> 16) &&& 0xFF)) ^^^ word 2 ((x >>> 8) &&& 0xFF)) +
    word 3 (x &&& 0xFF)

/-- Some rounds from the given one on. -/
def rounds (t : Tables) : Nat → Nat → UInt32 × UInt32 → UInt32 × UInt32
  | 0, _, block => block
  | n + 1, i, (left, right) =>
    let left := left ^^^ t.subkeys.getD i 0
    rounds t n (i + 1) (right ^^^ t.boxed left, left)

/-- Enciphers a block of two words. -/
def encipher (t : Tables) (block : UInt32 × UInt32) : UInt32 × UInt32 :=
  let (left, right) := rounds t 16 0 block
  (right ^^^ t.subkeys.getD 17 0, left ^^^ t.subkeys.getD 16 0)

/-! ## Keys -/

/-- A word of four bytes of a text that is repeated without end. -/
def cyclicWord (bytes : Array UInt8) (start : Nat) : UInt32 :=
  let byte (i : Nat) : UInt32 := (bytes.getD ((start + i) % bytes.size) 0).toUInt32
  (byte 0 <<< 24) ||| (byte 1 <<< 16) ||| (byte 2 <<< 8) ||| byte 3

/-- Two words of the salt before they go in, zeros without a salt. -/
def saltBlock (salt : Array UInt8) (n : Nat) : UInt32 × UInt32 :=
  if salt.isEmpty then (0, 0) else (cyclicWord salt (8 * n), cyclicWord salt (8 * n + 4))

/-- Replaces the words of both tables, two at a time, by what the tables so far make of the words
before them and the salt. `n` counts the pairs. -/
def refill (salt : Array UInt8) : Nat → Nat → UInt32 × UInt32 → Tables → Tables
  | 0, _, _, t => t
  | left + 1, n, block, t =>
    let (a, b) := saltBlock salt n
    let block := encipher t (block.1 ^^^ a, block.2 ^^^ b)
    let put (words : Array UInt32) (i : Nat) : Array UInt32 :=
      (words.setIfInBounds i block.1).setIfInBounds (i + 1) block.2
    let t : Tables :=
      if 2 * n < subkeyCount then { t with subkeys := put t.subkeys (2 * n) }
      else { t with boxes := put t.boxes (2 * n - subkeyCount) }
    refill salt left (n + 1) block t

/-- The tables after a key went in, and a salt unless it is empty. -/
def Tables.mix (t : Tables) (key salt : Array UInt8) : Tables :=
  let subkeys := Array.ofFn fun i : Fin subkeyCount =>
    t.subkeys.getD i.val 0 ^^^ cyclicWord key (4 * i.val)
  refill salt ((subkeyCount + boxCount) / 2) 0 (0, 0) { t with subkeys }

end Stockroom.Blowfish

/-!
Text as the program meets it: mostly characters, but a file in another encoding may hold bytes that
are no part of any character. A `Text` keeps such bytes apart, so nothing that was read is lost.

Main definitions:
* `Glyph`, `Text`: a character or a stray byte, and a sequence of them;
* `Text.ofBytes`, `Text.bytes`: reading and writing UTF-8, a malformed byte standing for itself;
* `Text.toChars`: the characters, U+FFFD in place of every stray byte;
* `Text.le`: the order of the written bytes, by which everything is sorted.
-/
namespace Stockroom
set_option autoImplicit false

/-- One unit of text: a character, or a byte that belongs to no character. -/
inductive Glyph where
  | char (c : Char)
  | stray (b : UInt8)
  deriving DecidableEq, Repr, Inhabited

/-- A sequence of characters and stray bytes. -/
abbrev Text := List Glyph

namespace Glyph

/-- The character shown for a glyph; stray bytes show as U+FFFD. -/
def toChar : Glyph → Char
  | .char c => c
  | .stray _ => '\uFFFD'

/-- The bytes a glyph is written as. -/
def bytes : Glyph → List UInt8
  | .char c => String.utf8EncodeChar c
  | .stray b => [b]

/-- Whether the glyph is a character. -/
def isChar : Glyph → Bool
  | .char _ => true
  | .stray _ => false

end Glyph

namespace Text

def ofChars (cs : List Char) : Text := cs.map .char

def ofString (s : String) : Text := ofChars s.toList

instance : Coe String Text := ⟨ofString⟩

/-- The characters of a text, U+FFFD standing for every stray byte. -/
def toChars (t : Text) : List Char := t.map Glyph.toChar

/-- A string for display; stray bytes show as U+FFFD. -/
def display (t : Text) : String := String.ofList t.toChars

/-- The written form. -/
def bytes (t : Text) : List UInt8 := t.flatMap Glyph.bytes

/-- Whether the text holds no stray byte. -/
def wellFormed (t : Text) : Bool := t.all Glyph.isChar

/-! ## Reading UTF-8 -/

/-- A continuation byte within the given bounds, as its six low bits. -/
def continuation (low high : UInt8) (b : UInt8) : Option Nat :=
  if low ≤ b ∧ b ≤ high then some (b.toNat % 64) else none

/-- The bounds of the second byte of a three-byte character led by `a`. -/
def secondOfThree (a : UInt8) : Option (UInt8 × UInt8) :=
  if a == 0xE0 then some (0xA0, 0xBF)
  else if a == 0xED then some (0x80, 0x9F)
  else if 0xE1 ≤ a ∧ a ≤ 0xEF then some (0x80, 0xBF)
  else none

/-- The bounds of the second byte of a four-byte character led by `a`. -/
def secondOfFour (a : UInt8) : Option (UInt8 × UInt8) :=
  if a == 0xF0 then some (0x90, 0xBF)
  else if a == 0xF4 then some (0x80, 0x8F)
  else if 0xF1 ≤ a ∧ a ≤ 0xF3 then some (0x80, 0xBF)
  else none

def twoByte (a b : UInt8) : Option Char := do
  if 0xC2 ≤ a ∧ a ≤ 0xDF then
    let y ← continuation 0x80 0xBF b
    return Char.ofNat ((a.toNat % 32) * 64 + y)
  else none

def threeByte (a b c : UInt8) : Option Char := do
  let (low, high) ← secondOfThree a
  let y ← continuation low high b
  let z ← continuation 0x80 0xBF c
  return Char.ofNat ((a.toNat % 16) * 4096 + y * 64 + z)

def fourByte (a b c d : UInt8) : Option Char := do
  let (low, high) ← secondOfFour a
  let y ← continuation low high b
  let z ← continuation 0x80 0xBF c
  let w ← continuation 0x80 0xBF d
  return Char.ofNat ((a.toNat % 8) * 262144 + y * 4096 + z * 64 + w)

/-- The character that a lead byte and the bytes after it spell, with the number of those bytes. -/
def firstChar (a : UInt8) (rest : List UInt8) : Option (Char × Nat) :=
  if a < 0x80 then some (Char.ofNat a.toNat, 0)
  else match rest with
    | [] => none
    | b :: rest =>
      match twoByte a b with
      | some x => some (x, 1)
      | none => match rest with
        | [] => none
        | c :: rest =>
          match threeByte a b c with
          | some x => some (x, 2)
          | none => match rest with
            | [] => none
            | d :: _ => (fourByte a b c d).map fun x => (x, 3)

/-- Reads UTF-8 after passing over the given number of bytes, which an earlier character used up. -/
def ofBytesAfter : Nat → List UInt8 → Text
  | _, [] => []
  | used + 1, _ :: rest => ofBytesAfter used rest
  | 0, a :: rest =>
    match firstChar a rest with
    | some (c, extra) => .char c :: ofBytesAfter extra rest
    | none => .stray a :: ofBytesAfter 0 rest

/-- Reads UTF-8. A byte that starts no well-formed character is kept as a stray byte. -/
def ofBytes (bs : List UInt8) : Text := ofBytesAfter 0 bs

/-- Reads the written form again, so that bytes that have come to stand together join up. -/
def rejoin (t : Text) : Text := if t.wellFormed then t else ofBytes t.bytes

/-! ## Order -/

/-- Lexicographic order of byte sequences. -/
def bytesLe : List UInt8 → List UInt8 → Bool
  | [], _ => true
  | _ :: _, [] => false
  | a :: s, b :: t => a < b || (a == b && bytesLe s t)

/-- The order of the written forms. -/
def le (s t : Text) : Bool := bytesLe s.bytes t.bytes

/-! ## Cutting and joining -/

/-- The pieces between occurrences of a glyph: one more piece than occurrences. -/
def splitOn (sep : Glyph) : Text → List Text
  | [] => [[]]
  | g :: rest =>
    if g = sep then [] :: splitOn sep rest
    else match splitOn sep rest with
      | [] => [[g]]
      | piece :: more => (g :: piece) :: more

/-- Joins pieces with a separator between neighbours. -/
def join (sep : Text) : List Text → Text
  | [] => []
  | [t] => t
  | t :: rest => t ++ sep ++ join sep rest

/-- The text before and after the first occurrence of a glyph. -/
def cut (sep : Glyph) : Text → Option (Text × Text)
  | [] => none
  | g :: rest =>
    if g = sep then some ([], rest)
    else (cut sep rest).map fun (before, after) => (g :: before, after)

/-- The rest of a text after a given beginning. -/
def after? (start t : Text) : Option Text :=
  if start.isPrefixOf t then some (t.drop start.length) else none

/-- Decimal digits of a number. -/
def ofNat (n : Nat) : Text := ofChars (Nat.toDigits 10 n)

/-- Decimal digits of an integer, with a minus sign when it is negative. -/
def ofInt (i : Int) : Text := if i < 0 then .char '-' :: ofNat i.natAbs else ofNat i.natAbs

/-- Exactly `width` decimal digits at least, filled up with zeros on the left. -/
def padded (width n : Nat) : Text :=
  let ds := ofNat n
  List.replicate (width - ds.length) (.char '0') ++ ds

end Text
end Stockroom

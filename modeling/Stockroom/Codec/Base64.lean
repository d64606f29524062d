/-!
Base 64: three bytes as four characters, with the ordinary alphabet or the one that is safe in
addresses. Line breaks in encoded text mean nothing.

Main definitions: `Base64.Alphabet`, `Base64.encode`, `Base64.decode`, `Base64.decodePadded`.
-/
namespace Stockroom.Base64
set_option autoImplicit false

/-- The two last characters of an alphabet. -/
structure Alphabet where
  sixtyTwo : Char
  sixtyThree : Char

def standard : Alphabet := ⟨'+', '/'⟩
def urlSafe : Alphabet := ⟨'-', '_'⟩

/-- The character of six bits. -/
def Alphabet.char (a : Alphabet) (n : Nat) : Char :=
  if n < 26 then Char.ofNat (65 + n)
  else if n < 52 then Char.ofNat (71 + n)
  else if n < 62 then Char.ofNat (n - 4)
  else if n = 62 then a.sixtyTwo
  else a.sixtyThree

/-- The six bits of a character. -/
def Alphabet.value (a : Alphabet) (c : Char) : Option Nat :=
  if 'A' ≤ c && c ≤ 'Z' then some (c.toNat - 65)
  else if 'a' ≤ c && c ≤ 'z' then some (c.toNat - 71)
  else if '0' ≤ c && c ≤ '9' then some (c.toNat + 4)
  else if c == a.sixtyTwo then some 62
  else if c == a.sixtyThree then some 63
  else none

/-- Encodes without filling up the last group. -/
def encode (a : Alphabet) : List UInt8 → List Char
  | [] => []
  | [x] => [a.char (x.toNat / 4), a.char (x.toNat % 4 * 16)]
  | [x, y] =>
    [a.char (x.toNat / 4), a.char (x.toNat % 4 * 16 + y.toNat / 16), a.char (y.toNat % 16 * 4)]
  | x :: y :: z :: rest =>
    a.char (x.toNat / 4) :: a.char (x.toNat % 4 * 16 + y.toNat / 16) ::
      a.char (y.toNat % 16 * 4 + z.toNat / 64) :: a.char (z.toNat % 64) :: encode a rest

/-- Encodes and fills up the last group with equals signs. -/
def encodePadded (a : Alphabet) (bs : List UInt8) : List Char :=
  let cs := encode a bs
  cs ++ List.replicate ((4 - cs.length % 4) % 4) '='

/-- The bytes of groups of six bits. -/
def bytesOf : List Nat → Option (List UInt8)
  | [] => some []
  | [_] => none
  | [p, q] => some [UInt8.ofNat (p * 4 + q / 16)]
  | [p, q, r] => some [UInt8.ofNat (p * 4 + q / 16), UInt8.ofNat (q % 16 * 16 + r / 4)]
  | p :: q :: r :: s :: rest =>
    (bytesOf rest).map fun bs =>
      UInt8.ofNat (p * 4 + q / 16) :: UInt8.ofNat (q % 16 * 16 + r / 4) ::
        UInt8.ofNat (r % 4 * 64 + s) :: bs

/-- Decodes text without filling. -/
def decode (a : Alphabet) (cs : List Char) : Option (List UInt8) :=
  ((cs.filter fun c => c != '\n' && c != '\r').mapM a.value).bind bytesOf

/-- Decodes text whose last group is filled up. -/
def decodePadded (a : Alphabet) (cs : List Char) : Option (List UInt8) :=
  decode a ((cs.reverse.dropWhile (· == '=')).reverse)

end Stockroom.Base64

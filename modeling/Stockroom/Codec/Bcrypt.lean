import Stockroom.Codec.Base64
import Stockroom.Codec.Blowfish
import Stockroom.Text.Numeral

/-!
Hashes of passwords that are slow on purpose. A hash is written as a version, a cost, a salt and the
hash proper; the cost is the number of times, as a power of two, that password and salt are mixed in.

Main definitions:
* `Bcrypt.keyOf`: the bytes of a password that count;
* `Bcrypt.hash`: the hash proper;
* `Bcrypt.Written`, `Bcrypt.Written.parse`: a hash in text;
* `Bcrypt.verify`: whether a password has a hash.
-/
namespace Stockroom.Bcrypt
set_option autoImplicit false

/-! ## Keys -/

/-- How many bytes of a password count. -/
def keyLength : Nat := 72

/-- The bytes of a password that count: the password and a zero byte, repeated. -/
def keyOf (password : List UInt8) : List UInt8 :=
  let period := password.take keyLength ++ [0]
  (List.replicate keyLength period).flatten.take keyLength

/-! ## Text of bytes -/

/-- The characters that stand for six bits each. -/
def alphabet : List Char :=
  "./ABCDEFGHIJKLMNOPQRSTUVWXYZabcdefghijklmnopqrstuvwxyz0123456789".toList

/-- Six bits as a character. -/
def sixBits (n : Nat) : Char := alphabet.getD n '.'

/-- Bytes as characters, three bytes as four; the last group is not filled up. -/
def encode (bs : List UInt8) : List Char :=
  match bs with
  | [] => []
  | [x] => [sixBits (x.toNat / 4), sixBits (x.toNat % 4 * 16)]
  | [x, y] =>
    [sixBits (x.toNat / 4), sixBits (x.toNat % 4 * 16 + y.toNat / 16), sixBits (y.toNat % 16 * 4)]
  | x :: y :: z :: rest =>
    sixBits (x.toNat / 4) :: sixBits (x.toNat % 4 * 16 + y.toNat / 16) ::
      sixBits (y.toNat % 16 * 4 + z.toNat / 64) :: sixBits (z.toNat % 64) :: encode rest

/-- The bytes that characters stand for. Line ends between them mean nothing. -/
def decode (cs : List Char) : Option (List UInt8) :=
  ((cs.filter fun c => c != '\n' && c != '\r').mapM fun c => alphabet.idxOf? c).bind Base64.bytesOf

/-! ## Hashes -/

/-- Mixes the key and the salt in by turns. -/
def repeatMix (key salt : Array UInt8) : Nat → Blowfish.Tables → Blowfish.Tables
  | 0, t => t
  | n + 1, t => repeatMix key salt n ((t.mix key #[]).mix salt #[])

/-- Enciphers a block the given number of times. -/
def encipherTimes (t : Blowfish.Tables) : Nat → UInt32 × UInt32 → UInt32 × UInt32
  | 0, block => block
  | n + 1, block => encipherTimes t n (Blowfish.encipher t block)

/-- The text that is enciphered, as blocks of two words. -/
def phrase : List (UInt32 × UInt32) :=
  let bytes := ("OrpheanBeholderScryDoubt".toList.map fun c => c.toNat.toUInt8).toArray
  [0, 8, 16].map fun i => (Blowfish.cyclicWord bytes i, Blowfish.cyclicWord bytes (i + 4))

def wordBytes (w : UInt32) : List UInt8 :=
  [(w >>> 24).toUInt8, (w >>> 16).toUInt8, (w >>> 8).toUInt8, w.toUInt8]

/-- How many bytes a hash has. -/
def hashLength : Nat := 23

/-- The hash of a key with a salt, at a cost. -/
def hash (cost : Nat) (salt key : List UInt8) : List UInt8 :=
  let key := key.toArray
  let salt := salt.toArray
  let t := repeatMix key salt (Nat.pow 2 cost) (Blowfish.initial.mix key salt)
  (phrase.flatMap fun block =>
    let (a, b) := encipherTimes t 64 block
    wordBytes a ++ wordBytes b).take hashLength

/-! ## Hashes in text -/

/-- A hash taken apart. -/
structure Written where
  cost : Nat
  salt : List UInt8
  /-- The characters of the hash proper. -/
  hash : List UInt8
  deriving Repr

/-- The lengths of a hash in text, and of the salt and the hash proper in it. -/
def leastLength : Nat := 59
def saltTextLength : Nat := 22
def hashTextLength : Nat := 31

/-- A cost that a hash may have. -/
def costOf (cs : List Char) : Option Nat := do
  let n ← readInt cs
  if 4 ≤ n ∧ n ≤ 31 then return n.toNat else none

def charsOf (bs : List UInt8) : List Char := bs.map fun b => Char.ofNat b.toNat

/-- Takes a hash apart. The version is a digit up to two and perhaps another character; what follows
the hash proper means nothing. -/
def Written.parse (bs : List UInt8) : Option Written := do
  guard (leastLength ≤ bs.length)
  guard (bs.head? == some 0x24 && (bs.drop 1).head?.any (· ≤ 0x32))
  let rest := bs.drop (if (bs.drop 2).head? == some 0x24 then 3 else 4)
  let cost ← costOf (charsOf (rest.take 2))
  let rest := rest.drop 3
  let salt ← decode (charsOf (rest.take saltTextLength))
  return ⟨cost, salt, (rest.drop saltTextLength).take hashTextLength⟩

/-- Whether a password has the hash that a text gives. -/
def verify (text password : List UInt8) : Bool :=
  match Written.parse text with
  | some w => charsOf w.hash == encode (hash w.cost w.salt (keyOf password))
  | none => false

end Stockroom.Bcrypt

import Stockroom.Text.Numeral
import Stockroom.Text.Quoted

/-!
Internet addresses in text: four decimal numbers with points, or up to eight hexadecimal groups with
colons, of which one run of zero groups may be left out and the last two may be written with points.
An address of groups may name a zone after a percent sign.

Main definitions:
* `IpAddress`, `IpFault`: an address, and why a text is none;
* `IpAddress.parse`;
* `isIpAddress`, `isIpv4Address`: tests of addresses without a zone.
-/
namespace Stockroom
set_option autoImplicit false

/-- An address: two groups, or eight groups and a zone, which may be empty. -/
inductive IpAddress where
  | four (groups : List Nat)
  | six (groups : List Nat) (zone : List Char)
  deriving DecidableEq, Repr

/-! ## Faults -/

/-- What is wrong with a text. -/
inductive IpCause where
  | noSeparator
  | groupsMissing
  | emptyZone
  | longGroup
  | emptyGroup
  | misplacedNumbers
  | noRoomForNumbers
  | colonExpected
  | colonAtEnd
  | secondGap
  | trailing
  | tooFewGroups
  | emptyGap
  | leadingZero
  | largeNumber
  | emptyNumber
  | tooManyNumbers
  | strangeCharacter
  | tooFewNumbers
  deriving DecidableEq, Repr

def IpCause.message : IpCause → Text
  | .noSeparator => "unable to parse IP"
  | .groupsMissing => "missing IPv6 address"
  | .emptyZone => "zone must be a non-empty string"
  | .longGroup => "each group must have 4 or less digits"
  | .emptyGroup => "each colon-separated field must have at least one digit"
  | .misplacedNumbers => "embedded IPv4 address must replace the final 2 fields of the address"
  | .noRoomForNumbers =>
    "too many hex fields to fit an embedded IPv4 at the end of the address"
  | .colonExpected => "unexpected character, want colon"
  | .colonAtEnd => "colon must be followed by more characters"
  | .secondGap => "multiple :: in address"
  | .trailing => "trailing garbage after address"
  | .tooFewGroups => "address string too short"
  | .emptyGap => "the :: must expand to at least one field of zeros"
  | .leadingZero => "IPv4 field has octet with leading zero"
  | .largeNumber => "IPv4 field has value >255"
  | .emptyNumber => "IPv4 field must have at least one digit"
  | .tooManyNumbers => "IPv4 address too long"
  | .strangeCharacter => "unexpected character"
  | .tooFewNumbers => "IPv4 address too short"

/-- A cause, and what follows the place of it if one can be told. -/
structure IpFault where
  cause : IpCause
  place : List Char := []
  deriving DecidableEq, Repr

/-- What is said of a text with a fault. -/
def IpFault.message (whole : List Char) (f : IpFault) : Text :=
  "ParseAddr(" ++ Text.quoted (Text.ofChars whole) ++ "): " ++ f.cause.message ++
    (if f.place.isEmpty then []
     else Text.ofString " (at " ++ Text.quoted (Text.ofChars f.place) ++ Text.ofString ")")

/-! ## Four numbers -/

/-- Numbers up to 255 without leading zeros, with points between them. `digits` and `value` are what
was read of the number at the front, `done` are the numbers before it. -/
def readOctets (digits value : Nat) (done : List Nat) : List Char → Except IpFault (List Nat)
  | [] => if done.length < 3 then .error ⟨.tooFewNumbers, []⟩ else .ok (done ++ [value])
  | c :: rest =>
    match digitValue c with
    | some d =>
      if digits = 1 ∧ value = 0 then .error ⟨.leadingZero, []⟩
      else if 255 < value * 10 + d then .error ⟨.largeNumber, []⟩
      else readOctets (digits + 1) (value * 10 + d) done rest
    | none =>
      if c != '.' then .error ⟨.strangeCharacter, c :: rest⟩
      else if digits = 0 ∨ rest.isEmpty then .error ⟨.emptyNumber, c :: rest⟩
      else if done.length = 3 then .error ⟨.tooManyNumbers, []⟩
      else readOctets 0 0 (done ++ [value]) rest

/-- Four numbers as the two groups they stand for. -/
def readFour (cs : List Char) : Except IpFault (List Nat) := do
  match ← readOctets 0 0 [] cs with
  | [a, b, c, d] => return [a * 256 + b, c * 256 + d]
  | _ => throw ⟨.tooFewNumbers, []⟩

/-! ## Eight groups -/

/-- The value of a hexadecimal digit of either case. -/
def hexDigit? (c : Char) : Option Nat :=
  if '0' ≤ c ∧ c ≤ '9' then some (c.toNat - 48)
  else if 'a' ≤ c ∧ c ≤ 'f' then some (c.toNat - 87)
  else if 'A' ≤ c ∧ c ≤ 'F' then some (c.toNat - 55)
  else none

/-- What was read of the groups: those so far, the number of them before the gap, and the rest. -/
structure Groups where
  done : List Nat := []
  gap : Option Nat := none
  rest : List Char

/-- Reads groups while there is room for them. -/
def readGroups : Nat → Groups → Except IpFault Groups
  | 0, g => .ok g
  | room + 1, g => do
    let digits := g.rest.takeWhile fun c => (hexDigit? c).isSome
    if 4 < digits.length then throw ⟨.longGroup, g.rest⟩
    if digits.isEmpty then throw ⟨.emptyGroup, g.rest⟩
    let value := (digits.filterMap hexDigit?).foldl (fun n d => n * 16 + d) 0
    match g.rest.drop digits.length with
    | '.' :: _ =>
      if g.gap.isNone ∧ g.done.length ≠ 6 then throw ⟨.misplacedNumbers, g.rest⟩
      if 6 < g.done.length then throw ⟨.noRoomForNumbers, g.rest⟩
      return { g with done := g.done ++ (← readFour g.rest), rest := [] }
    | [] => return { g with done := g.done ++ [value], rest := [] }
    | ':' :: ':' :: rest =>
      if g.gap.isSome then throw ⟨.secondGap, ':' :: rest⟩
      let g : Groups := ⟨g.done ++ [value], some (g.done.length + 1), rest⟩
      if rest.isEmpty then return g
      readGroups room g
    | ':' :: rest =>
      if rest.isEmpty then throw ⟨.colonAtEnd, [':']⟩
      readGroups room { g with done := g.done ++ [value], rest }
    | rest => throw ⟨.colonExpected, rest⟩

/-- Eight groups, the gap filled up with zeros. -/
def Groups.filled (g : Groups) : Except IpFault (List Nat) :=
  if !g.rest.isEmpty then .error ⟨.trailing, g.rest⟩
  else match g.gap with
    | none => if g.done.length < 8 then .error ⟨.tooFewGroups, []⟩ else .ok g.done
    | some n =>
      if g.done.length < 8 then
        .ok (g.done.take n ++ List.replicate (8 - g.done.length) 0 ++ g.done.drop n)
      else .error ⟨.emptyGap, []⟩

/-- Eight groups, or fewer around a gap that stands for the zero groups left out. -/
def readSix : List Char → Except IpFault (List Nat)
  | [':', ':'] => .ok (List.replicate 8 0)
  | ':' :: ':' :: rest => (readGroups 8 { gap := some 0, rest }).bind Groups.filled
  | cs => (readGroups 8 { rest := cs }).bind Groups.filled

/-! ## Addresses -/

/-- Reads an address; the first of a point, a colon and a percent sign tells its kind. -/
def IpAddress.parse (cs : List Char) : Except IpFault IpAddress :=
  match cs.find? fun c => c == '.' || c == ':' || c == '%' with
  | some '.' => do return .four (← readFour cs)
  | some ':' =>
    let groups := cs.takeWhile (· != '%')
    match cs.drop groups.length with
    | [] => do return .six (← readSix groups) []
    | [_] => .error ⟨.emptyZone, []⟩
    | _ :: zone => do return .six (← readSix groups) zone
  | some _ => .error ⟨.groupsMissing, []⟩
  | none => .error ⟨.noSeparator, []⟩

/-- An address of either kind without a zone. -/
def isIpAddress (cs : List Char) : Bool :=
  match IpAddress.parse cs with
  | .ok (.four _) => true
  | .ok (.six _ zone) => zone.isEmpty
  | .error _ => false

/-- Eight groups that stand for four numbers: five of zero and one of all ones come first. -/
def isMappedIpv4 (groups : List Nat) : Bool := groups.take 6 == [0, 0, 0, 0, 0, 0xffff]

/-- An address of four numbers, also when it is written as eight groups. -/
def isIpv4Address (cs : List Char) : Bool :=
  match IpAddress.parse cs with
  | .ok (.four _) => true
  | .ok (.six groups zone) => zone.isEmpty && isMappedIpv4 groups
  | .error _ => false

end Stockroom

import Stockroom.Net.IpAddress
import Stockroom.Text.Basic

/-!
Plain mail addresses: a local part, an at sign and a domain, nothing else. Both sides are words of
visible characters with single dots between them; the domain may be an internet address in brackets.

Main definitions: `isDotAtom`, `isMailAddress`.
-/
namespace Stockroom
set_option autoImplicit false

/-- The pieces of a text between occurrences of a character. -/
def splitChars (sep : Char) : List Char → List (List Char)
  | [] => [[]]
  | c :: rest =>
    if c = sep then [] :: splitChars sep rest
    else match splitChars sep rest with
      | [] => [[c]]
      | piece :: more => (c :: piece) :: more

/-- A visible character with no meaning of its own in an address, or a dot. -/
def isAddressChar (c : Char) : Bool :=
  !("()<>[]:;@\\,\"".toList.contains c) && (('!' ≤ c && c ≤ '~') || 0x80 ≤ c.toNat)

/-- Words with single dots between them. -/
def isDotAtom (cs : List Char) : Bool :=
  cs.all isAddressChar && (splitChars '.' cs).all (!·.isEmpty)

/-- An internet address as brackets hold it: one of four numbers, or any after `IPv6:`. -/
def isAddressLiteral : List Char → Bool
  | 'I' :: 'P' :: 'v' :: '6' :: ':' :: rest => isIpAddress rest
  | cs => isIpv4Address cs

/-- An internet address in brackets. -/
def isBracketedAddress : List Char → Bool
  | '[' :: rest => rest.getLast? == some ']' && isAddressLiteral rest.dropLast
  | _ => false

/-- What stands before and after the first at sign. -/
def splitAt : List Char → Option (List Char × List Char)
  | [] => none
  | c :: rest =>
    if c == '@' then some ([], rest)
    else (splitAt rest).map fun (before, after) => (c :: before, after)

/-- A local part, an at sign and a domain. -/
def isMailAddress (t : Text) : Bool :=
  t.wellFormed &&
    match splitAt t.toChars with
    | some (name, domain) => isDotAtom name && (isDotAtom domain || isBracketedAddress domain)
    | none => false

end Stockroom

import Stockroom.Json.Reader

/-!
Addresses: percent encoding, paths and query strings.

Main definitions:
* `percentDecode`, `percentEncode`;
* `Target`, `Target.ofText`: the path and the query string of a request;
* `cleanPath`: a path without empty, single-dot and double-dot segments;
* `pathSegments`, `queryPairs`, `isQuery`, `queryText`.
-/
namespace Stockroom
set_option autoImplicit false

/-! ## Percent encoding -/

/-- The byte two hexadecimal digits stand for. -/
def hexByte (high low : UInt8) : Option UInt8 := do
  let h ← Json.hexValue (Char.ofNat high.toNat)
  let l ← Json.hexValue (Char.ofNat low.toNat)
  return (16 * h + l).toUInt8

/-- Replaces a percent sign and two digits by the byte they stand for, and a plus by a space where
it means one. A percent sign without two digits fails. -/
def percentDecode (plusIsSpace : Bool) : List UInt8 → Option (List UInt8)
  | [] => some []
  | b :: rest =>
    if b == 0x25 then
      match rest with
      | high :: low :: rest =>
        match hexByte high low with
        | some x => (percentDecode plusIsSpace rest).map (x :: ·)
        | none => none
      | _ => none
    else
      (percentDecode plusIsSpace rest).map
        ((if plusIsSpace && b == 0x2B then 0x20 else b) :: ·)

/-- A byte as a percent sign and two digits. -/
def percentByte (b : UInt8) : List Char := '%' :: (hexDigits 2 b.toNat).map Char.toUpper

/-- Writes every byte as itself or, unless it may stand as it is, with a percent sign. -/
def percentEncode (plain : UInt8 → Bool) (bs : List UInt8) : List Char :=
  bs.flatMap fun b => if plain b then [Char.ofNat b.toNat] else percentByte b

/-- Whether a byte is one of some ASCII characters. -/
def isOneOf (cs : String) (b : UInt8) : Bool := cs.toList.contains (Char.ofNat b.toNat)

/-- Bytes that mean nothing but themselves anywhere. -/
def isUnreserved (b : UInt8) : Bool := (Char.ofNat b.toNat).isAlphanum || isOneOf "-_.~" b

/-- Bytes that are written as they are in a path. -/
def isPathByte (b : UInt8) : Bool := isUnreserved b || isOneOf "$&+,/:;=@" b

/-- Bytes that are taken as they are in a path. -/
def isAcceptedInPath (b : UInt8) : Bool := isPathByte b || isOneOf "!'()*[]%" b

/-- A text as a part of a query string. -/
def queryEscape (t : Text) : Text :=
  Text.ofChars ((percentEncode (fun b => isUnreserved b || b == 0x20) t.bytes).map fun c =>
    if c == ' ' then '+' else c)

/-- The query string of some pairs. -/
def queryOf (pairs : List (Text × Text)) : Text :=
  Text.join "&" (pairs.map fun (key, value) => queryEscape key ++ "=" ++ queryEscape value)

/-! ## Paths -/

/-- A path in which everything that needs it is percent encoded. -/
def escapedPath (raw : Text) : Text :=
  if raw.bytes.all isAcceptedInPath then raw
  else match percentDecode false raw.bytes with
    | some bs => Text.ofChars (percentEncode isPathByte bs)
    | none => raw

/-- Goes one segment on: a dot stays and two dots go back. -/
def enterSegment (entered : List Text) (segment : Text) : List Text :=
  if segment.isEmpty || segment == Text.ofString "." then entered
  else if segment == Text.ofString ".." then entered.dropLast
  else entered ++ [segment]

/-- The path from the root without empty segments and dots. A slash at the end stays. -/
def cleanPath (path : Text) : Text :=
  let slash : Text := "/"
  let segments := (Text.splitOn (.char '/') path).foldl enterSegment []
  if segments.isEmpty then slash
  else slash ++ Text.join slash segments ++ (if path.getLast? == some (.char '/') then slash else [])

/-- A decoded segment; one that cannot be decoded stands for itself. -/
def decodeSegment (segment : Text) : Text :=
  match percentDecode false segment.bytes with
  | some bs => Text.ofBytes bs
  | none => segment

/-- The decoded segments of a clean path; a slash at the end counts as a segment of its own. -/
def pathSegments (path : Text) : List Text :=
  ((Text.splitOn (.char '/') path).drop 1).map fun segment =>
    if segment.isEmpty then Text.ofString "/" else decodeSegment segment

/-! ## Targets -/

/-- What a request asks for: an escaped path and a query string as it was sent. -/
structure Target where
  path : Text
  query : Text
  deriving DecidableEq, Repr

namespace Target

def ofText (t : Text) : Target :=
  match Text.cut (.char '?') t with
  | some (path, query) => ⟨escapedPath path, query⟩
  | none => ⟨escapedPath t, []⟩

/-- Where a request for a path that is not clean is sent: the clean path, encoded once more. -/
def redirection (t : Target) : Text :=
  Text.ofChars (percentEncode isPathByte (cleanPath t.path).bytes) ++
    (if t.query.isEmpty then [] else .char '?' :: t.query)

end Target

/-- The key and the value of a part of a query string, unless it has a semicolon or a bad percent
sign. -/
def queryPair (part : Text) : Option (Text × Text) := do
  if part.contains (.char ';') then none
  let (key, value) := (Text.cut (.char '=') part).getD (part, [])
  let key ← percentDecode true key.bytes
  let value ← percentDecode true value.bytes
  return (Text.ofBytes key, Text.ofBytes value)

/-- The parts of a query string that are not empty. -/
def queryParts (query : Text) : List Text :=
  (Text.splitOn (.char '&') query).filter fun part => !part.isEmpty

/-- The keys and values of a query string. What is no pair is left out. -/
def queryPairs (query : Text) : List (Text × Text) := (queryParts query).filterMap queryPair

/-- Whether a query string has nothing but pairs in it. -/
def isQuery (query : Text) : Bool := (queryParts query).all fun part => (queryPair part).isSome

/-- The first value of a key, or nothing. -/
def queryText (query : Text) (key : String) : Text :=
  ((queryPairs query).lookup (Text.ofString key)).getD []

end Stockroom

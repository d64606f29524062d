import Stockroom.Codec.Base64
import Stockroom.Net.IpAddress
import Stockroom.Net.Url

/-!
Web addresses: a scheme, a user with a password, a host with a port, a path, a query string and a
fragment, each of which may be missing.

Main definitions:
* `WebAddress`, `AddressFault`: an address, and why a text is none;
* `WebAddress.parse`, `WebAddress.text`: reading an address, and writing it as it is sent;
* `Credentials.authorization`: what a user and a password say to a server;
* `WebAddress.shown`: an address without its password.
-/
namespace Stockroom
set_option autoImplicit false

/-! ## Faults -/

/-- What is wrong with an address. -/
inductive AddressCause where
  | controlCharacter
  | schemeMissing
  | colonInFirstSegment
  | badPort (port : Text)
  | badHostByte (byte : UInt8)
  | badEscape (escape : Text)
  | badLiteral
  | unclosedBracket
  | badIpAddress (text : List Char) (fault : IpFault)
  | badUser
  deriving DecidableEq, Repr

def AddressCause.message : AddressCause → Text
  | .controlCharacter => "net/url: invalid control character in URL"
  | .schemeMissing => "missing protocol scheme"
  | .colonInFirstSegment => "first path segment in URL cannot contain colon"
  | .badPort port => "invalid port " ++ port.quoted ++ " after host"
  | .badHostByte byte =>
    "invalid character " ++ Text.quoted [.char (Char.ofNat byte.toNat)] ++ " in host name"
  | .badEscape escape => "invalid URL escape " ++ escape.quoted
  | .badLiteral => "invalid IP-literal"
  | .unclosedBracket => "missing ']' in host"
  | .badIpAddress text fault => Text.ofString "invalid host: " ++ fault.message text
  | .badUser => "net/url: invalid userinfo"

/-- A cause, and the text it is said of. -/
structure AddressFault where
  text : Text
  cause : AddressCause
  deriving DecidableEq, Repr

def AddressFault.message (f : AddressFault) : Text :=
  "parse " ++ f.text.quoted ++ ": " ++ f.cause.message

/-! ## Escapes -/

/-- The first percent sign that two digits do not follow, with the bytes after it. -/
def badEscape (bs : List UInt8) : Text :=
  match bs with
  | [] => []
  | b :: rest =>
    if b == 0x25 && (percentDecode false ((b :: rest).take 3)).isNone then
      Text.ofBytes ((b :: rest).take 3)
    else badEscape rest

/-- Decodes percent signs. -/
def decodeBytes (t : Text) : Except AddressCause Text :=
  match percentDecode false t.bytes with
  | some bs => .ok (Text.ofBytes bs)
  | none => .error (.badEscape (badEscape t.bytes))

/-- Bytes that are written as they are in a host. -/
def isHostByte (b : UInt8) : Bool := isUnreserved b || isOneOf "!$&'()*+,;=:[]<>\"" b

/-- Whether a host may have a byte in escaped form: only a percent sign or a byte beyond ASCII. A zone
may also have a space and everything that needs no escape. -/
def mayBeEscaped (zone : Bool) (b : UInt8) : Bool :=
  b == 0x25 || (if zone then b == 0x20 || isHostByte b else 0x80 ≤ b)

/-- Decodes the bytes of a host or of a zone. -/
def decodeHostBytes (zone : Bool) : List UInt8 → Except AddressCause (List UInt8)
  | [] => .ok []
  | b :: rest =>
    if b == 0x25 then
      match rest with
      | high :: low :: rest =>
        match hexByte high low with
        | some x =>
          if mayBeEscaped zone x then (decodeHostBytes zone rest).map (x :: ·)
          else .error (.badEscape (Text.ofBytes [b, high, low]))
        | none => .error (.badEscape (Text.ofBytes [b, high, low]))
      | rest => .error (.badEscape (Text.ofBytes (b :: rest)))
    else if b < 0x80 && !isHostByte b then .error (.badHostByte b)
    else (decodeHostBytes zone rest).map (b :: ·)

def decodeHost (zone : Bool) (t : Text) : Except AddressCause Text :=
  (decodeHostBytes zone t.bytes).map Text.ofBytes

/-! ## Hosts -/

/-- Whether a text is nothing, or a colon with digits, of which there may be none. -/
def isOptionalPort : Text → Bool
  | [] => true
  | .char ':' :: digits => (Text.toChars digits).all Char.isDigit
  | _ => false

/-- The text before the last occurrence of a glyph, and the text from it on. -/
def cutLast (sep : Glyph) (t : Text) : Option (Text × Text) :=
  let tail : Text := (t.reverse.takeWhile (· != sep)).reverse
  if tail.length < t.length then some (t.take (t.length - tail.length - 1), sep :: tail) else none

/-- The beginning of a zone as an address writes it. -/
def zoneMark : Text := "%25"

/-- The text before the first mark of a zone, and the text from it on. -/
def cutZone : Text → Text × Text
  | [] => ([], [])
  | g :: rest =>
    if zoneMark.isPrefixOf (g :: rest) then ([], g :: rest)
    else
      let (before, after) := cutZone rest
      (g :: before, after)

/-- An address of groups in brackets with an optional port after it. -/
def readLiteral (inner port : Text) : Except AddressCause Text := do
  if !isOptionalPort port then throw (.badPort port)
  let port ← decodeHost false port
  let (address, zone) := cutZone inner
  let name := (← decodeHost false address) ++ (← decodeHost true zone)
  match IpAddress.parse name.toChars with
  | .error fault => throw (.badIpAddress name.toChars fault)
  | .ok (.four _) => throw .badLiteral
  | .ok (.six ..) => return Text.ofString "[" ++ name ++ Text.ofString "]" ++ port

/-- A host with its port, decoded. -/
def readHost (host : Text) : Except AddressCause Text :=
  match cutLast (.char '[') host with
  | some (_ :: _, _) => .error .badLiteral
  | some ([], _) =>
    match cutLast (.char ']') host with
    | none => .error .unclosedBracket
    | some (before, after) => readLiteral (before.drop 1) (after.drop 1)
  | none => do
    match cutLast (.char ':') host with
    | some (_, port) => if !isOptionalPort port then throw (.badPort port)
    | none => pure ()
    decodeHost false host

/-- What follows the last colon of a host, unless it stands in brackets. -/
def portOf (host : Text) : Option Text :=
  let tail : Text := (host.reverse.takeWhile fun g => g != .char ':' && g != .char ']').reverse
  match host.reverse.drop tail.length with
  | .char ':' :: _ => some tail
  | _ => none

/-! ## Users -/

/-- A user and perhaps a password, decoded. -/
structure Credentials where
  name : Text
  password : Option Text := none
  deriving DecidableEq, Repr

/-- Whether a character may stand in a user or a password. -/
def isUserGlyph : Glyph → Bool
  | .char c => c.isAlphanum || "-._:~!$&'()*+,;=%@".toList.contains c
  | .stray _ => false

/-- Bytes that are written as they are in a user or a password. -/
def isUserByte (b : UInt8) : Bool := isUnreserved b || isOneOf "$&+,;=" b

def Credentials.parse (t : Text) : Except AddressCause Credentials := do
  if !t.all isUserGlyph then throw .badUser
  match Text.cut (.char ':') t with
  | none => return ⟨← decodeBytes t, none⟩
  | some (name, password) => return ⟨← decodeBytes name, some (← decodeBytes password)⟩

def escapeUser (t : Text) : Text := Text.ofChars (percentEncode isUserByte t.bytes)

def Credentials.text (c : Credentials) : Text :=
  escapeUser c.name ++
    match c.password with
    | some password => .char ':' :: escapeUser password
    | none => []

/-- What a user and a password say to a server. -/
def Credentials.authorization (c : Credentials) : Text :=
  Text.ofString "Basic " ++
    Text.ofChars (Base64.encodePadded Base64.standard
      (Text.bytes (c.name ++ .char ':' :: c.password.getD [])))

/-! ## Addresses -/

/-- An address. What follows a scheme without a slash is not taken apart. -/
structure WebAddress where
  scheme : Text := []
  rootless : Text := []
  user : Option Credentials := none
  host : Text := []
  /-- Whether a scheme is followed by the path, with no place for a host. -/
  hostless : Bool := false
  /-- The path as it is sent. -/
  path : Text := []
  query : Option Text := none
  /-- The fragment as it is sent. -/
  fragment : Text := []
  deriving DecidableEq, Repr

/-- Cuts the scheme, in small letters, off an address. -/
def splitScheme (address : Text) : Except AddressCause (Text × Text) :=
  let inScheme (g : Glyph) : Bool :=
    match g with
    | .char c => c.isAlphanum || c == '+' || c == '-' || c == '.'
    | .stray _ => false
  match Text.cut (.char ':') address with
  | none => .ok ([], address)
  | some ([], _) => .error .schemeMissing
  | some (scheme, rest) =>
    if (scheme.head?.map (·.toChar.isAlpha)).getD false && scheme.all inScheme then
      .ok (Text.ofChars (scheme.toChars.map Char.toLower), rest)
    else .ok ([], address)

/-- Cuts the query string off. -/
def splitQuery (t : Text) : Text × Option Text :=
  match Text.cut (.char '?') t with
  | some (before, query) => (before, some query)
  | none => (t, none)

/-- The path of an address as it is sent. -/
def pathText (path : Text) : Except AddressCause Text := do
  let _ ← decodeBytes path
  return escapedPath path

/-- Bytes that are written as they are in a fragment. -/
def isFragmentByte (b : UInt8) : Bool := isUnreserved b || isOneOf "$&+,/:;=?@!()*" b

/-- Bytes that are taken as they are in a fragment. -/
def isAcceptedInFragment (b : UInt8) : Bool := isFragmentByte b || isOneOf "'[]%" b

/-- The fragment of an address as it is sent. -/
def fragmentText (fragment : Text) : Except AddressCause Text := do
  let decoded ← decodeBytes fragment
  if fragment.bytes.all isAcceptedInFragment then return fragment
  return Text.ofChars (percentEncode isFragmentByte decoded.bytes)

/-- A user before the last at sign, and a host. -/
def readAuthority (authority : Text) : Except AddressCause (Option Credentials × Text) :=
  match cutLast (.char '@') authority with
  | none => do return (none, ← readHost authority)
  | some (user, host) => do
    let host ← readHost (host.drop 1)
    return (some (← Credentials.parse user), host)

/-- A host without a port that has no digits. -/
def withoutEmptyPort (host : Text) : Text := if portOf host == some [] then host.dropLast else host

/-- Reads an address without a fragment. -/
def WebAddress.parseWhole (t : Text) : Except AddressCause WebAddress := do
  if t.bytes.any fun b => b < 0x20 || b == 0x7F then throw .controlCharacter
  if t == Text.ofString "*" then return { path := t }
  let (scheme, rest) ← splitScheme t
  let (rest, query) := splitQuery rest
  let rooted := rest.head? == some (.char '/')
  if !rooted && !scheme.isEmpty then return { scheme, rootless := rest, query }
  if !rooted && (rest.takeWhile (· != .char '/')).contains (.char ':') then
    throw .colonInFirstSegment
  match Text.after? "//" rest with
  | some after =>
    if scheme.isEmpty && after.head? == some (.char '/') then
      return { path := ← pathText rest, query }
    let authority : Text := after.takeWhile (· != .char '/')
    let (user, host) ← readAuthority authority
    let path ← pathText (after.drop authority.length)
    return { scheme, user, host := withoutEmptyPort host, path, query }
  | none => return { scheme, hostless := rooted, path := ← pathText rest, query }

/-- Reads an address. -/
def WebAddress.parse (t : Text) : Except AddressFault WebAddress :=
  let (whole, fragment) := (Text.cut (.char '#') t).getD (t, [])
  match WebAddress.parseWhole whole with
  | .error cause => .error ⟨whole, cause⟩
  | .ok address =>
    match fragmentText fragment with
    | .error cause => .error ⟨t, cause⟩
    | .ok fragment => .ok { address with fragment }

namespace WebAddress

/-- The user and the host behind two slashes. -/
def authorityText (a : WebAddress) : Text :=
  if a.scheme.isEmpty && a.host.isEmpty && a.user.isNone then []
  else if a.hostless && a.host.isEmpty && a.user.isNone then []
  else
    (if a.host.isEmpty && a.path.isEmpty && a.user.isNone then [] else Text.ofString "//") ++
      (match a.user with | some c => c.text ++ [.char '@'] | none => []) ++
      Text.ofChars (percentEncode isHostByte a.host.bytes)

/-- The address as it is sent. -/
def text (a : WebAddress) : Text :=
  (if a.scheme.isEmpty then [] else a.scheme ++ [.char ':']) ++
    (if a.rootless.isEmpty then a.authorityText ++ a.path else a.rootless) ++
    (match a.query with | some query => .char '?' :: query | none => []) ++
    (if a.fragment.isEmpty then [] else .char '#' :: a.fragment)

/-- The address as messages show it: a password is not told. -/
def shown (a : WebAddress) : Text :=
  match a.user with
  | some ⟨name, some _⟩ =>
    let before : Text := a.scheme ++ Text.ofString (if a.scheme.isEmpty then "//" else "://")
    let after : Text := (Text.after? (before ++ a.user.elim [] Credentials.text) a.text).getD []
    before ++ name ++ Text.ofString ":***" ++ after
  | _ => a.text

end WebAddress
end Stockroom

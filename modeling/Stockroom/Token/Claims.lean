import Stockroom.Calendar.Instant
import Stockroom.Codec.Base64
import Stockroom.Codec.Sha256
import Stockroom.Json.Record
import Stockroom.Number.Literal
import Stockroom.Record.Account

/-!
Tokens that prove who a request comes from. A token has three parts with dots between them: a header
that names the signing method, claims, and a signature made with a secret. Header and claims are
JSON; all parts are in base 64.

Main definitions:
* `Claims`, `Claims.ofAccount`;
* `Token.sign`: the token of claims;
* `TokenError`, `Token.validate`: the claims of a token that is signed with the secret, names its
  issuer and has not expired.
-/
namespace Stockroom
set_option autoImplicit false

/-- Who issues tokens. -/
def tokenIssuer : Text := "inventaire"

/-- How long a token is valid, in seconds. -/
def tokenLifetime : Int := 7 * 24 * 3600

/-- What a token says. Times are seconds since the start of 1970. -/
structure Claims where
  userId : Int := 0
  username : Text := []
  role : Text := []
  branch : Text := []
  issuer : Text := []
  subject : Text := []
  audience : List Text := []
  expiry : Option Int := none
  notBefore : Option Int := none
  issuedAt : Option Int := none
  id : Text := []
  deriving DecidableEq, Repr

/-- The claims of an account's token with an identity of its own. -/
def Claims.ofAccount (a : Account) (id : Text) (now : Int) : Claims :=
  { userId := a.id, username := a.username, role := a.role, branch := a.branch
    issuer := tokenIssuer, subject := a.username, id
    expiry := some (now + tokenLifetime), issuedAt := some now }

/-! ## Claims as JSON -/

namespace Claims

open Json (Field textField intField member memberUnlessEmpty)

/-- A time: a number, or a text that is one, without its fraction. -/
def readSeconds (literal : List Char) : Option Int := do
  let x ← readDouble literal
  let t := x.truncate
  if !fitsInt64 t then return minInt64
  else if x.isNegative && x.whole?.isNone then return t - 1
  else return t

/-- A time that may be missing; a null removes it. -/
def secondsField (name : String) (set : Claims → Option Int → Claims) : Field Unit Claims where
  name := name
  read r _ v :=
    let step (literal : List Char) : Json.Step Unit Claims :=
      match readSeconds literal with
      | some t => .done (set r (some t))
      | none => .stop ()
    match v with
    | .null => .done (set r none)
    | .number literal => step literal
    | .string t => match Json.readNumber t.toChars with
      | some (literal, []) => step literal
      | _ => .stop ()
    | _ => .stop ()

/-- Those for whom a token is meant: one text or several. -/
def audienceField : Field Unit Claims where
  name := "aud"
  read r _ v :=
    match v with
    | .null => .done r
    | .string t => .done { r with audience := [t] }
    | .array items =>
      match items.mapM fun | .string t => some t | _ => none with
      | some ts => .done { r with audience := ts }
      | none => .stop ()
    | _ => .stop ()

def fields : List (Field Unit Claims) :=
  [intField "user_id" fun c i => { c with userId := i },
    textField "username" fun c t => { c with username := t },
    textField "role" fun c t => { c with role := t },
    textField "branch" fun c t => { c with branch := t },
    textField "iss" fun c t => { c with issuer := t },
    textField "sub" fun c t => { c with subject := t },
    audienceField,
    secondsField "exp" fun c t => { c with expiry := t },
    secondsField "nbf" fun c t => { c with notBefore := t },
    secondsField "iat" fun c t => { c with issuedAt := t },
    textField "jti" fun c t => { c with id := t }]

def secondsMember (key : String) (t : Option Int) : List (Text × List Char × Json) :=
  match t with
  | some t => [member key (.int t)]
  | none => []

def toJson (c : Claims) : Json :=
  .object ([member "user_id" (.int c.userId), member "username" (.string c.username),
      member "role" (.string c.role)] ++
    memberUnlessEmpty "branch" c.branch ++
    memberUnlessEmpty "iss" c.issuer ++
    memberUnlessEmpty "sub" c.subject ++
    (if c.audience.isEmpty then [] else [member "aud" (.array (c.audience.map .string))]) ++
    secondsMember "exp" c.expiry ++
    secondsMember "nbf" c.notBefore ++
    secondsMember "iat" c.issuedAt ++
    memberUnlessEmpty "jti" c.id)

end Claims

/-! ## Tokens -/

namespace Token

/-- The signing method of all tokens. -/
def signingMethod : Text := "HS256"

/-- The signing methods that are known but, but for one, not taken. -/
def knownMethods : List String :=
  ["HS256", "HS384", "HS512", "RS256", "RS384", "RS512", "PS256", "PS384", "PS512", "ES256",
    "ES384", "ES512", "EdDSA", "none"]

def header : Json :=
  .object [Json.member "alg" (.string signingMethod), Json.member "typ" (.string "JWT")]

/-- A JSON value as a part of a token. -/
def encodePart (v : Json) : Text :=
  Text.ofChars (Base64.encode Base64.urlSafe (Text.ofChars v.render).bytes)

/-- The signature of the first two parts. -/
def signature (secret signed : Text) : List UInt8 := Sha256.hmac secret.bytes signed.bytes

/-- The token of claims. -/
def sign (secret : Text) (c : Claims) : Text :=
  let signed := encodePart header ++ [.char '.'] ++ encodePart c.toJson
  signed ++ [.char '.'] ++
    Text.ofChars (Base64.encode Base64.urlSafe (signature secret signed))

/-- Why a token is refused. -/
inductive TokenError where
  | malformed
  | unverifiable
  | signatureInvalid
  | requiredClaimMissing
  | expired
  | notValidYet
  | invalidIssuer
  deriving DecidableEq, Repr

/-- The bytes of a part. -/
def decodePart (part : Text) : Option (List UInt8) := Base64.decode Base64.urlSafe part.toChars

mutual

/-- Whether every number of a value can be told as a double. -/
def numbersFit : Json → Bool
  | .number literal => (readDouble literal).isSome
  | .array items => itemsFit items
  | .object members => membersFit members
  | _ => true

def itemsFit : List Json → Bool
  | [] => true
  | v :: rest => numbersFit v && itemsFit rest

def membersFit : List (Text × List Char × Json) → Bool
  | [] => true
  | (_, _, v) :: rest => numbersFit v && membersFit rest

end

/-- The signing method a header names, empty when it names none. -/
def methodOf (part : Text) : Option Text := do
  let bytes ← decodePart part
  match Json.read (Text.ofBytes bytes).toChars with
  | some (.object members) =>
    if membersFit members then
      match members.reverse.find? fun m => m.1 = Text.ofString "alg" with
      | some (_, _, .string method) => some method
      | _ => some []
    else none
  | some .null => some []
  | _ => none

/-- The claims of a part. -/
def claimsOf (part : Text) : Option Claims := do
  let bytes ← decodePart part
  (Json.decodeText Claims.fields {} (Text.ofBytes bytes).toChars).toOption

/-- The point in time of a claim. Seconds are kept from the year one on in sixty-four bits, so those
that are too many for it lie in the far past. -/
def pointOf (seconds : Int) : Instant :=
  { unix := wrapInt64 (seconds - Instant.unset.unix) + Instant.unset.unix }

/-- What is wrong with claims at a time; of several faults the first of the list. -/
def fault (c : Claims) (now : Instant) : Option TokenError :=
  if c.expiry.isNone || c.issuer.isEmpty then some .requiredClaimMissing
  else if c.expiry.any fun t => !now.isBefore (pointOf t) then some .expired
  else if c.notBefore.any fun t => now.isBefore (pointOf t) then some .notValidYet
  else if c.issuer ≠ tokenIssuer then some .invalidIssuer
  else none

/-- The claims of a token. -/
def validate (secret : Text) (now : Instant) (token : Text) : Except TokenError Claims :=
  match Text.splitOn (.char '.') token with
  | [headerPart, claimsPart, signaturePart] =>
    match methodOf headerPart, claimsOf claimsPart with
    | some method, some c =>
      if knownMethods.all fun m => method ≠ Text.ofString m then .error .unverifiable
      else if method ≠ signingMethod then .error .signatureInvalid
      else match decodePart signaturePart with
        | none => .error .malformed
        | some bytes =>
          if bytes ≠ signature secret (headerPart ++ [.char '.'] ++ claimsPart) then
            .error .signatureInvalid
          else match fault c now with
            | some e => .error e
            | none => .ok c
    | _, _ => .error .malformed
  | _ => .error .malformed

end Token
end Stockroom

import Stockroom.Api.Session
import Stockroom.Store.Accounts

/-!
Signing in and out, and what one may do with one's own account.

Main definitions: `login`, `logout`, `me`, `changePassword`.
-/
namespace Stockroom
set_option autoImplicit false

namespace Api

open Json (textField member)

/-- A username and a password. -/
structure Credentials where
  username : Text := []
  password : Text := []
  deriving DecidableEq, Repr

instance : Inhabited Credentials := ⟨{}⟩

def Credentials.wireFields : List (Json.Field Refusal Credentials) :=
  [textField "username" fun r t => { r with username := t },
    textField "password" fun r t => { r with password := t }]

/-- The old and the new password. -/
structure PasswordChange where
  current : Text := []
  new : Text := []
  deriving DecidableEq, Repr

instance : Inhabited PasswordChange := ⟨{}⟩

def PasswordChange.wireFields : List (Json.Field Refusal PasswordChange) :=
  [textField "current_password" fun r t => { r with current := t },
    textField "new_password" fun r t => { r with new := t }]

/-- The hash of a password that is long enough, but not too long. -/
def hashOrRefuse (password : Text) : Except Response PasswordHash :=
  match PasswordHash.ofPassword password.bytes with
  | some hash => .ok hash
  | none => refuse 500 "failed to hash password"

def requireStrong (password : Text) : Except Response Unit :=
  if isStrongPassword password then .ok () else refuse 400 weakPasswordMessage

/-- Issues a token to whoever knows the password of an active account. -/
def login (ctx : Context) (s : Store) (req : Request) : Outcome := do
  let sent ← sentRecord Credentials.wireFields req
  if sent.username.isEmpty || sent.password.isEmpty then refuse 400 "username and password required"
  match ← orRefuse (s.accountNamed? sent.username) 500 "internal error" with
  | none => refuse 401 "invalid credentials"
  | some account =>
    if !account.isActive || !account.passwordHash.fits sent.password.bytes then
      refuse 401 "invalid credentials"
    let token := Token.sign ctx.secret (Claims.ofAccount account ctx.tokenId ctx.now.unix)
    return (.json 200 (.object [member "token" (.string token), member "user" account.toJson]), s)

/-- Revokes the token of the request. -/
def logout (claims : Claims) (s : Store) : Outcome := do
  let s ← orRefuse (s.revoke claims.id { unix := claims.expiry.getD 0 }) 500 "failed to log out"
  return (.done "logged out", s)

/-- One's own account. -/
def me (claims : Claims) (s : Store) : Outcome := do
  match ← orRefuse (s.account? claims.userId) 500 "internal error" with
  | none => refuse 401 "account no longer exists"
  | some account =>
    if !account.isActive then refuse 401 "account no longer exists"
    return (.json 200 account.toJson, s)

/-- Gives one's own account a new password. -/
def changePassword (claims : Claims) (s : Store) (req : Request) : Outcome := do
  let sent ← sentRecord PasswordChange.wireFields req
  if sent.current.isEmpty || sent.new.isEmpty then refuse 400 "current and new password required"
  requireStrong sent.new
  match ← orRefuse (s.account? claims.userId) 500 "internal error" with
  | none => refuse 500 "internal error"
  | some account =>
    if !account.passwordHash.fits sent.current.bytes then refuse 401 "current password is incorrect"
    let hash ← hashOrRefuse sent.new
    let s ← orRefuse (s.updatePassword claims.userId hash) 500 "failed to update password"
    return (.done "password updated", s)

end Api
end Stockroom

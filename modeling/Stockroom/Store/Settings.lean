import Stockroom.Store.Basic

/-!
Settings and revoked tokens. A setting is written once: whoever asks for it first brings the value,
and everyone gets that one. A revoked token is remembered until it would have expired.

Main definitions: `Store.offerSetting`, `Store.setting?`, `Store.ensureSetting`,
`Store.revoke`, `Store.isRevoked`, `Store.forgetRevoked`.
-/
namespace Stockroom
set_option autoImplicit false

/-- Whether a revocation's token expired before a time, by the text of the column. -/
def Revocation.isOver (r : Revocation) (now : Instant) : Bool :=
  !Text.le now.column r.expiresAt.column

namespace Store

/-! ## Settings -/

/-- The key under which the secret of the tokens is kept. -/
def secretKey : Text := "jwt_secret"

/-- Stores a value unless the key has one. -/
def offerSetting (s : Store) (key candidate : Text) : Except StoreError Store := do
  s.writable .settings true ("storing " ++ key)
  if (s.settings.lookup key).isSome then return s
  return { s with settings := s.settings ++ [(key, candidate)] }

/-- The value of a key. -/
def setting? (s : Store) (key : Text) : Except StoreError Text := do
  s.readable [.settings] ("querying " ++ key)
  match s.settings.lookup key with
  | some value => return value
  | none => throw (.database ("querying " ++ key))

/-- The value of a key, which is the generated one if the key had none. -/
def ensureSetting (s : Store) (key : Text) (generated : Except Text Text) :
    Except StoreError (Text × Store) := do
  match generated with
  | .error message => throw (.generator key message)
  | .ok candidate =>
    let s ← s.offerSetting key candidate
    return (← s.setting? key, s)

/-! ## Revoked tokens -/

/-- Remembers that a token was given up. -/
def revoke (s : Store) (tokenId : Text) (expiresAt : Instant) : Except StoreError Store := do
  s.writable .revocations true "revoking token"
  if s.revocations.any (·.tokenId == tokenId) then return s
  return { s with revocations := s.revocations ++ [⟨tokenId, expiresAt⟩] }

def isRevoked (s : Store) (tokenId : Text) : Except StoreError Bool := do
  s.readable [.revocations] "checking token revocation"
  return s.revocations.any (·.tokenId == tokenId)

/-- Forgets the tokens that expired before a time and says how many there were. -/
def forgetRevoked (s : Store) (now : Instant) : Except StoreError (Nat × Store) := do
  let expired := s.revocations.countP (·.isOver now)
  s.writable .revocations (expired != 0) "purging revoked tokens"
  return (expired, { s with revocations := s.revocations.filter fun r => !r.isOver now })

end Store
end Stockroom

import Stockroom.Api.Route
import Stockroom.Record.Wire
import Stockroom.Store.Settings
import Stockroom.Token.Claims

/-!
What a request is handled with, who is asking, and what a refusal looks like. A refusal is an error
that carries its response, so that whatever is refused leaves the store as it was.

Main definitions: `Context`, `Outcome`, `authenticate`, `requireAccess`, `mayAccess`,
`visibleBranch`.
-/
namespace Stockroom
set_option autoImplicit false

namespace Api

/-- The secret of the tokens, the time, and the id that a token issued now would have. -/
structure Context where
  secret : Text
  now : Instant
  tokenId : Text

/-- A refusal, or a response and the store after it. -/
abbrev Outcome := Except Response (Response × Store)

def refuse {α : Type} (status : Nat) (message : Text) : Except Response α :=
  .error (.failure status message)

/-! ## Who is asking -/

/-- The claims of the token that came with a request. -/
def authenticate (ctx : Context) (s : Store) (req : Request) : Except Response Claims :=
  match Text.after? "Bearer " (req.header "Authorization") with
  | none => refuse 401 "missing or invalid authorization header"
  | some token =>
    match Token.validate ctx.secret ctx.now token with
    | .error _ => refuse 401 "invalid token"
    | .ok claims =>
      match s.isRevoked claims.id with
      | .error _ => refuse 500 "internal error"
      | .ok true => refuse 401 "token revoked"
      | .ok false => .ok claims

/-- Whether claims are enough for an access level. -/
def Access.admits (access : Access) (claims : Claims) : Bool :=
  match access with
  | .anyone | .signedIn => true
  | .manager => roleReaches claims.role Role.manager.tag
  | .admin => roleReaches claims.role Role.admin.tag

def requireAccess (access : Access) (claims : Claims) : Except Response Unit :=
  if access.admits claims then .ok () else refuse 403 "insufficient permissions"

def isAdmin (claims : Claims) : Bool := claims.role == Role.admin.tag

def mayAccess (claims : Claims) (branch : Text) : Bool :=
  mayAccessBranch claims.role claims.branch branch

/-- The branch a list is restricted to, an empty one meaning all; none where there is no access. An
administrator sees what was asked for, anyone else one branch only. -/
def visibleBranch (claims : Claims) (requested : Text) : Option Text :=
  if isAdmin claims then some requested
  else if !requested.isEmpty && requested != claims.branch then none
  else if claims.branch.isEmpty then none
  else some claims.branch

/-- The branch to which the query string and the claims restrict a list. -/
def listedBranch (claims : Claims) (req : Request) : Except Response Text :=
  match visibleBranch claims (req.param "branche") with
  | some branch => .ok branch
  | none => refuse 403 "no access to branch"

/-! ## Reading requests -/

/-- The id in a path. -/
def idOf (segment : Text) (what : Text) : Except Response Int :=
  match readInt64 segment.toChars with
  | some id => .ok id
  | none => refuse 400 ("invalid " ++ what ++ " id")

/-- The record that was sent. -/
def sentRecord {ε ρ : Type} [Inhabited ρ] (fields : List (Json.Field ε ρ)) (req : Request) :
    Except Response ρ :=
  match Json.decodeFirst fields default req.text with
  | .ok r => .ok r
  | .error _ => refuse 400 "invalid request body"

/-! ## Errors of the store -/

/-- Any error is answered alike. -/
def orRefuse {α : Type} (r : Except StoreError α) (status : Nat) (message : Text) :
    Except Response α :=
  match r with
  | .ok x => .ok x
  | .error _ => refuse status message

/-- An invalid record is explained; anything else is an error of the server. -/
def orExplain {α : Type} (r : Except StoreError α) (action : Text) : Except Response α :=
  match r with
  | .ok x => .ok x
  | .error (.invalid cause) => refuse 400 (StoreError.invalid cause).message
  | .error _ => refuse 500 ("failed to " ++ action)

/-- What must be there. -/
def orMissing {α : Type} (r : Option α) (message : Text) : Except Response α :=
  match r with
  | some x => .ok x
  | none => refuse 404 message

end Api
end Stockroom

import Stockroom.Api.Login
import Stockroom.Store.Branches

/-!
The accounts, which an administrator manages. A branch manager belongs to a branch that exists, an
administrator to none, and nobody takes away their own rights.

Main definitions: `checkedBranch`, `listAccounts`, `createAccount`, `getAccount`, `updateAccount`,
`resetPassword`, `deleteAccount`.
-/
namespace Stockroom
set_option autoImplicit false

namespace Api

open Json (textField)

/-- What is sent about an account. -/
structure AccountForm where
  username : Text := []
  password : Text := []
  role : Text := []
  branch : Text := []
  deriving DecidableEq, Repr

instance : Inhabited AccountForm := ⟨{}⟩

namespace AccountForm

def newFields : List (Json.Field Refusal AccountForm) :=
  [textField "username" fun r t => { r with username := t },
    textField "password" fun r t => { r with password := t },
    textField "role" fun r t => { r with role := t },
    textField "branch" fun r t => { r with branch := t }]

def changeFields : List (Json.Field Refusal AccountForm) :=
  [textField "role" fun r t => { r with role := t },
    textField "branch" fun r t => { r with branch := t }]

def passwordFields : List (Json.Field Refusal AccountForm) :=
  [textField "password" fun r t => { r with password := t }]

end AccountForm

/-- The branch of an account with a role. -/
def checkedBranch (s : Store) (role branch : Text) : Except Response Text :=
  match Role.ofTag role with
  | none => refuse 400 "invalid role"
  | some .admin => .ok []
  | some .manager =>
    if branch.isEmpty then refuse 400 "branch required for role responsable"
    else match s.branchNamed? branch with
      | .error _ => refuse 400 "failed to check branch"
      | .ok none => refuse 400 "unknown branch"
      | .ok (some _) => .ok branch

def listAccounts (s : Store) : Outcome := do
  let rows ← orRefuse s.accountList 500 "failed to list users"
  return (.json 200 (.array (rows.map Account.toJson)), s)

def createAccount (ctx : Context) (s : Store) (req : Request) : Outcome := do
  let sent ← sentRecord AccountForm.newFields req
  if sent.username.isEmpty || sent.password.isEmpty || sent.role.isEmpty then
    refuse 400 "username, password, and role required"
  let branch ← checkedBranch s sent.role sent.branch
  requireStrong sent.password
  let hash ← hashOrRefuse sent.password
  let (account, s) ←
    orRefuse (s.createAccount ctx.now sent.username hash sent.role branch) 409
      "username already exists"
  return (.json 201 account.toJson, s)

def getAccount (s : Store) (segment : Text) : Outcome := do
  let id ← idOf segment "user"
  let account ← orMissing (← orRefuse (s.account? id) 500 "failed to get user") "user not found"
  return (.json 200 account.toJson, s)

/-- The active account with an id. -/
def activeAccount (s : Store) (id : Int) : Except Response Account := do
  let account ← orMissing (← orRefuse (s.account? id) 404 "user not found") "user not found"
  if account.isActive then return account else refuse 404 "user not found"

/-- Gives an account a role and a branch. The account is read again afterwards. -/
def updateAccount (claims : Claims) (s : Store) (segment : Text) (req : Request) : Outcome := do
  let id ← idOf segment "user"
  let sent ← sentRecord AccountForm.changeFields req
  let branch ← checkedBranch s sent.role sent.branch
  if claims.userId == id && sent.role != Role.admin.tag then refuse 400 "cannot demote yourself"
  let s ← orRefuse (s.updateAccount id sent.role branch) 500 "failed to update user"
  match activeAccount s id with
  | .ok account => return (.json 200 account.toJson, s)
  | .error response => return (response, s)

def resetPassword (s : Store) (segment : Text) (req : Request) : Outcome := do
  let id ← idOf segment "user"
  let sent ← sentRecord AccountForm.passwordFields req
  if sent.password.isEmpty then refuse 400 "password required"
  requireStrong sent.password
  let _ ← activeAccount s id
  let hash ← hashOrRefuse sent.password
  let s ← orRefuse (s.updatePassword id hash) 500 "failed to reset password"
  return (.done "password reset", s)

def deleteAccount (ctx : Context) (claims : Claims) (s : Store) (segment : Text) : Outcome := do
  let id ← idOf segment "user"
  if claims.userId == id then refuse 400 "cannot delete yourself"
  let s ← orRefuse (s.deleteAccount ctx.now id) 404 "user not found"
  return (.done "user deleted", s)

end Api
end Stockroom

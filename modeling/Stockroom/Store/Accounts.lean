import Stockroom.Store.Basic

/-!
Accounts. Two accounts that are not deleted never share a username; a deleted account is kept and
its username may be given again.

Main definitions: `Store.createAccount`, `Store.account?`, `Store.accountNamed?`,
`Store.accountList`, `Store.updateAccount`, `Store.updatePassword`, `Store.deleteAccount`,
`Store.readAdminCount`.
-/
namespace Stockroom
set_option autoImplicit false

namespace Store

/-! ## Reading -/

/-- A row that was found is loaded. -/
def loadAccount (s : Store) (activity : Text) : Option Account → Except StoreError (Option Account)
  | none => .ok none
  | some r => do
    s.loadable .accounts r.id activity
    return some r

/-- The account with an id, deleted or not. -/
def account? (s : Store) (id : Int) : Except StoreError (Option Account) := do
  s.readable [.accounts] "getting user"
  s.loadAccount "getting user" (s.accounts.find? (·.id == id))

/-- The account a username stands for: the active one, or else the one that was added last. -/
def accountOf? (s : Store) (username : Text) : Option Account :=
  let named := s.accounts.filter (·.username == username)
  (latestBy? (·.id) (named.filter (·.isActive))).or (latestBy? (·.id) named)

def accountNamed? (s : Store) (username : Text) : Except StoreError (Option Account) := do
  s.readable [.accounts] "getting user by username"
  s.loadAccount "getting user by username" (s.accountOf? username)

/-- The active accounts by id. -/
def activeAccounts (s : Store) : List Account :=
  sortedBy (fun a b => compare a.id b.id) (s.accounts.filter (·.isActive))

def accountList (s : Store) : Except StoreError (List Account) := do
  s.readable [.accounts] "listing users"
  let rows := s.activeAccounts
  s.allLoadable .accounts (rows.map (·.id)) "scanning user"
  return rows

/-- The number of active administrators. -/
def adminCount (s : Store) : Nat :=
  s.accounts.countP fun r => r.role == Role.admin.tag && r.isActive

def readAdminCount (s : Store) : Except StoreError Nat := do
  s.readable [.accounts] "counting admins"
  return s.adminCount

/-! ## Writing -/

/-- Whether an active account has the username. -/
def usernameTaken (s : Store) (username : Text) : Bool :=
  s.accounts.any fun r => r.isActive && r.username == username

/-- Whether an id is that of an active account. -/
def hasActiveAccount (s : Store) (id : Int) : Bool :=
  s.accounts.any fun r => r.id == id && r.isActive

/-- The table with a change to one active account. -/
def mapAccount (s : Store) (id : Int) (change : Account → Account) : Store :=
  { s with accounts := s.accounts.map fun r => if r.id == id && r.isActive then change r else r }

/-- Adds an account. Only known roles are taken. -/
def createAccount (s : Store) (now : Instant) (username : Text) (passwordHash : PasswordHash)
    (role branch : Text) : Except StoreError (Account × Store) := do
  s.writable .accounts true "creating user"
  if (Role.ofTag role).isNone || s.usernameTaken username then throw (.database "creating user")
  let row : Account :=
    { id := nextId (s.accounts.map (·.id)), username, passwordHash, role, branch
      createdAt := now.stored }
  return (row, { s with accounts := s.accounts ++ [row] })

/-- Gives an active account a role and a branch. -/
def updateAccount (s : Store) (id : Int) (role branch : Text) : Except StoreError Store := do
  let touches := s.hasActiveAccount id
  s.writable .accounts touches "updating user"
  if touches && (Role.ofTag role).isNone then throw (.database "updating user")
  return s.mapAccount id fun r => { r with role, branch }

/-- Gives an active account a password. -/
def updatePassword (s : Store) (id : Int) (passwordHash : PasswordHash) :
    Except StoreError Store := do
  s.writable .accounts (s.hasActiveAccount id) "updating user password"
  return s.mapAccount id fun r => { r with passwordHash }

/-- Marks an active account as deleted. -/
def deleteAccount (s : Store) (now : Instant) (id : Int) : Except StoreError Store := do
  s.writable .accounts (s.hasActiveAccount id) "deleting user"
  return s.mapAccount id fun r => { r with deletedAt := some now.stored }

end Store
end Stockroom

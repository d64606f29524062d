import Stockroom.Store.Basic

/-!
Branches. Two branches that are not deleted never share a name; inventory and accounts refer to a
branch by its name, so a new name is carried over to them.

Main definitions: `Store.createBranch`, `Store.branch?`, `Store.branchNamed?`, `Store.branchList`,
`Store.updateBranch`, `Store.deleteBranch`, `Store.setBranchPhoto`, `Store.branchPhoto?`.
-/
namespace Stockroom
set_option autoImplicit false

namespace Store

/-! ## Reading -/

/-- The active branch with an id. -/
def activeBranch? (s : Store) (id : Int) : Option BranchRow :=
  s.branches.find? fun b => b.id == id && b.isActive

/-- The active branch with a name. -/
def activeBranchNamed? (s : Store) (name : Text) : Option BranchRow :=
  s.branches.find? fun b => b.name == name && b.isActive

/-- A row that was found is loaded and shown. -/
def showBranch (s : Store) (activity : Text) : Option BranchRow → Except StoreError (Option Branch)
  | none => .ok none
  | some b => do
    s.loadable .branches b.id activity
    return some b.shown

def branch? (s : Store) (id : Int) : Except StoreError (Option Branch) := do
  s.readable [.branches] "getting branch"
  s.showBranch "getting branch" (s.activeBranch? id)

def branchNamed? (s : Store) (name : Text) : Except StoreError (Option Branch) := do
  s.readable [.branches] "getting branch by name"
  s.showBranch "getting branch by name" (s.activeBranchNamed? name)

/-- The active branches by name. -/
def activeBranches (s : Store) : List BranchRow :=
  sortedBy (fun a b => a.name.compare b.name) (s.branches.filter (·.isActive))

def branchList (s : Store) : Except StoreError (List Branch) := do
  s.readable [.branches] "listing branches"
  let rows := s.activeBranches
  s.allLoadable .branches (rows.map (·.id)) "scanning branch"
  return rows.map (·.shown)

/-- The photo of an active branch, if it has one. -/
def branchPhoto? (s : Store) (id : Int) : Except StoreError (Option BranchPhoto) := do
  s.readable [.branches] "getting branch image"
  return (s.activeBranch? id).bind (·.photo)

/-! ## Writing -/

/-- Whether another active branch has the name. -/
def branchNameTaken (s : Store) (name : Text) (id : Int) : Bool :=
  s.branches.any fun b => b.isActive && b.name == name && b.id != id

def createBranch (s : Store) (now : Instant) (name location : Text) :
    Except StoreError (Branch × Store) := do
  s.writable .branches true "creating branch"
  let row : BranchRow :=
    { id := nextId (s.branches.map (·.id)), name, location, createdAt := now.stored }
  if s.branchNameTaken name row.id then throw (.database "creating branch")
  return (row.shown, { s with branches := s.branches ++ [row] })

/-- The rows of a table with a change to the branches for which a test holds. -/
def mapBranches (s : Store) (wanted : BranchRow → Bool) (change : BranchRow → BranchRow) : Store :=
  { s with branches := s.branches.map fun b => if wanted b then change b else b }

/-- Carries a new name over to the items of the old one. -/
def renameInItems (s : Store) (old new : Text) : Except StoreError Store := do
  s.writable .items (s.items.any (·.branch == old)) "renaming branch in inventory_items"
  return { s with items := s.items.map fun r => if r.branch == old then { r with branch := new } else r }

/-- Carries a new name over to the consumables of the old one. -/
def renameInConsumables (s : Store) (old new : Text) : Except StoreError Store := do
  s.writable .consumables (s.consumables.any (·.branch == old)) "renaming branch in consumables"
  return { s with
    consumables := s.consumables.map fun r => if r.branch == old then { r with branch := new } else r }

/-- Carries a new name over to the accounts of the old one, deleted accounts included. -/
def renameInAccounts (s : Store) (old new : Text) : Except StoreError Store := do
  s.writable .accounts (s.accounts.any (·.branch == old)) "renaming branch in users"
  return { s with
    accounts := s.accounts.map fun r => if r.branch == old then { r with branch := new } else r }

/-- Gives a branch a name and a location and carries a new name over to all that refers to it, or
does nothing at all. An unknown id changes nothing. -/
def updateBranch (s : Store) (id : Int) (name location : Text) : Except StoreError Store := do
  if s.faults.closed then throw (.database "beginning transaction")
  s.readable [.branches] "getting branch"
  match s.activeBranch? id with
  | none => return s
  | some b =>
    s.writable .branches true "updating branch"
    if s.branchNameTaken name id then throw (.database "updating branch")
    let renamed := s.mapBranches (·.id == id) fun r => { r with name, location }
    if b.name == name then return renamed
    let renamed ← renamed.renameInItems b.name name
    let renamed ← renamed.renameInConsumables b.name name
    renamed.renameInAccounts b.name name

/-- How many items and consumables refer to a branch. -/
def heldBy (s : Store) (name : Text) : Nat :=
  s.items.countP (·.branch == name) + s.consumables.countP (·.branch == name)

/-- The number of records that keep a branch from being deleted. -/
def countHeld (s : Store) (name : Text) : Except StoreError Nat := do
  s.readable [.items, .consumables] "checking branch inventory"
  return s.heldBy name

/-- Marks a branch as deleted. -/
def retireBranch (s : Store) (now : Instant) (id : Int) : Except StoreError Store := do
  s.writable .branches (s.activeBranch? id).isSome "deleting branch"
  return s.mapBranches (fun b => b.id == id && b.isActive) fun b =>
    { b with deletedAt := some now.stored }

/-- Deletes a branch to which no inventory refers. An unknown id changes nothing. -/
def deleteBranch (s : Store) (now : Instant) (id : Int) : Except StoreError Store := do
  match ← s.branch? id with
  | none => return s
  | some b =>
    let held ← s.countHeld b.name
    if held > 0 then throw (.branchInUse held)
    s.retireBranch now id

/-- Stores the photo of an active branch. -/
def setBranchPhoto (s : Store) (id : Int) (photo : BranchPhoto) : Except StoreError Store := do
  s.writable .branches (s.activeBranch? id).isSome "setting branch image"
  return s.mapBranches (fun b => b.id == id && b.isActive) fun b => { b with photo := some photo }

end Store
end Stockroom

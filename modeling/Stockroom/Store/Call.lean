import Stockroom.Store.Accounts
import Stockroom.Store.Consumables
import Stockroom.Store.Dashboard
import Stockroom.Store.Deliveries
import Stockroom.Store.Items
import Stockroom.Store.Requests
import Stockroom.Store.Settings

/-!
Everything that can be asked of the store, as data, so that a history of the store is a list of
calls.

Main definitions: `StoreCall`, `StoreAnswer`, `StoreCall.run`, `StoreCall.runAll`.
-/
namespace Stockroom
set_option autoImplicit false

/-- A call. -/
inductive StoreCall where
  | createBranch (name location : Text)
  | updateBranch (id : Int) (name location : Text)
  | getBranch (id : Int)
  | getBranchNamed (name : Text)
  | listBranches
  | deleteBranch (id : Int)
  | setBranchPhoto (id : Int) (photo : BranchPhoto)
  | getBranchPhoto (id : Int)
  | createAccount (username : Text) (hash : PasswordHash) (role branch : Text)
  | getAccount (id : Int)
  | getAccountNamed (username : Text)
  | listAccounts
  | updateAccount (id : Int) (role branch : Text)
  | updatePassword (id : Int) (hash : PasswordHash)
  | deleteAccount (id : Int)
  | readAdminCount
  | createItem (r : Item)
  | updateItem (id : Int) (r : Item)
  | getItem (id : Int)
  | listItems (f : ItemFilter)
  | deleteItem (id : Int)
  | createConsumable (c : Consumable)
  | updateConsumable (id : Int) (c : Consumable)
  | getConsumable (id : Int)
  | listConsumables (f : ConsumableFilter)
  | deleteConsumable (id : Int)
  | createDelivery (r : Delivery)
  | updateDelivery (id : Int) (r : Delivery)
  | getDelivery (id : Int)
  | listDeliveries (availability : Text)
  | deleteDelivery (id : Int)
  | createRequest (r : ResetRequest)
  | listRequests
  | deleteRequest (id : Int)
  | deleteAllRequests
  | branchCounts (branch : Text)
  | overview
  | setting (key : Text) (generated : Except Text Text)
  | revoke (tokenId : Text) (expiresAt : Instant)
  | isRevoked (tokenId : Text)
  | forgetRevoked (before : Instant)

/-- What a call gives. -/
inductive StoreAnswer where
  | done
  | branch (r : Option Branch)
  | branches (rs : List Branch)
  | photo (p : Option BranchPhoto)
  | account (r : Option Account)
  | accounts (rs : List Account)
  | item (r : Option Item)
  | items (rs : List Item)
  | consumable (r : Option Consumable)
  | consumables (rs : List Consumable)
  | delivery (r : Option Delivery)
  | deliveries (rs : List Delivery)
  | request (r : ResetRequest)
  | requests (rs : List ResetRequest)
  | counts (c : BranchCounts)
  | overview (o : Overview)
  | text (t : Text)
  | number (n : Nat)
  | flag (b : Bool)

namespace StoreCall

/-- Only reads. -/
def asks {α : Type} (s : Store) (r : Except StoreError α) (f : α → StoreAnswer) :
    Except StoreError (StoreAnswer × Store) :=
  r.map fun x => (f x, s)

/-- Only writes. -/
def does (r : Except StoreError Store) : Except StoreError (StoreAnswer × Store) :=
  r.map fun s => (.done, s)

/-- Writes and gives something. -/
def gives {α : Type} (r : Except StoreError (α × Store)) (f : α → StoreAnswer) :
    Except StoreError (StoreAnswer × Store) :=
  r.map fun (x, s) => (f x, s)

/-- The answer to a call and the store after it, or an error. -/
def attempt (now : Instant) (s : Store) : StoreCall → Except StoreError (StoreAnswer × Store)
  | .createBranch name location => gives (s.createBranch now name location) (.branch <| some ·)
  | .updateBranch id name location => does (s.updateBranch id name location)
  | .getBranch id => asks s (s.branch? id) .branch
  | .getBranchNamed name => asks s (s.branchNamed? name) .branch
  | .listBranches => asks s s.branchList .branches
  | .deleteBranch id => does (s.deleteBranch now id)
  | .setBranchPhoto id photo => does (s.setBranchPhoto id photo)
  | .getBranchPhoto id => asks s (s.branchPhoto? id) .photo
  | .createAccount username hash role branch =>
    gives (s.createAccount now username hash role branch) (.account <| some ·)
  | .getAccount id => asks s (s.account? id) .account
  | .getAccountNamed username => asks s (s.accountNamed? username) .account
  | .listAccounts => asks s s.accountList .accounts
  | .updateAccount id role branch => does (s.updateAccount id role branch)
  | .updatePassword id hash => does (s.updatePassword id hash)
  | .deleteAccount id => does (s.deleteAccount now id)
  | .readAdminCount => asks s s.readAdminCount .number
  | .createItem r => gives (s.createItem now r) (.item <| some ·)
  | .updateItem id r => gives (s.updateItem now id r) .item
  | .getItem id => asks s (s.item? id) .item
  | .listItems f => asks s (s.itemList f) .items
  | .deleteItem id => does (s.deleteItem id)
  | .createConsumable c => gives (s.createConsumable now c) (.consumable <| some ·)
  | .updateConsumable id c => gives (s.updateConsumable now id c) .consumable
  | .getConsumable id => asks s (s.consumable? id) .consumable
  | .listConsumables f => asks s (s.consumableList f) .consumables
  | .deleteConsumable id => does (s.deleteConsumable id)
  | .createDelivery r => gives (s.createDelivery now r) (.delivery <| some ·)
  | .updateDelivery id r => gives (s.updateDelivery now id r) .delivery
  | .getDelivery id => asks s (s.delivery? id) .delivery
  | .listDeliveries availability => asks s (s.deliveryList availability) .deliveries
  | .deleteDelivery id => does (s.deleteDelivery id)
  | .createRequest r => gives (s.createRequest now r) .request
  | .listRequests => asks s s.requestList .requests
  | .deleteRequest id => gives (s.deleteRequest id) .flag
  | .deleteAllRequests => gives s.deleteAllRequests .number
  | .branchCounts branch => asks s (s.branchCounts branch) .counts
  | .overview => asks s s.overview .overview
  | .setting key generated => gives (s.ensureSetting key generated) .text
  | .revoke tokenId expiresAt => does (s.revoke tokenId expiresAt)
  | .isRevoked tokenId => asks s (s.isRevoked tokenId) .flag
  | .forgetRevoked before => gives (s.forgetRevoked before) .number

/-- The answer to a call and the store after it; a call that fails changes nothing. -/
def run (now : Instant) (s : Store) (call : StoreCall) : Except StoreError StoreAnswer × Store :=
  match call.attempt now s with
  | .ok (answer, s) => (.ok answer, s)
  | .error e => (.error e, s)

/-- The store after a history of calls, each at its time. -/
def runAll (s : Store) : List (Instant × StoreCall) → Store
  | [] => s
  | (now, call) :: rest => runAll (call.run now s).2 rest

end StoreCall
end Stockroom

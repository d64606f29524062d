import Stockroom.Photo.Upload
import Stockroom.Record.Account
import Stockroom.Record.Branch
import Stockroom.Record.Consumable
import Stockroom.Record.Delivery
import Stockroom.Record.Item
import Stockroom.Record.ResetRequest

/-!
The stored tables, what may keep a database from answering, and the errors of the store. Every
statement names the tables it uses: it fails when the database is closed or one of them is gone, a
write also when it would touch a table that takes no writes, and a read when it loads a row whose
creation time is damaged.

Main definitions:
* `TableName`, `Faults`, `StoreError`;
* `BranchRow`, `ConsumableRow`, `Revocation`: rows that differ from the records they show;
* `Store`, `Store.readable`, `Store.writable`, `Store.loadable`: whether a statement may run;
* `nextId`, `sortedBy`.
-/
namespace Stockroom
set_option autoImplicit false

/-! ## Tables and their faults -/

inductive TableName where
  | accounts
  | branches
  | items
  | consumables
  | requests
  | deliveries
  | settings
  | revocations
  deriving DecidableEq, Repr

namespace TableName

/-- The name of a table in the database. -/
def label : TableName → Text
  | .accounts => "users"
  | .branches => "branches"
  | .items => "inventory_items"
  | .consumables => "consumables"
  | .requests => "password_requests"
  | .deliveries => "new_pcs"
  | .settings => "settings"
  | .revocations => "revoked_tokens"

def all : List TableName :=
  [.accounts, .branches, .items, .consumables, .requests, .deliveries, .settings, .revocations]

def ofLabel (t : Text) : Option TableName := all.find? (·.label == t)

end TableName

/-- What keeps a database from answering. A sound database has none of it. -/
structure Faults where
  closed : Bool := false
  dropped : List TableName := []
  /-- Tables that take no writes. -/
  frozen : List TableName := []
  /-- Rows whose creation time cannot be read. -/
  unreadable : List (TableName × Int) := []
  deriving DecidableEq, Repr

/-! ## Errors -/

/-- Why a record is not stored. -/
inductive InvalidCause where
  | item (e : ItemError)
  | consumable (e : ConsumableError)
  | delivery (e : DeliveryError)
  | request (e : ResetRequestError)
  | adminMissing
  deriving DecidableEq, Repr

def InvalidCause.message : InvalidCause → Text
  | .item e => e.message
  | .consumable e => e.message
  | .delivery e => e.message
  | .request e => e.message
  | .adminMissing => "admin_nom required"

/-- Why the store did not do what it was asked to. -/
inductive StoreError where
  | invalid (cause : InvalidCause)
  | branchInUse (records : Nat)
  /-- The database refused a statement; the text says what was being done. -/
  | database (activity : Text)
  | generator (key message : Text)
  deriving DecidableEq, Repr

def StoreError.message : StoreError → Text
  | .invalid cause => "invalid record: " ++ cause.message
  | .branchInUse records => "branch still holds inventory: " ++ Text.ofNat records ++ " records"
  | .database activity => activity
  | .generator key message => "generating " ++ key ++ ": " ++ message

/-! ## Rows -/

/-- A stored photo: bytes of unknown content, or a picture kept as a JPEG. -/
inductive PhotoData where
  | bytes (content : List UInt8)
  | picture (p : Picture)
  deriving DecidableEq, Repr

/-- Whether there is nothing in it. -/
def PhotoData.isEmpty : PhotoData → Bool
  | .bytes content => content.isEmpty
  | .picture _ => false

structure BranchPhoto where
  data : PhotoData
  mime : Text
  deriving DecidableEq, Repr

/-- A branch. It is kept after its deletion, which then has a time. -/
structure BranchRow where
  id : Int
  name : Text
  location : Text
  photo : Option BranchPhoto := none
  createdAt : Instant
  deletedAt : Option Instant := none
  deriving DecidableEq, Repr

namespace BranchRow

def isActive (b : BranchRow) : Bool := b.deletedAt.isNone

/-- The branch as it is shown. -/
def shown (b : BranchRow) : Branch :=
  { id := b.id
    name := b.name
    location := b.location
    imageMime := (b.photo.map (·.mime)).getD []
    createdAt := b.createdAt }

end BranchRow

/-- A consumable as it is stored: every count is an integer column. -/
structure ConsumableRow where
  id : Int
  brand : Text
  reference : Text
  tonerTag : Text
  black : Int
  cyan : Int
  magenta : Int
  yellow : Int
  colorBlack : Int
  drum : Int
  branch : Text
  description : Text
  state : Text
  createdAt : Instant
  updatedAt : Instant
  deriving DecidableEq, Repr

namespace ConsumableRow

/-- The columns of a consumable; a count below zero cannot be stored. -/
def ofConsumable (c : Consumable) : Except QuantityError ConsumableRow := do
  return {
    id := c.id
    brand := c.brand
    reference := c.reference
    tonerTag := c.tonerTag
    black := ← c.black.written
    cyan := ← c.cyan.written
    magenta := ← c.magenta.written
    yellow := ← c.yellow.written
    colorBlack := ← c.colorBlack.written
    drum := ← c.drum.written
    branch := c.branch
    description := c.description
    state := c.state
    createdAt := c.createdAt
    updatedAt := c.updatedAt }

/-- The consumable that the columns stand for. -/
def load (r : ConsumableRow) : Except QuantityError Consumable := do
  return {
    id := r.id
    brand := r.brand
    reference := r.reference
    tonerTag := r.tonerTag
    black := ← Quantity.ofColumn (.integer r.black)
    cyan := ← Quantity.ofColumn (.integer r.cyan)
    magenta := ← Quantity.ofColumn (.integer r.magenta)
    yellow := ← Quantity.ofColumn (.integer r.yellow)
    colorBlack := ← Quantity.ofColumn (.integer r.colorBlack)
    drum := ← Quantity.ofColumn (.integer r.drum)
    branch := r.branch
    description := r.description
    state := r.state
    createdAt := r.createdAt
    updatedAt := r.updatedAt }

end ConsumableRow

/-- A token that was given up, and when it would have expired. -/
structure Revocation where
  tokenId : Text
  expiresAt : Instant
  deriving DecidableEq, Repr

/-! ## The store -/

/-- All tables. Rows stand in the order in which they were added. -/
structure Store where
  accounts : List Account := []
  branches : List BranchRow := []
  items : List Item := []
  consumables : List ConsumableRow := []
  requests : List ResetRequest := []
  deliveries : List Delivery := []
  settings : List (Text × Text) := []
  revocations : List Revocation := []
  faults : Faults := {}
  deriving DecidableEq, Repr

instance : Inhabited Store := ⟨{}⟩

namespace Store

/-- A statement that names the given tables can run. -/
def readable (s : Store) (tables : List TableName) (activity : Text) : Except StoreError Unit :=
  if s.faults.closed || tables.any s.faults.dropped.contains then .error (.database activity)
  else .ok ()

/-- A statement can write to a table when it touches it. -/
def writable (s : Store) (table : TableName) (touches : Bool) (activity : Text) :
    Except StoreError Unit := do
  s.readable [table] activity
  if touches && s.faults.frozen.contains table then .error (.database activity) else .ok ()

/-- A row can be loaded whole. -/
def loadable (s : Store) (table : TableName) (id : Int) (activity : Text) :
    Except StoreError Unit :=
  if s.faults.unreadable.contains (table, id) then .error (.database activity) else .ok ()

/-- All rows can be loaded whole. -/
def allLoadable (s : Store) (table : TableName) (ids : List Int) (activity : Text) :
    Except StoreError Unit :=
  if ids.any fun id => s.faults.unreadable.contains (table, id) then .error (.database activity)
  else .ok ()

/-- The damage of a row goes with the row. -/
def forget (s : Store) (table : TableName) (gone : Int → Bool) : Store :=
  { s with faults := { s.faults with
      unreadable := s.faults.unreadable.filter fun (t, id) => !(t == table && gone id) } }

/-! ## Damaging a database -/

/-- The database is closed. -/
def close (s : Store) : Store := { s with faults := { s.faults with closed := true } }

/-- The table is removed. -/
def drop (s : Store) (table : TableName) : Store :=
  { s with faults := { s.faults with dropped := table :: s.faults.dropped } }

/-- The table takes no writes any more. -/
def freeze (s : Store) (table : TableName) : Store :=
  { s with faults := { s.faults with frozen := table :: s.faults.frozen } }

/-- The ids of a table that has any. -/
def ids (s : Store) : TableName → List Int
  | .accounts => s.accounts.map (·.id)
  | .branches => s.branches.map (·.id)
  | .items => s.items.map (·.id)
  | .consumables => s.consumables.map (·.id)
  | .requests => s.requests.map (·.id)
  | .deliveries => s.deliveries.map (·.id)
  | .settings | .revocations => []

/-- The creation time of a row becomes unreadable. -/
def corrupt (s : Store) (table : TableName) (id : Int) : Store :=
  if (s.ids table).contains id then
    { s with faults := { s.faults with unreadable := (table, id) :: s.faults.unreadable } }
  else s

end Store

/-! ## Ids, times and order -/

/-- The id of a new row: one more than the greatest, and at least one. SQLite numbers rows otherwise in
two cases: after the id 2^63 - 1 it picks one that is free, and where all ids are negative it counts on
from the greatest of them. So whatever is said of ids that are read back supposes that there is room
below 2^63, and ids below zero are never given here. -/
def nextId (ids : List Int) : Int := ids.foldl max 0 + 1

/-- The row with the greatest id. -/
def latestBy? {ρ : Type} (id : ρ → Int) : List ρ → Option ρ
  | [] => none
  | r :: rest => match latestBy? id rest with
    | some best => if id r ≤ id best then some best else some r
    | none => some r

/-- The time that is stored: whole seconds in universal time. -/
def Instant.stored (t : Instant) : Instant := { unix := t.unix }

/-- The order of written texts, as a comparison. -/
def Text.compare (s t : Text) : Ordering :=
  if s.le t then (if t.le s then .eq else .lt) else .gt

/-- The rows in the order of a comparison; equal rows keep their order. -/
def sortedBy {ρ : Type} (cmp : ρ → ρ → Ordering) (rows : List ρ) : List ρ :=
  rows.mergeSort fun a b => (cmp a b).isLE

end Stockroom

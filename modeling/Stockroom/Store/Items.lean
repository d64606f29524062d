import Stockroom.Store.Basic

/-!
Workstations and printers in the store. An item keeps its kind for as long as it exists.

Main definitions: `ItemFilter`, `Store.createItem`, `Store.item?`, `Store.itemList`,
`Store.updateItem`, `Store.deleteItem`.
-/
namespace Stockroom
set_option autoImplicit false

/-- Which items are listed; an empty text does not restrict them. -/
structure ItemFilter where
  branch : Text := []
  kind : Text := []
  deriving DecidableEq, Repr

def ItemFilter.keeps (f : ItemFilter) (r : Item) : Bool :=
  (f.branch.isEmpty || r.branch == f.branch) && (f.kind.isEmpty || r.kind == f.kind)

/-- The order of listed items. -/
def Item.compare (a b : Item) : Ordering :=
  (a.kind.compare b.kind).then <| (a.branch.compare b.branch).then <|
    (a.assetName.compare b.assetName).then <| (a.location.compare b.location).then <|
    Ord.compare a.id b.id

namespace Store

/-! ## Reading -/

def item? (s : Store) (id : Int) : Except StoreError (Option Item) := do
  s.readable [.items] "getting inventory item"
  match s.items.find? (·.id == id) with
  | none => return none
  | some r =>
    s.loadable .items r.id "getting inventory item"
    return some r

/-- The items a filter keeps, in order. -/
def itemsKept (s : Store) (f : ItemFilter) : List Item := sortedBy Item.compare (s.items.filter f.keeps)

def itemList (s : Store) (f : ItemFilter) : Except StoreError (List Item) := do
  s.readable [.items] "listing inventory items"
  let rows := s.itemsKept f
  s.allLoadable .items (rows.map (·.id)) "scanning inventory item"
  return rows

/-! ## Writing -/

/-- A valid item, or why it is none. -/
def checkItem (r : Item) : Except StoreError Unit :=
  match r.validate with
  | .ok () => .ok ()
  | .error e => .error (.invalid (.item e))

/-- Adds a row. -/
def insertItem (s : Store) (now : Instant) (r : Item) : Except StoreError (Item × Store) := do
  s.writable .items true "creating inventory item"
  let row := { r with
    id := nextId (s.items.map (·.id)), createdAt := now.stored, updatedAt := now.stored }
  return (row, { s with items := s.items ++ [row] })

def createItem (s : Store) (now : Instant) (r : Item) : Except StoreError (Item × Store) := do
  checkItem r
  s.insertItem now r

/-- Replaces the row of an item, but for its id, its kind and its creation time. -/
def replaceItem (s : Store) (now : Instant) (existing r : Item) : Except StoreError (Item × Store) := do
  s.writable .items true "updating inventory item"
  let row := { r with
    id := existing.id, kind := existing.kind, createdAt := existing.createdAt
    updatedAt := now.stored }
  return (row, { s with items := s.items.map fun old => if old.id == existing.id then row else old })

/-- Replaces an item; an unknown id gives nothing. -/
def updateItem (s : Store) (now : Instant) (id : Int) (r : Item) :
    Except StoreError (Option Item × Store) := do
  match ← s.item? id with
  | none => return (none, s)
  | some existing =>
    let r := { r with kind := existing.kind }
    checkItem r
    let (row, s) ← s.replaceItem now existing r
    return (some row, s)

def deleteItem (s : Store) (id : Int) : Except StoreError Store := do
  s.writable .items (s.items.any (·.id == id)) "deleting inventory item"
  return { s with items := s.items.filter (·.id != id) }.forget .items (· == id)

end Store
end Stockroom

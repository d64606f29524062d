import Stockroom.Store.Basic

/-!
Deliveries in the store, the latest arrival first. A delivery without a date arrives on the day it
is recorded, and every delivery has an administrator.

Main definitions: `Store.createDelivery`, `Store.delivery?`, `Store.deliveryList`,
`Store.updateDelivery`, `Store.deleteDelivery`.
-/
namespace Stockroom
set_option autoImplicit false

/-- The order of listed deliveries. -/
def Delivery.compare (a b : Delivery) : Ordering :=
  (b.arrivalDate.compare a.arrivalDate).then (Ord.compare b.id a.id)

namespace Store

/-! ## Reading -/

def delivery? (s : Store) (id : Int) : Except StoreError (Option Delivery) := do
  s.readable [.deliveries] "getting new pc"
  match s.deliveries.find? (·.id == id) with
  | none => return none
  | some r =>
    s.loadable .deliveries r.id "getting new pc"
    return some r

/-- The deliveries with an availability, or all of them when it is empty. -/
def deliveryList (s : Store) (availability : Text) : Except StoreError (List Delivery) := do
  s.readable [.deliveries] "listing new pcs"
  let rows := sortedBy Delivery.compare
    (s.deliveries.filter fun r => availability.isEmpty || r.availability == availability)
  s.allLoadable .deliveries (rows.map (·.id)) "scanning new pc"
  return rows

/-! ## Writing -/

/-- The trimmed delivery, or why it is refused. -/
def checkDelivery (r : Delivery) : Except StoreError Delivery :=
  match r.trimmed.validate with
  | .ok () => .ok r.trimmed
  | .error e => .error (.invalid (.delivery e))

def createDelivery (s : Store) (now : Instant) (r : Delivery) :
    Except StoreError (Delivery × Store) := do
  let r ← checkDelivery r
  if r.adminName.isEmpty then throw (.invalid .adminMissing)
  s.writable .deliveries true "creating new pc"
  let row := { r with
    id := nextId (s.deliveries.map (·.id))
    arrivalDate := if r.arrivalDate.isEmpty then now.date.iso else r.arrivalDate
    createdAt := now.stored
    updatedAt := now.stored }
  return (row, { s with deliveries := s.deliveries ++ [row] })

/-- Replaces a delivery; an empty date or administrator stays what it was. An unknown id gives
nothing. -/
def updateDelivery (s : Store) (now : Instant) (id : Int) (r : Delivery) :
    Except StoreError (Option Delivery × Store) := do
  match ← s.delivery? id with
  | none => return (none, s)
  | some existing =>
    let r ← checkDelivery r
    s.writable .deliveries true "updating new pc"
    let row := { r with
      id := existing.id
      arrivalDate := if r.arrivalDate.isEmpty then existing.arrivalDate else r.arrivalDate
      adminName := if r.adminName.isEmpty then existing.adminName else r.adminName
      createdAt := existing.createdAt
      updatedAt := now.stored }
    return (some row, { s with
      deliveries := s.deliveries.map fun old => if old.id == existing.id then row else old })

def deleteDelivery (s : Store) (id : Int) : Except StoreError Store := do
  s.writable .deliveries (s.deliveries.any (·.id == id)) "deleting new pc"
  return { s with deliveries := s.deliveries.filter (·.id != id) }.forget .deliveries (· == id)

end Store
end Stockroom

import Stockroom.Store.Basic
import Stockroom.Store.Search
import Stockroom.Text.Blank

/-!
Toner and drum stock in the store. What is stored always fits its toner type: an untagged record is
classified, and a record whose toner type changes is configured for the new one.

Main definitions: `readyConsumable`, `ConsumableFilter`, `Store.createConsumable`,
`Store.consumable?`, `Store.consumableList`, `Store.updateConsumable`, `Store.deleteConsumable`.
-/
namespace Stockroom
set_option autoImplicit false

/-! ## What is stored -/

/-- The record with an empty state and an empty tag filled in. -/
def Consumable.filledIn (c : Consumable) : Consumable :=
  let c := if c.state.isEmpty then { c with state := inStockState } else c
  if c.tonerTag.isEmpty then { c with tonerTag := c.classify.tag } else c

/-- The record as it is stored, or why it is not. -/
def readyConsumable (c : Consumable) : Except StoreError Consumable :=
  match c.filledIn.validate with
  | .ok () => .ok c.filledIn
  | .error e => .error (.invalid (.consumable e))

/-! ## Search -/

/-- Which consumables are listed; an empty text does not restrict them. -/
structure ConsumableFilter where
  branch : Text := []
  state : Text := []
  search : Text := []
  deriving DecidableEq, Repr

namespace ConsumableFilter

def inPlace (f : ConsumableFilter) (r : ConsumableRow) : Bool :=
  (f.branch.isEmpty || r.branch == f.branch) && (f.state.isEmpty || r.state == f.state)

/-- The text that is looked for. -/
def wanted (f : ConsumableFilter) : Text := f.search.trim

def keeps (f : ConsumableFilter) (r : ConsumableRow) : Bool :=
  f.inPlace r && (f.wanted.isEmpty || r.brand.mentions f.wanted || r.reference.mentions f.wanted)

/-- The longest pattern the database takes, in bytes. -/
def maxPattern : Nat := 50000

/-- The length of the pattern for the text that is looked for. -/
def patternLength (f : ConsumableFilter) : Nat := (Pattern.holding f.wanted).length

end ConsumableFilter

/-- The order of listed consumables. -/
def ConsumableRow.compare (a b : ConsumableRow) : Ordering :=
  (a.brand.compare b.brand).then <| (a.reference.compare b.reference).then <|
    Ord.compare a.id b.id

namespace Store

/-! ## Reading -/

/-- A row as a record; a damaged time or count fails. -/
def loadConsumable (s : Store) (activity : Text) (r : ConsumableRow) :
    Except StoreError Consumable := do
  s.loadable .consumables r.id activity
  match r.load with
  | .ok c => return c
  | .error _ => throw (.database activity)

def consumable? (s : Store) (id : Int) : Except StoreError (Option Consumable) := do
  s.readable [.consumables] "getting consumable"
  match s.consumables.find? (·.id == id) with
  | none => return none
  | some r => return some (← s.loadConsumable "getting consumable" r)

/-- The rows a filter keeps, in order. -/
def consumablesKept (s : Store) (f : ConsumableFilter) : List ConsumableRow :=
  sortedBy ConsumableRow.compare (s.consumables.filter f.keeps)

def consumableList (s : Store) (f : ConsumableFilter) : Except StoreError (List Consumable) := do
  s.readable [.consumables] "listing consumables"
  if !f.wanted.isEmpty && f.patternLength > ConsumableFilter.maxPattern && s.consumables.any f.inPlace then
    throw (.database "listing consumables")
  (s.consumablesKept f).mapM (s.loadConsumable "scanning consumable")

/-! ## Writing -/

/-- The columns of a prepared record with an id and its times. -/
def consumableRow (c : Consumable) (id : Int) (createdAt updatedAt : Instant)
    (activity : Text) : Except StoreError ConsumableRow :=
  match ConsumableRow.ofConsumable { c with id, createdAt, updatedAt } with
  | .ok row => .ok row
  | .error _ => .error (.database activity)

/-- Adds a row. -/
def insertConsumable (s : Store) (now : Instant) (c : Consumable) :
    Except StoreError (Consumable × Store) := do
  s.writable .consumables true "creating consumable"
  let id := nextId (s.consumables.map (·.id))
  let row ← consumableRow c id now.stored now.stored "creating consumable"
  let s := { s with consumables := s.consumables ++ [row] }
  return (← s.loadConsumable "getting consumable" row, s)

def createConsumable (s : Store) (now : Instant) (c : Consumable) :
    Except StoreError (Consumable × Store) := do
  s.insertConsumable now (← readyConsumable c)

/-- Replaces the row of a consumable, but for its id and its creation time. -/
def replaceConsumable (s : Store) (now : Instant) (existing c : Consumable) :
    Except StoreError (Consumable × Store) := do
  s.writable .consumables true "updating consumable"
  let row ← consumableRow c existing.id existing.createdAt now.stored "updating consumable"
  let s := { s with
    consumables := s.consumables.map fun old => if old.id == existing.id then row else old }
  return (← s.loadConsumable "getting consumable" row, s)

/-- The body of an update: where its toner type is valid and new, it is configured for it. -/
def retyped (existing c : Consumable) : Except StoreError Consumable :=
  if c.taggedType.isSome && c.tonerTag != existing.tonerTag then
    match c.configure c.tonerTag c.hasDrum with
    | .ok c => .ok c
    | .error e => .error (.invalid (.consumable e))
  else .ok c

/-- Replaces a consumable; an unknown id gives nothing. -/
def updateConsumable (s : Store) (now : Instant) (id : Int) (c : Consumable) :
    Except StoreError (Option Consumable × Store) := do
  match ← s.consumable? id with
  | none => return (none, s)
  | some existing =>
    let c ← retyped existing c
    let c ← readyConsumable c
    let (row, s) ← s.replaceConsumable now existing c
    return (some row, s)

def deleteConsumable (s : Store) (id : Int) : Except StoreError Store := do
  s.writable .consumables (s.consumables.any (·.id == id)) "deleting consumable"
  return { s with consumables := s.consumables.filter (·.id != id) }.forget .consumables (· == id)

end Store
end Stockroom

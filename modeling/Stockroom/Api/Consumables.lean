import Stockroom.Api.Items
import Stockroom.Store.Consumables

/-!
Toner and drum stock, each record within reach of those who have access to its branch. A response
shows the counts that apply beside the record.

Main definitions: `shownConsumable`, `listConsumables`, `createConsumable`, `getConsumable`,
`updateConsumable`, `deleteConsumable`.
-/
namespace Stockroom
set_option autoImplicit false

namespace Api

open Json (member)

/-- A record with the counts that apply. -/
def shownConsumable (c : Consumable) : Json :=
  match c.toMembers with
  | .ok members => .object (members ++ [member "display" (Consumable.displayJson c.display)])
  | .error _ => .null

/-- The record that was sent; a quantity that is none is named. -/
def sentConsumable (req : Request) : Except Response Consumable :=
  match Json.decodeFirst Consumable.wireFields {} req.text with
  | .ok c => .ok c
  | .error (.refused (.quantity e)) => refuse 400 e.message
  | .error _ => refuse 400 "invalid request body"

def listConsumables (claims : Claims) (s : Store) (req : Request) : Outcome := do
  let branch ← listedBranch claims req
  let state := req.param "etat"
  if !state.isEmpty && !isState state then refuse 400 "invalid etat"
  let rows ← orRefuse (s.consumableList { branch, state, search := req.param "search" }) 500
    "failed to list consumables"
  return (.json 200 (.array (rows.map shownConsumable)), s)

def createConsumable (ctx : Context) (claims : Claims) (s : Store) (req : Request) : Outcome := do
  let sent ← sentConsumable req
  let branch ← branchForWrite claims s sent.branch
  let (row, s) ← orExplain (s.createConsumable ctx.now { sent with branch }) "create consumable"
  return (.json 201 (shownConsumable row), s)

/-- The consumable with an id, if it is within reach. -/
def reachedConsumable (claims : Claims) (s : Store) (segment : Text) :
    Except Response Consumable := do
  let id ← idOf segment "consumable"
  let row ← orMissing (← orRefuse (s.consumable? id) 500 "failed to get consumable")
    "consumable not found"
  if mayAccess claims row.branch then return row else refuse 404 "consumable not found"

def getConsumable (claims : Claims) (s : Store) (segment : Text) : Outcome := do
  let row ← reachedConsumable claims s segment
  return (.json 200 (shownConsumable row), s)

def updateConsumable (ctx : Context) (claims : Claims) (s : Store) (segment : Text)
    (req : Request) : Outcome := do
  let existing ← reachedConsumable claims s segment
  let sent ← sentConsumable req
  let branch ←
    branchForWrite claims s (if sent.branch.isEmpty then existing.branch else sent.branch)
  let (row, s) ←
    orExplain (s.updateConsumable ctx.now existing.id { sent with branch }) "update consumable"
  let row ← orMissing row "consumable not found"
  return (.json 200 (shownConsumable row), s)

def deleteConsumable (claims : Claims) (s : Store) (segment : Text) : Outcome := do
  let existing ← reachedConsumable claims s segment
  let s ← orRefuse (s.deleteConsumable existing.id) 500 "failed to delete consumable"
  return (.done "consumable deleted", s)

end Api
end Stockroom

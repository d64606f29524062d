import Stockroom.Api.Session
import Stockroom.Store.Deliveries
import Stockroom.Store.Requests

/-!
Deliveries, which everyone may see and an administrator records, and requests for new passwords,
which anyone may leave and an administrator reads.

Main definitions: `listDeliveries`, `createDelivery`, `getDelivery`, `updateDelivery`,
`deleteDelivery`, `leaveRequest`, `listRequests`, `deleteRequest`, `deleteAllRequests`.
-/
namespace Stockroom
set_option autoImplicit false

namespace Api

open Json (member)

/-! ## Deliveries -/

def listDeliveries (s : Store) (req : Request) : Outcome := do
  let availability := req.param "disponibilite"
  if !availability.isEmpty && !isAvailability availability then refuse 400 "invalid disponibilite"
  let rows ← orRefuse (s.deliveryList availability) 500 "failed to list new pcs"
  return (.json 200 (.array (rows.map Delivery.toJson)), s)

/-- Records a delivery. Without an administrator it is the one who records it. -/
def createDelivery (ctx : Context) (claims : Claims) (s : Store) (req : Request) : Outcome := do
  let sent ← sentRecord Delivery.wireFields req
  let sent := if sent.adminName.isEmpty then { sent with adminName := claims.username } else sent
  let (row, s) ← orExplain (s.createDelivery ctx.now sent) "create new pc"
  return (.json 201 row.toJson, s)

def foundDelivery (s : Store) (segment : Text) : Except Response Delivery := do
  let id ← idOf segment "new pc"
  orMissing (← orRefuse (s.delivery? id) 500 "failed to get new pc") "new pc not found"

def getDelivery (s : Store) (segment : Text) : Outcome := do
  let row ← foundDelivery s segment
  return (.json 200 row.toJson, s)

def updateDelivery (ctx : Context) (s : Store) (segment : Text) (req : Request) : Outcome := do
  let existing ← foundDelivery s segment
  let sent ← sentRecord Delivery.wireFields req
  let (row, s) ← orExplain (s.updateDelivery ctx.now existing.id sent) "update new pc"
  let row ← orMissing row "new pc not found"
  return (.json 200 row.toJson, s)

def deleteDelivery (s : Store) (segment : Text) : Outcome := do
  let existing ← foundDelivery s segment
  let s ← orRefuse (s.deleteDelivery existing.id) 500 "failed to delete new pc"
  return (.done "new pc deleted", s)

/-! ## Requests for new passwords -/

def leaveRequest (ctx : Context) (s : Store) (req : Request) : Outcome := do
  let sent ← sentRecord ResetRequest.wireFields req
  let (_, s) ← orExplain (s.createRequest ctx.now sent) "create password request"
  return (.json 201 (.object [member "message" (.string "request sent to the administrator")]), s)

def listRequests (s : Store) : Outcome := do
  let rows ← orRefuse s.requestList 500 "failed to list password requests"
  return (.json 200 (.array (rows.map ResetRequest.toJson)), s)

def deleteRequest (s : Store) (segment : Text) : Outcome := do
  let id ← idOf segment "password request"
  let (found, s) ← orRefuse (s.deleteRequest id) 500 "failed to delete password request"
  if !found then refuse 404 "password request not found"
  return (.done "password request deleted", s)

def deleteAllRequests (s : Store) : Outcome := do
  let (count, s) ← orRefuse s.deleteAllRequests 500 "failed to delete password requests"
  return (.json 200 (.object [member "deleted" (.int count)]), s)

end Api
end Stockroom

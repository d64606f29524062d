import Stockroom.Store.Basic

/-!
Requests for new passwords in the store, the latest first.

Main definitions: `Store.createRequest`, `Store.requestList`, `Store.deleteRequest`,
`Store.deleteAllRequests`.
-/
namespace Stockroom
set_option autoImplicit false

/-- The order of listed requests. -/
def ResetRequest.compare (a b : ResetRequest) : Ordering :=
  (Ord.compare b.createdAt.unix a.createdAt.unix).then (Ord.compare b.id a.id)

namespace Store

def createRequest (s : Store) (now : Instant) (r : ResetRequest) :
    Except StoreError (ResetRequest × Store) := do
  match r.trimmed.validate with
  | .error e => throw (.invalid (.request e))
  | .ok () =>
    s.writable .requests true "creating password request"
    let row := { r.trimmed with
      id := nextId (s.requests.map (·.id)), createdAt := now.stored }
    return (row, { s with requests := s.requests ++ [row] })

def requestList (s : Store) : Except StoreError (List ResetRequest) := do
  s.readable [.requests] "listing password requests"
  s.allLoadable .requests (s.requests.map (·.id)) "scanning password request"
  return sortedBy ResetRequest.compare s.requests

/-- Deletes a request and says whether there was one. -/
def deleteRequest (s : Store) (id : Int) : Except StoreError (Bool × Store) := do
  let found := s.requests.any (·.id == id)
  s.writable .requests found "deleting password request"
  return (found, { s with requests := s.requests.filter (·.id != id) }.forget .requests (· == id))

/-- Deletes all requests and says how many there were. -/
def deleteAllRequests (s : Store) : Except StoreError (Nat × Store) := do
  s.writable .requests (!s.requests.isEmpty) "deleting password requests"
  return (s.requests.length, { s with requests := [] }.forget .requests fun _ => true)

end Store
end Stockroom

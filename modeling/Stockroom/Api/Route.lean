import Stockroom.Api.Message

/-!
Which requests there are: a table of methods, paths and who may ask.

Main definitions: `Access`, `Endpoint`, `Endpoint.access`, `routes`, `findRoute`.
-/
namespace Stockroom
set_option autoImplicit false

namespace Api

/-- Who may ask. -/
inductive Access where
  | anyone
  | signedIn
  | manager
  | admin
  deriving DecidableEq, Repr

inductive Endpoint where
  | login
  | leaveRequest
  | me
  | changePassword
  | logout
  | listAccounts
  | createAccount
  | getAccount
  | updateAccount
  | resetPassword
  | deleteAccount
  | listBranches
  | createBranch
  | getBranch
  | updateBranch
  | deleteBranch
  | uploadPhoto
  | getPhoto
  | listItems
  | createItem
  | exportItems
  | getItem
  | updateItem
  | deleteItem
  | listConsumables
  | createConsumable
  | getConsumable
  | updateConsumable
  | deleteConsumable
  | listRequests
  | deleteAllRequests
  | deleteRequest
  | listDeliveries
  | createDelivery
  | getDelivery
  | updateDelivery
  | deleteDelivery
  | dashboard
  deriving DecidableEq, Repr

def Endpoint.access : Endpoint → Access
  | .login | .leaveRequest => .anyone
  | .me | .changePassword | .logout | .listBranches | .getBranch | .getPhoto | .listDeliveries
  | .getDelivery => .signedIn
  | .uploadPhoto | .listItems | .createItem | .exportItems | .getItem | .updateItem | .deleteItem
  | .listConsumables | .createConsumable | .getConsumable | .updateConsumable | .deleteConsumable
  | .dashboard => .manager
  | .listAccounts | .createAccount | .getAccount | .updateAccount | .resetPassword | .deleteAccount
  | .createBranch | .updateBranch | .deleteBranch | .listRequests | .deleteAllRequests
  | .deleteRequest | .createDelivery | .updateDelivery | .deleteDelivery => .admin

/-- A segment of a path: a name, or the place of an id. -/
inductive PathPart where
  | named (name : String)
  | id
  deriving DecidableEq, Repr

instance : Coe String PathPart := ⟨.named⟩

/-- A method, a path, and what they ask for. -/
structure Route where
  method : String
  path : List PathPart
  endpoint : Endpoint
  deriving DecidableEq, Repr

/-- All routes. Where two of them fit, the earlier one is meant. -/
def routes : List Route :=
  [⟨"POST", ["api", "auth", "login"], .login⟩,
    ⟨"POST", ["api", "password-requests"], .leaveRequest⟩,
    ⟨"GET", ["api", "auth", "me"], .me⟩,
    ⟨"PUT", ["api", "auth", "password"], .changePassword⟩,
    ⟨"POST", ["api", "auth", "logout"], .logout⟩,
    ⟨"GET", ["api", "users"], .listAccounts⟩,
    ⟨"POST", ["api", "users"], .createAccount⟩,
    ⟨"GET", ["api", "users", .id], .getAccount⟩,
    ⟨"PUT", ["api", "users", .id], .updateAccount⟩,
    ⟨"PUT", ["api", "users", .id, "password"], .resetPassword⟩,
    ⟨"DELETE", ["api", "users", .id], .deleteAccount⟩,
    ⟨"GET", ["api", "branches"], .listBranches⟩,
    ⟨"POST", ["api", "branches"], .createBranch⟩,
    ⟨"GET", ["api", "branches", .id], .getBranch⟩,
    ⟨"PUT", ["api", "branches", .id], .updateBranch⟩,
    ⟨"DELETE", ["api", "branches", .id], .deleteBranch⟩,
    ⟨"PUT", ["api", "branches", .id, "image"], .uploadPhoto⟩,
    ⟨"GET", ["api", "branches", .id, "image"], .getPhoto⟩,
    ⟨"GET", ["api", "inventory-items"], .listItems⟩,
    ⟨"POST", ["api", "inventory-items"], .createItem⟩,
    ⟨"GET", ["api", "inventory-items", "export"], .exportItems⟩,
    ⟨"GET", ["api", "inventory-items", .id], .getItem⟩,
    ⟨"PUT", ["api", "inventory-items", .id], .updateItem⟩,
    ⟨"DELETE", ["api", "inventory-items", .id], .deleteItem⟩,
    ⟨"GET", ["api", "consumables"], .listConsumables⟩,
    ⟨"POST", ["api", "consumables"], .createConsumable⟩,
    ⟨"GET", ["api", "consumables", .id], .getConsumable⟩,
    ⟨"PUT", ["api", "consumables", .id], .updateConsumable⟩,
    ⟨"DELETE", ["api", "consumables", .id], .deleteConsumable⟩,
    ⟨"GET", ["api", "admin", "password-requests"], .listRequests⟩,
    ⟨"DELETE", ["api", "admin", "password-requests"], .deleteAllRequests⟩,
    ⟨"DELETE", ["api", "admin", "password-requests", .id], .deleteRequest⟩,
    ⟨"GET", ["api", "new-pcs"], .listDeliveries⟩,
    ⟨"POST", ["api", "new-pcs"], .createDelivery⟩,
    ⟨"GET", ["api", "new-pcs", .id], .getDelivery⟩,
    ⟨"PUT", ["api", "new-pcs", .id], .updateDelivery⟩,
    ⟨"DELETE", ["api", "new-pcs", .id], .deleteDelivery⟩,
    ⟨"GET", ["api", "dashboard"], .dashboard⟩]

/-- Whether a path fits, and the text in place of the id, which is empty where there is none. -/
def fitPath : List PathPart → List Text → Option Text
  | [], [] => some []
  | .named name :: path, segment :: rest =>
    if segment == Text.ofString name then fitPath path rest else none
  | .id :: path, segment :: rest =>
    if segment == Text.ofString "/" then none else (fitPath path rest).map fun _ => segment
  | _, _ => none

/-- The route of a method that fits a path. -/
def routeOf (method : String) (segments : List Text) : Option (Endpoint × Text) :=
  routes.findSome? fun route =>
    if route.method == method then (fitPath route.path segments).map (route.endpoint, ·) else none

/-- Whether only the headers of a response are wanted. -/
def isHead (method : Text) : Bool := method == Text.ofString "HEAD"

/-- What a request asks for. A request for the headers alone asks for what `GET` asks for. -/
def findRoute (method : Text) (segments : List Text) : Option (Endpoint × Text) :=
  if isHead method then routeOf "GET" segments
  else if method.wellFormed then routeOf method.display segments
  else none

/-- The methods that a path takes, in alphabetical order. -/
def allowedMethods (segments : List Text) : List String :=
  ["DELETE", "GET", "HEAD", "POST", "PUT"].filter fun method =>
    (routeOf (if method == "HEAD" then "GET" else method) segments).isSome

end Api
end Stockroom

import Stockroom.Api.Accounts
import Stockroom.Api.Branches
import Stockroom.Api.Consumables
import Stockroom.Api.Deliveries
import Stockroom.Store.Dashboard

/-!
The server: every request is answered from the store, and may change it.

Main definitions: `dashboard`, `serve`, `dispatch`, `handle`.
-/
namespace Stockroom
set_option autoImplicit false

namespace Api

/-! ## The dashboard -/

/-- The numbers of all branches for an administrator, or those of one branch. -/
def dashboard (claims : Claims) (s : Store) (req : Request) : Outcome := do
  let requested := req.param "branche"
  if isAdmin claims && requested.isEmpty then
    let numbers ← orRefuse s.overview 500 "failed to load dashboard"
    return (.json 200 numbers.toJson, s)
  else if !isAdmin claims && claims.branch.isEmpty && requested.isEmpty then
    return (.json 200 (BranchCounts.toJson {}), s)
  else
    let branch ← listedBranch claims req
    let numbers ← orRefuse (s.branchCounts branch) 500 "failed to load dashboard"
    return (.json 200 numbers.toJson, s)

/-! ## Dispatch -/

/-- What an endpoint does for someone who is signed in. -/
def serve (ctx : Context) (claims : Claims) (s : Store) (req : Request) (segment : Text) :
    Endpoint → Outcome
  | .login => login ctx s req
  | .leaveRequest => leaveRequest ctx s req
  | .me => me claims s
  | .changePassword => changePassword claims s req
  | .logout => logout claims s
  | .listAccounts => listAccounts s
  | .createAccount => createAccount ctx s req
  | .getAccount => getAccount s segment
  | .updateAccount => updateAccount claims s segment req
  | .resetPassword => resetPassword s segment req
  | .deleteAccount => deleteAccount ctx claims s segment
  | .listBranches => listBranches s
  | .createBranch => createBranch ctx s req
  | .getBranch => getBranch s segment
  | .updateBranch => updateBranch s segment req
  | .deleteBranch => deleteBranch ctx s segment
  | .uploadPhoto => uploadPhoto claims s segment req
  | .getPhoto => getPhoto s segment
  | .listItems => listItems claims s req
  | .createItem => createItem ctx claims s req
  | .exportItems => exportItems ctx claims s req
  | .getItem => getItem claims s segment
  | .updateItem => updateItem ctx claims s segment req
  | .deleteItem => deleteItem claims s segment
  | .listConsumables => listConsumables claims s req
  | .createConsumable => createConsumable ctx claims s req
  | .getConsumable => getConsumable claims s segment
  | .updateConsumable => updateConsumable ctx claims s segment req
  | .deleteConsumable => deleteConsumable claims s segment
  | .listRequests => listRequests s
  | .deleteAllRequests => deleteAllRequests s
  | .deleteRequest => deleteRequest s segment
  | .listDeliveries => listDeliveries s req
  | .createDelivery => createDelivery ctx claims s req
  | .getDelivery => getDelivery s segment
  | .updateDelivery => updateDelivery ctx s segment req
  | .deleteDelivery => deleteDelivery s segment
  | .dashboard => dashboard claims s req

/-- Asks for a token and for the access an endpoint needs before it is served. -/
def guarded (ctx : Context) (s : Store) (req : Request) (endpoint : Endpoint) (segment : Text) :
    Outcome := do
  match endpoint.access with
  | .anyone => serve ctx {} s req segment endpoint
  | access =>
    let claims ← authenticate ctx s req
    requireAccess access claims
    serve ctx claims s req segment endpoint

/-- Markup characters as entities. -/
def escapeMarkup (t : Text) : Text :=
  t.flatMap fun g => match g with
    | .char '&' => "&amp;"
    | .char '<' => "&lt;"
    | .char '>' => "&gt;"
    | .char '"' => "&#34;"
    | .char '\'' => "&#39;"
    | g => [g]

/-- Everything outside of ASCII as percent signs. -/
def asciiOnly (t : Text) : Text :=
  Text.ofChars (t.bytes.flatMap fun b =>
    if b < 0x80 then [Char.ofNat b.toNat] else '%' :: hexDigits 2 b.toNat)

/-- Sends a request to another place, with a link for those who read. -/
def redirect (method location : Text) : Response :=
  let reads := method == Text.ofString "GET"
  { status := 307
    location := asciiOnly location
    mediaType := if reads || isHead method then "text/html; charset=utf-8" else []
    body := .text (if reads then
      "<a href=\"" ++ escapeMarkup location ++ "\">Temporary Redirect</a>.\n\n" else []) }

/-- Finds what a request asks for and answers it. A request for the whole server has no answer. -/
def dispatch (ctx : Context) (s : Store) (req : Request) : Outcome :=
  let target := req.asked
  if req.target == Text.ofString "*" then .error { status := 400, body := .text [] }
  else if cleanPath target.path != target.path && req.method != Text.ofString "CONNECT" then
    .error (redirect req.method target.redirection)
  else
    let segments := pathSegments target.path
    match findRoute req.method segments with
    | some (endpoint, segment) => guarded ctx s req endpoint segment
    | none =>
      match allowedMethods segments with
      | [] => .error (.plain 404 "404 page not found\n")
      | methods =>
        .error { Response.plain 405 "Method Not Allowed\n" with
          allow := Text.join ", " (methods.map Text.ofString) }

/-- The response to a request and the store after it. A refused request changes nothing. The id of
the request comes back with the response. -/
def handle (ctx : Context) (s : Store) (req : Request) : Response × Store :=
  let (response, s) := match dispatch ctx s req with
    | .ok result => result
    | .error response => (response, s)
  ({ response with
      requestId := req.header "X-Request-ID"
      body := if isHead req.method then .nothing else response.body }, s)

end Api
end Stockroom

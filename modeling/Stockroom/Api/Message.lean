import Stockroom.Json.Record
import Stockroom.Net.Address
import Stockroom.Sheet.Workbook
import Stockroom.Store.Basic

/-!
Requests and responses.

Main definitions: `Request`, `Response`, `Response.json`, `Response.failure`, `Response.done`.
-/
namespace Stockroom
set_option autoImplicit false

namespace Api

open Json (member)

/-! ## Requests -/

/-- What comes with a request: a text, or a form with one file in it. -/
inductive RequestBody where
  | text (cs : List Char)
  | form (field : Text) (file : Upload)
  deriving DecidableEq, Repr

structure Request where
  method : Text
  target : Text
  headers : List (Text × Text) := []
  body : RequestBody := .text []
  deriving DecidableEq, Repr

namespace Request

/-- Whether a text is the name of a header, whatever the case of its ASCII letters. -/
def isHeaderName (name : String) (t : Text) : Bool :=
  t.map (fun g => match g with | .char c => .char c.toLower | g => g) ==
    Text.ofString name.toLower

/-- The value of a header, the last one that was set; nothing when it was not sent. -/
def header (r : Request) (name : String) : Text :=
  ((r.headers.reverse.find? fun h => isHeaderName name h.1).map (·.2)).getD []

/-- The text that was sent. -/
def text (r : Request) : List Char :=
  match r.body with
  | .text cs => cs
  | .form .. => []

/-- What a request asks for. The target is a path, or an address with a scheme and a host. -/
def asked (r : Request) : Target :=
  if r.target.head? == some (.char '/') then Target.ofText r.target
  else match WebAddress.parseWhole r.target with
    | .ok address => ⟨address.path, address.query.getD []⟩
    | .error _ => Target.ofText r.target

/-- The first value of a key of the query string. -/
def param (r : Request) (key : String) : Text := queryText r.asked.query key

end Request

/-! ## Responses -/

inductive ResponseBody where
  | nothing
  | json (v : Json)
  | text (t : Text)
  | workbook (w : Workbook)
  | photo (data : PhotoData)

/-- A response. Headers that are empty are not sent. -/
structure Response where
  status : Nat
  mediaType : Text := []
  allow : Text := []
  location : Text := []
  cacheControl : Text := []
  disposition : Text := []
  requestId : Text := []
  body : ResponseBody := .nothing

namespace Response

def json (status : Nat) (v : Json) : Response :=
  { status, mediaType := "application/json", body := .json v }

/-- What went wrong, in words. -/
def failure (status : Nat) (message : Text) : Response :=
  json status (.object [member "error" (.string message)])

/-- What was done, in words. -/
def done (message : Text) : Response := json 200 (.object [member "message" (.string message)])

def plain (status : Nat) (t : Text) : Response :=
  { status, mediaType := "text/plain; charset=utf-8", body := .text t }

end Response
end Api
end Stockroom

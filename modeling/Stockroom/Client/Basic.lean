import Stockroom.Net.Address
import Stockroom.Record.Wire
import Stockroom.Text.Blank

/-!
Asking a server over the web. A client knows the address of the server and the token it was given;
how a request travels is left open.

Main definitions:
* `Outgoing`, `Incoming`, `Transport`: a request on its way, what comes back, and the way itself;
* `offline`: the way where there is no network;
* `Client`, `ClientError`;
* `Client.login`, `Client.logout`, `Client.listBranches`, `Client.createItem`, `Client.listItems`,
  `Client.createConsumable`, `Client.updateConsumable`, `Client.listConsumables`.
-/
namespace Stockroom
set_option autoImplicit false

open Json (member)

/-! ## Messages -/

/-- A request on its way to a server. -/
structure Outgoing where
  method : Text
  address : WebAddress
  authorization : Text
  body : Option Json := none

/-- What came back. -/
structure Incoming where
  status : Nat
  body : List UInt8
  deriving DecidableEq, Repr

/-- Carries a request to a server and brings back the answer, or says why it cannot. -/
abbrev Transport (σ : Type) := Outgoing → σ → Except Text Incoming × σ

/-- Whether a text may stand in a head line of a request. -/
def isHeadText (t : Text) : Bool := t.bytes.all fun b => (0x20 ≤ b && b != 0x7F) || b == 0x09

/-- Why a request goes nowhere without a network. -/
def offlineReason (o : Outgoing) : Text :=
  let a := o.address
  if a.scheme != Text.ofString "http" && a.scheme != Text.ofString "https" then
    "unsupported protocol scheme " ++ a.scheme.quoted
  else if !isHeadText o.authorization then
    "net/http: invalid header field value for \"Authorization\""
  else if a.host.isEmpty then "http: no Host in request URL"
  else
    let port : Text := if a.scheme == Text.ofString "https" then ":443" else ":80"
    "dial tcp " ++ (if (portOf a.host).isSome then a.host else a.host ++ port) ++
      ": connect: network is unreachable"

/-- The transport of a machine without a network. -/
def offline {σ : Type} : Transport σ := fun o s => (.error (offlineReason o), s)

/-- The address of a server and a token, which is empty before signing in. -/
structure Client where
  base : Text
  token : Text := []
  deriving DecidableEq, Repr

/-! ## Errors -/

/-- What went wrong on the way. -/
inductive ClientFault where
  | encoding
  | address (fault : AddressFault)
  | transport (method address reason : Text)
  | status (code : Nat) (message : Text)
  | decoding
  deriving DecidableEq, Repr

/-- A method with a capital letter. -/
def capitalized : Text → Text
  | g :: rest => g :: Text.ofChars (Text.toChars rest |>.map Char.toLower)
  | [] => []

def ClientFault.message : ClientFault → Text
  | .encoding => "encoding request"
  | .address fault => fault.message
  | .transport method target reason =>
    capitalized method ++ " " ++ target.quoted ++ ": " ++ reason
  | .status code message =>
    Text.ofString "HTTP " ++ Text.ofNat code ++
      (if message.isEmpty then [] else Text.ofString ": " ++ message)
  | .decoding => "decoding response"

inductive ClientError where
  | notLoggedIn
  | failed (activity : Text) (fault : ClientFault)
  deriving DecidableEq, Repr

def ClientError.message : ClientError → Text
  | .notLoggedIn => "not logged in"
  | .failed activity fault => activity ++ ": " ++ fault.message

/-! ## Reading answers -/

/-- How many bytes of an error are read. -/
def errorLimit : Nat := 4096

/-- What an answer says went wrong: the error it names, or else its text. -/
def errorText (body : List UInt8) : Text :=
  let t := Text.ofBytes (body.take errorLimit)
  let fields : List (Json.Field Refusal Text) := [Json.textField "error" fun _ e => e]
  match Json.decodeText fields [] t.toChars with
  | .ok (g :: rest) => g :: rest
  | _ => t.trim

/-- A reader of the first value of an answer. -/
abbrev Decoder (α : Type) := Json → Option α

/-- One record. -/
def oneOf {ε ρ : Type} [Inhabited ρ] (fields : List (Json.Field ε ρ)) : Decoder ρ := fun v =>
  (Json.decodeRecord fields default v).toOption

/-- A list of records; a null is no list. -/
def listOf {ε ρ : Type} [Inhabited ρ] (fields : List (Json.Field ε ρ)) : Decoder (Option (List ρ))
  | .null => some none
  | .array items => (items.mapM (oneOf fields)).map some
  | _ => none

/-- A token and the account it belongs to. -/
structure LoginAnswer where
  token : Text := []
  user : Option Account := none

instance : Inhabited LoginAnswer := ⟨{}⟩

def LoginAnswer.wireFields : List (Json.Field Refusal LoginAnswer) :=
  [Json.textField "token" fun r t => { r with token := t },
    { name := "user"
      read := fun r _ v => match v with
        | .null => .done { r with user := none }
        | v => match Json.decodeRecord Account.wireFields (r.user.getD {}) v with
          | .ok account => .done { r with user := some account }
          | .error .shape => .mismatch
          | .error (.refused e) => .stop e }]

namespace Client

variable {σ : Type}

/-- A client of the server at an address. -/
def new (address : Text) : Client :=
  { base := (address.reverse.dropWhile (· == .char '/')).reverse }

/-! ## One request -/

/-- What a request says about who sends it: the token, or else the user that the address names. -/
def authorization (c : Client) (address : WebAddress) : Text :=
  if !c.token.isEmpty then Text.ofString "Bearer " ++ c.token
  else match address.user with
    | some credentials => credentials.authorization
    | none => []

/-- Sends a request and gives what a successful answer holds. -/
def exchange (c : Client) (send : Transport σ) (method : String) (path : Text)
    (body : Option Json) (s : σ) : Except ClientFault (List UInt8) × σ :=
  match WebAddress.parse (c.base ++ path) with
  | .error fault => (.error (.address fault), s)
  | .ok address =>
    let authorization := c.authorization address
    match send { method := Text.ofString method, address, authorization, body } s with
    | (.error reason, s) => (.error (.transport method address.shown reason), s)
    | (.ok answer, s) =>
      if 200 ≤ answer.status ∧ answer.status ≤ 299 then (.ok answer.body, s)
      else (.error (.status answer.status (errorText answer.body)), s)

/-- Reads what a successful answer holds. -/
def decoded {α : Type} (decode : Decoder α) (activity : Text) :
    Except ClientFault (List UInt8) → Except ClientError α
  | .error fault => .error (.failed activity fault)
  | .ok body =>
    match (Json.readFirst (Text.ofBytes body).toChars).bind fun (v, _) => decode v with
    | some x => .ok x
    | none => .error (.failed activity .decoding)

/-- A request that only someone who is signed in may make. -/
def ask {α : Type} (c : Client) (send : Transport σ) (activity : Text) (method : String)
    (path : Text) (body : Except ClientFault (Option Json)) (decode : Decoder α) (s : σ) :
    Except ClientError α × σ :=
  if c.token.isEmpty then (.error .notLoggedIn, s)
  else match body with
    | .error fault => (.error (.failed activity fault), s)
    | .ok body =>
      let (answer, s) := c.exchange send method path body s
      (decoded decode activity answer, s)

/-- The part of an address after its path; values that are empty are left out. -/
def queryPart (pairs : List (String × Text)) : Text :=
  let given := pairs.filter fun (_, value) => !value.isEmpty
  if given.isEmpty then []
  else .char '?' :: queryOf (given.map fun (key, value) => (Text.ofString key, value))

/-! ## Signing in and out -/

/-- Signs in and keeps the token. -/
def login (c : Client) (send : Transport σ) (username password : Text) (s : σ) :
    Except ClientError (Option Account) × Client × σ :=
  let body : Json :=
    .object [member "password" (.string password), member "username" (.string username)]
  let (answer, s) := c.exchange send "POST" "/api/auth/login" (some body) s
  match decoded (oneOf LoginAnswer.wireFields) "login" answer with
  | .ok r => (.ok r.user, { c with token := r.token }, s)
  | .error e => (.error e, c, s)

/-- Gives the token up. -/
def logout (c : Client) (send : Transport σ) (s : σ) : Except ClientError Unit × Client × σ :=
  if c.token.isEmpty then (.ok (), c, s)
  else match c.exchange send "POST" "/api/auth/logout" none s with
    | (.ok _, s) => (.ok (), { c with token := [] }, s)
    | (.error fault, s) => (.error (.failed "logout" fault), c, s)

/-! ## Records -/

def listBranches (c : Client) (send : Transport σ) (s : σ) :
    Except ClientError (Option (List Branch)) × σ :=
  c.ask send "listing branches" "GET" "/api/branches" (.ok none) (listOf Branch.wireFields) s

/-- An item as it is sent; a time in a zone a day or more away cannot be. -/
def itemBody (r : Item) : Except ClientFault (Option Json) :=
  if r.createdAt.isWritable && r.updatedAt.isWritable then .ok (some r.toJson) else .error .encoding

def createItem (c : Client) (send : Transport σ) (r : Item) (s : σ) :
    Except ClientError Item × σ :=
  c.ask send "creating inventory item" "POST" "/api/inventory-items" (itemBody r)
    (oneOf Item.wireFields) s

def listItems (c : Client) (send : Transport σ) (branch kind : Text) (s : σ) :
    Except ClientError (Option (List Item)) × σ :=
  c.ask send "listing inventory items" "GET"
    ("/api/inventory-items" ++ queryPart [("branche", branch), ("kind", kind)]) (.ok none)
    (listOf Item.wireFields) s

/-- A consumable as it is sent; a count below zero cannot be. -/
def consumableBody (r : Consumable) : Except ClientFault (Option Json) :=
  match r.toJson with
  | .ok v => .ok (some v)
  | .error _ => .error .encoding

def createConsumable (c : Client) (send : Transport σ) (r : Consumable) (s : σ) :
    Except ClientError Consumable × σ :=
  c.ask send "creating consumable" "POST" "/api/consumables" (consumableBody r)
    (oneOf Consumable.wireFields) s

def updateConsumable (c : Client) (send : Transport σ) (id : Int) (r : Consumable) (s : σ) :
    Except ClientError Consumable × σ :=
  c.ask send "updating consumable" "PUT" ("/api/consumables/" ++ Text.ofInt id) (consumableBody r)
    (oneOf Consumable.wireFields) s

def listConsumables (c : Client) (send : Transport σ) (branch state search : Text) (s : σ) :
    Except ClientError (Option (List Consumable)) × σ :=
  c.ask send "listing consumables" "GET"
    ("/api/consumables" ++ queryPart [("branche", branch), ("etat", state), ("search", search)])
    (.ok none) (listOf Consumable.wireFields) s

end Client
end Stockroom

import Stockroom.Api.Router
import Stockroom.Client.Basic
import Stockroom.Import.Retry

/-!
Importing into a server: a client whose requests a router answers, and the submitters that go
through it.

Main definitions: `Api.Response.bytes`, `routerTransport`, `Client.itemSubmitter`,
`Client.consumableSubmitter`.
-/
namespace Stockroom
set_option autoImplicit false

/-- The bytes of a response that is a text. -/
def Api.Response.bytes (r : Api.Response) : List UInt8 :=
  match r.body with
  | .json v => (Text.ofChars (v.render ++ ['\n'])).bytes
  | .text t => t.bytes
  | _ => []

/-- A request as the server at the base address gets it. -/
def Outgoing.received (base : Text) (o : Outgoing) : Api.Request :=
  { method := o.method
    target := o.address.text.drop base.length
    headers := if o.authorization.isEmpty then [] else [("Authorization", o.authorization)]
    body := .text ((o.body.map Json.render).getD []) }

/-- Carries every request to the router of the server at the base address. -/
def routerTransport (ctx : Api.Context) (base : Text) : Transport Store := fun o s =>
  let (response, s) := Api.handle ctx s (o.received base)
  (.ok ⟨response.status, response.bytes⟩, s)

namespace Client

variable {σ : Type}

/-- What a submission is answered. -/
def replyOf {α : Type} : Except ClientError α × σ → Reply × σ
  | (.ok _, s) => ({}, s)
  | (.error e, s) => ({ error := some e.message }, s)

/-- Submits items through the client. -/
def itemSubmitter (c : Client) (send : Transport σ) : Submitter Item σ := fun r s =>
  replyOf (c.createItem send r s)

/-- Submits consumables through the client. -/
def consumableSubmitter (c : Client) (send : Transport σ) : Submitter Consumable σ := fun r s =>
  replyOf (c.createConsumable send r s)

end Client
end Stockroom

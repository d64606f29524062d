import Stockroom.Json.Record
import Stockroom.Record.Account
import Stockroom.Record.Branch
import Stockroom.Record.Consumable
import Stockroom.Record.Delivery
import Stockroom.Record.Item
import Stockroom.Record.ResetRequest

/-!
The records on the wire. Empty optional texts are left out, quantities are integers, times are
written with their zone and the stored form of a password never leaves the server.

Main definitions: for each record its fields as they are read (`Consumable.wireFields`, …) and the
value it is written as (`Consumable.toJson`, …).
-/
namespace Stockroom
set_option autoImplicit false

open Json (Field textField intField member memberUnlessEmpty)

/-- Why a field with a reader of its own refused its value. -/
inductive Refusal where
  | quantity (e : QuantityError)
  | time
  deriving DecidableEq, Repr

/-! ## Fields -/

/-- A quantity; its error carries the source of the value. -/
def quantityField {ρ : Type} (name : String) (get : ρ → Quantity) (set : ρ → Quantity → ρ) :
    Field Refusal ρ where
  name := name
  read r source _ := match Quantity.ofJson (get r) source with
    | .ok q => .done (set r q)
    | .error e => .stop (.quantity e)

/-- A time between quotes, read as it is written: an escape is no part of a time. -/
def readQuotedTime (source : List Char) : Option Instant :=
  match source with
  | '"' :: rest => if rest.getLast? == some '"' then Instant.read rest.dropLast else none
  | _ => none

/-- A time; a null leaves it as it is. -/
def timeField {ρ : Type} (name : String) (set : ρ → Instant → ρ) : Field Refusal ρ where
  name := name
  read r source _ :=
    if source = ['n', 'u', 'l', 'l'] then .done r
    else match readQuotedTime source with
      | some t => .done (set r t)
      | none => .stop .time

/-- A time that may be missing; a null removes it. -/
def optionalTimeField {ρ : Type} (name : String) (set : ρ → Option Instant → ρ) :
    Field Refusal ρ where
  name := name
  read r source v :=
    match v with
    | .null => .done (set r none)
    | _ => match readQuotedTime source with
      | some t => .done (set r (some t))
      | none => .stop .time

def timeMember (key : String) (t : Instant) : Text × List Char × Json :=
  member key (.string t.stamp)

/-! ## Consumables -/

namespace Consumable

def wireFields : List (Field Refusal Consumable) :=
  [intField "id" fun c i => { c with id := i },
    textField "brand" fun c t => { c with brand := t },
    textField "reference" fun c t => { c with reference := t },
    textField "toner_type" fun c t => { c with tonerTag := t },
    quantityField "black" (·.black) fun c q => { c with black := q },
    quantityField "cyan" (·.cyan) fun c q => { c with cyan := q },
    quantityField "magenta" (·.magenta) fun c q => { c with magenta := q },
    quantityField "yellow" (·.yellow) fun c q => { c with yellow := q },
    quantityField "color_black" (·.colorBlack) fun c q => { c with colorBlack := q },
    quantityField "drum" (·.drum) fun c q => { c with drum := q },
    textField "branch" fun c t => { c with branch := t },
    textField "description" fun c t => { c with description := t },
    textField "state" fun c t => { c with state := t },
    timeField "created_at" fun c t => { c with createdAt := t },
    timeField "updated_at" fun c t => { c with updatedAt := t }]

/-- The members of a written consumable; a count below zero cannot be written. -/
def toMembers (c : Consumable) : Except QuantityError (List (Text × List Char × Json)) := do
  let black ← c.black.written
  let cyan ← c.cyan.written
  let magenta ← c.magenta.written
  let yellow ← c.yellow.written
  let colorBlack ← c.colorBlack.written
  let drum ← c.drum.written
  return [member "id" (.int c.id), member "brand" (.string c.brand),
      member "reference" (.string c.reference)] ++
    memberUnlessEmpty "toner_type" c.tonerTag ++
    [member "black" (.int black), member "cyan" (.int cyan), member "magenta" (.int magenta),
      member "yellow" (.int yellow), member "color_black" (.int colorBlack),
      member "drum" (.int drum), member "branch" (.string c.branch)] ++
    memberUnlessEmpty "description" c.description ++
    [member "state" (.string c.state), timeMember "created_at" c.createdAt,
      timeMember "updated_at" c.updatedAt]

def toJson (c : Consumable) : Except QuantityError Json := do
  return .object (← c.toMembers)

/-- The display fields as objects with a label and a quantity. -/
def displayJson (fields : List ShownQuantity) : Json :=
  .array (fields.map fun f =>
    .object [member "label" (.string f.label), member "quantity" (.int f.count)])

end Consumable

/-! ## Items -/

namespace Item

def wireFields : List (Field Refusal Item) :=
  [intField "id" fun r i => { r with id := i },
    textField "kind" fun r t => { r with kind := t },
    textField "branch" fun r t => { r with branch := t },
    textField "asset_name" fun r t => { r with assetName := t },
    textField "assigned_user" fun r t => { r with assignedUser := t },
    textField "email" fun r t => { r with email := t },
    textField "service" fun r t => { r with service := t },
    textField "description" fun r t => { r with description := t },
    textField "assigned_on" fun r t => { r with assignedOn := t },
    textField "status" fun r t => { r with status := t },
    textField "remark" fun r t => { r with remark := t },
    textField "location" fun r t => { r with location := t },
    textField "ip_address" fun r t => { r with ipAddress := t },
    textField "hostname" fun r t => { r with hostname := t },
    textField "model" fun r t => { r with model := t },
    textField "serial_number" fun r t => { r with serialNumber := t },
    timeField "created_at" fun r t => { r with createdAt := t },
    timeField "updated_at" fun r t => { r with updatedAt := t }]

def toJson (r : Item) : Json :=
  .object ([member "id" (.int r.id), member "kind" (.string r.kind),
      member "branch" (.string r.branch)] ++
    memberUnlessEmpty "asset_name" r.assetName ++
    memberUnlessEmpty "assigned_user" r.assignedUser ++
    memberUnlessEmpty "email" r.email ++
    memberUnlessEmpty "service" r.service ++
    memberUnlessEmpty "description" r.description ++
    memberUnlessEmpty "assigned_on" r.assignedOn ++
    memberUnlessEmpty "status" r.status ++
    memberUnlessEmpty "remark" r.remark ++
    memberUnlessEmpty "location" r.location ++
    memberUnlessEmpty "ip_address" r.ipAddress ++
    memberUnlessEmpty "hostname" r.hostname ++
    memberUnlessEmpty "model" r.model ++
    memberUnlessEmpty "serial_number" r.serialNumber ++
    [timeMember "created_at" r.createdAt, timeMember "updated_at" r.updatedAt])

end Item

/-! ## Deliveries, requests, accounts and branches -/

namespace Delivery

def wireFields : List (Field Refusal Delivery) :=
  [intField "id" fun r i => { r with id := i },
    textField "marque" fun r t => { r with brand := t },
    textField "modele" fun r t => { r with model := t },
    intField "quantite_arrivee" fun r i => { r with quantity := i },
    textField "date_arrivage" fun r t => { r with arrivalDate := t },
    textField "admin_nom" fun r t => { r with adminName := t },
    textField "fournisseur" fun r t => { r with supplier := t },
    textField "disponibilite" fun r t => { r with availability := t },
    timeField "created_at" fun r t => { r with createdAt := t },
    timeField "updated_at" fun r t => { r with updatedAt := t }]

def toJson (r : Delivery) : Json :=
  .object ([member "id" (.int r.id), member "marque" (.string r.brand),
      member "modele" (.string r.model), member "quantite_arrivee" (.int r.quantity),
      member "date_arrivage" (.string r.arrivalDate), member "admin_nom" (.string r.adminName)] ++
    memberUnlessEmpty "fournisseur" r.supplier ++
    [member "disponibilite" (.string r.availability), timeMember "created_at" r.createdAt,
      timeMember "updated_at" r.updatedAt])

end Delivery

namespace ResetRequest

def wireFields : List (Field Refusal ResetRequest) :=
  [intField "id" fun r i => { r with id := i },
    textField "name" fun r t => { r with name := t },
    textField "email" fun r t => { r with email := t },
    textField "message" fun r t => { r with message := t },
    timeField "created_at" fun r t => { r with createdAt := t }]

def toJson (r : ResetRequest) : Json :=
  .object [member "id" (.int r.id), member "name" (.string r.name),
    member "email" (.string r.email), member "message" (.string r.message),
    timeMember "created_at" r.createdAt]

end ResetRequest

namespace Account

def wireFields : List (Field Refusal Account) :=
  [intField "id" fun r i => { r with id := i },
    textField "username" fun r t => { r with username := t },
    textField "role" fun r t => { r with role := t },
    textField "branch" fun r t => { r with branch := t },
    timeField "created_at" fun r t => { r with createdAt := t },
    optionalTimeField "deleted_at" fun r t => { r with deletedAt := t }]

def toJson (r : Account) : Json :=
  .object ([member "id" (.int r.id), member "username" (.string r.username),
      member "role" (.string r.role)] ++
    memberUnlessEmpty "branch" r.branch ++
    [timeMember "created_at" r.createdAt] ++
    match r.deletedAt with
    | some t => [timeMember "deleted_at" t]
    | none => [])

end Account

namespace Branch

def wireFields : List (Field Refusal Branch) :=
  [intField "id" fun r i => { r with id := i },
    textField "name" fun r t => { r with name := t },
    textField "location" fun r t => { r with location := t },
    textField "image_mime" fun r t => { r with imageMime := t },
    timeField "created_at" fun r t => { r with createdAt := t }]

def toJson (r : Branch) : Json :=
  .object ([member "id" (.int r.id), member "name" (.string r.name)] ++
    memberUnlessEmpty "location" r.location ++
    memberUnlessEmpty "image_mime" r.imageMime ++
    [timeMember "created_at" r.createdAt])

end Branch

/-! ## Dashboards -/

def BranchCounts.toJson (c : BranchCounts) : Json :=
  .object [member "branch" (.string c.branch), member "inventory" (.int c.pcs),
    member "printers" (.int c.printers), member "consommables" (.int c.consumables)]

def Overview.toJson (o : Overview) : Json :=
  .object [member "users" (.int o.users), member "branches" (.int o.branches),
    member "inventory" (.int o.pcs), member "messages" (.int o.requests),
    member "new_pcs" (.int o.deliveries),
    member "per_branch" (.array (o.perBranch.map BranchCounts.toJson))]

end Stockroom

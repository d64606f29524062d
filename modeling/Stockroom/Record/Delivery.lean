import Stockroom.Calendar.Instant
import Stockroom.Text.Blank
import Stockroom.Text.Quoted

/-!
Deliveries of new workstations that headquarters has received and not handed out yet.

Main definitions: `Delivery`, `Delivery.trimmed`, `Delivery.validate`.
-/
namespace Stockroom
set_option autoImplicit false

/-- Ready to be handed out. -/
def arrivedMark : Text := "disponible"

/-- Not ready yet. -/
def awaitedMark : Text := "pas encore disponible"

/-- Whether a text is an availability. -/
def isAvailability (t : Text) : Bool := t == arrivedMark || t == awaitedMark

/-- A delivery of workstations. -/
structure Delivery where
  id : Int := 0
  brand : Text := []
  model : Text := []
  quantity : Int := 0
  arrivalDate : Text := []
  adminName : Text := []
  supplier : Text := []
  availability : Text := []
  createdAt : Instant := .unset
  updatedAt : Instant := .unset
  deriving DecidableEq, Repr

instance : Inhabited Delivery := ⟨{}⟩

/-- Why a delivery is refused. -/
inductive DeliveryError where
  | nameMissing
  | tooFew
  | badArrivalDate
  | unknownAvailability
  deriving DecidableEq, Repr

def DeliveryError.message : DeliveryError → Text
  | .nameMissing => "marque and modele required"
  | .tooFew => "quantite_arrivee must be at least 1"
  | .badArrivalDate => "date_arrivage must be YYYY-MM-DD"
  | .unknownAvailability =>
    "disponibilite must be " ++ arrivedMark.quoted ++ " or " ++ awaitedMark.quoted

namespace Delivery

/-- The delivery without space around its names. -/
def trimmed (d : Delivery) : Delivery :=
  { d with
    brand := d.brand.trim
    model := d.model.trim
    adminName := d.adminName.trim
    supplier := d.supplier.trim }

/-- The rules of a trimmed delivery, in the order in which they are checked. An empty arrival date
or administrator is filled in when the delivery is recorded. -/
def validate (d : Delivery) : Except DeliveryError Unit :=
  if d.brand.isEmpty || d.model.isEmpty then .error .nameMissing
  else if d.quantity < 1 then .error .tooFew
  else if !d.arrivalDate.isEmpty && !isIsoDate d.arrivalDate then .error .badArrivalDate
  else if !isAvailability d.availability then .error .unknownAvailability
  else .ok ()

end Delivery
end Stockroom

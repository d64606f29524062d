import Stockroom.Calendar.Instant
import Stockroom.Net.IpAddress
import Stockroom.Text.Quoted

/-!
Workstations and printers assigned to a branch. Both kinds share one record; the fields of the other
kind stay empty.

Main definitions: `ItemKind`, `Item`, `Item.validate`.
-/
namespace Stockroom
set_option autoImplicit false

/-- What an inventory item is. -/
inductive ItemKind where
  | pc
  | printer
  deriving DecidableEq, Repr

namespace ItemKind

def tag : ItemKind → Text
  | .pc => "pc"
  | .printer => "printer"

def ofTag (t : Text) : Option ItemKind :=
  if t = pc.tag then some .pc else if t = printer.tag then some .printer else none

end ItemKind

/-- The status of a workstation whose sheet gives none. -/
def defaultStatus : Text := "Actif"

/-- A workstation or a printer. -/
structure Item where
  id : Int := 0
  kind : Text := []
  branch : Text := []
  assetName : Text := []
  assignedUser : Text := []
  email : Text := []
  service : Text := []
  description : Text := []
  assignedOn : Text := []
  status : Text := []
  remark : Text := []
  location : Text := []
  ipAddress : Text := []
  hostname : Text := []
  model : Text := []
  serialNumber : Text := []
  createdAt : Instant := .unset
  updatedAt : Instant := .unset
  deriving DecidableEq, Repr

instance : Inhabited Item := ⟨{}⟩

/-- Why an item is refused. -/
inductive ItemError where
  | unknownKind
  | branchMissing
  | badAssignedOn
  | assetNameMissing
  | ipAddressMissing
  | badIpAddress (text : Text)
  deriving DecidableEq, Repr

def ItemError.message : ItemError → Text
  | .unknownKind =>
    "kind must be " ++ ItemKind.pc.tag.quoted ++ " or " ++ ItemKind.printer.tag.quoted
  | .branchMissing => "branch required"
  | .badAssignedOn => "assigned_on must be YYYY-MM-DD"
  | .assetNameMissing => "asset_name required"
  | .ipAddressMissing => "ip_address required"
  | .badIpAddress text => "invalid ip_address " ++ text.quoted

namespace Item

/-- What a kind requires of its own fields. -/
def validateKind (it : Item) : ItemKind → Except ItemError Unit
  | .pc => if it.assetName.isEmpty then .error .assetNameMissing else .ok ()
  | .printer =>
    if it.ipAddress.isEmpty then .error .ipAddressMissing
    else if isIpAddress it.ipAddress.toChars then .ok ()
    else .error (.badIpAddress it.ipAddress)

/-- The rules of a well-formed item, in the order in which they are checked. -/
def validate (it : Item) : Except ItemError Unit :=
  match ItemKind.ofTag it.kind with
  | none => .error .unknownKind
  | some kind =>
    if it.branch.isEmpty then .error .branchMissing
    else if !it.assignedOn.isEmpty && !isIsoDate it.assignedOn then .error .badAssignedOn
    else it.validateKind kind

end Item
end Stockroom

import Stockroom.Record.Quantity
import Stockroom.Calendar.Instant

/-!
Toner and drum stock of a branch. A one-colour toner has a count of black only, a four-colour toner
has counts of cyan, magenta, yellow and black for colour, and either may track a drum.

Main definitions:
* `TonerType`, `TonerType.ofTag`, `TonerType.ofLabel`;
* `Consumable`;
* `Consumable.classify`: the toner type of a record, tagged or not;
* `Consumable.configure`: the record configured for a toner type;
* `Consumable.validate`: the rules of a well-formed record;
* `Consumable.display`: the counts an operator sees.
-/
namespace Stockroom
set_option autoImplicit false

/-! ## Vocabulary -/

/-- Which toner counts a consumable tracks. -/
inductive TonerType where
  | unicolor
  | multicolor
  deriving DecidableEq, Repr

namespace TonerType

/-- The tag of a toner type. -/
def tag : TonerType → Text
  | .unicolor => "unicolor"
  | .multicolor => "multicolor"

/-- The toner type of a tag. -/
def ofTag (t : Text) : Option TonerType :=
  if t = unicolor.tag then some .unicolor
  else if t = multicolor.tag then some .multicolor
  else none

/-- The words operators use for each toner type, folded. -/
def labels : TonerType → List String
  | .unicolor => ["unicolor", "unicolore", "mono", "monochrome", "noir", "black"]
  | .multicolor => ["multicolor", "multicolore", "couleur", "color", "colour", "cmyk"]

/-- The toner type of a folded word. -/
def ofLabel (t : Text) : Option TonerType :=
  if (labels .unicolor).any fun word => t = Text.ofString word then some .unicolor
  else if (labels .multicolor).any fun word => t = Text.ofString word then some .multicolor
  else none

end TonerType

/-- In stock. -/
def inStockState : Text := "disponible"

/-- On order. -/
def onOrderState : Text := "endemande"

/-- Whether a text is a state of a consumable. -/
def isState (t : Text) : Bool := t == inStockState || t == onOrderState

/-! ## Records -/

/-- A stock record. The tag may be empty or unknown until the record is checked. -/
structure Consumable where
  id : Int := 0
  brand : Text := []
  reference : Text := []
  tonerTag : Text := []
  black : Quantity := .notApplicable
  cyan : Quantity := .notApplicable
  magenta : Quantity := .notApplicable
  yellow : Quantity := .notApplicable
  colorBlack : Quantity := .notApplicable
  drum : Quantity := .notApplicable
  branch : Text := []
  description : Text := []
  state : Text := []
  createdAt : Instant := .unset
  updatedAt : Instant := .unset
  deriving DecidableEq, Repr

instance : Inhabited Consumable := ⟨{}⟩

/-- Why a consumable is refused. -/
inductive ConsumableError where
  | brandMissing
  | referenceMissing
  | branchMissing
  | unknownState
  | unknownTag
  | unknownType (tag : Text)
  | quantity (e : QuantityError)
  | blackMismatch
  | colorMismatch
  deriving DecidableEq, Repr

def ConsumableError.message : ConsumableError → Text
  | .brandMissing => "brand required"
  | .referenceMissing => "reference required"
  | .branchMissing => "branch required"
  | .unknownState => "state must be " ++ inStockState.quoted ++ " or " ++ onOrderState.quoted
  | .unknownTag =>
    "toner_type must be " ++ TonerType.unicolor.tag.quoted ++ " or " ++
      TonerType.multicolor.tag.quoted
  | .unknownType tag => "unknown toner type " ++ tag.quoted
  | .quantity e => e.message
  | .blackMismatch => "quantities do not match toner type: black toner"
  | .colorMismatch => "quantities do not match toner type: color toner"

/-- Whether the counts disagree with the toner type. -/
def ConsumableError.isMismatch : ConsumableError → Bool
  | .blackMismatch | .colorMismatch => true
  | _ => false

namespace Consumable

/-- The four counts of a colour toner. -/
def colors (c : Consumable) : List Quantity := [c.cyan, c.magenta, c.yellow, c.colorBlack]

/-- All counts, in the order in which they are checked. -/
def quantities (c : Consumable) : List Quantity := c.colors ++ [c.black, c.drum]

/-- The toner type a valid tag names. -/
def taggedType (c : Consumable) : Option TonerType := TonerType.ofTag c.tonerTag

def hasDrum (c : Consumable) : Bool := c.drum.isApplicable

/-- The toner type of a record. A valid tag decides; without one the missing counts do, and where
no count is missing, black stock means a one-colour toner. -/
def classify (c : Consumable) : TonerType :=
  match c.taggedType with
  | some t => t
  | none =>
    if !c.black.isApplicable then .multicolor
    else if c.colors.any (!·.isApplicable) then .unicolor
    else if 0 < c.black.getD 0 then .unicolor
    else .multicolor

/-- The first count below zero is an error. -/
def checkCounts : List Quantity → Except ConsumableError Unit
  | [] => .ok ()
  | q :: rest =>
    match q.check with
    | .ok () => checkCounts rest
    | .error e => .error (.quantity e)

/-- Keeps the counts of a toner type and marks the others as not applicable. -/
def configured (c : Consumable) (t : TonerType) (drum : Bool) : Consumable :=
  let keepIf (wanted : Bool) (q : Quantity) : Quantity :=
    if wanted then q.kept else .notApplicable
  { c with
    tonerTag := t.tag
    black := keepIf (t == .unicolor) c.black
    cyan := keepIf (t == .multicolor) c.cyan
    magenta := keepIf (t == .multicolor) c.magenta
    yellow := keepIf (t == .multicolor) c.yellow
    colorBlack := keepIf (t == .multicolor) c.colorBlack
    drum := keepIf drum c.drum }

/-- The record configured for the toner type of a tag, with or without a drum. -/
def configure (c : Consumable) (tag : Text) (drum : Bool) : Except ConsumableError Consumable :=
  match TonerType.ofTag tag with
  | none => .error (.unknownType tag)
  | some t => do
    checkCounts c.quantities
    return c.configured t drum

/-- Whether exactly the counts outside the toner type are missing. -/
def checkMarks (c : Consumable) (t : TonerType) : Except ConsumableError Unit :=
  let wantBlack := t == .unicolor
  if c.black.isApplicable != wantBlack then .error .blackMismatch
  else if c.colors.any (·.isApplicable == wantBlack) then .error .colorMismatch
  else .ok ()

/-- The rules of a well-formed record, in the order in which they are checked. -/
def validate (c : Consumable) : Except ConsumableError Unit := do
  if c.brand.isEmpty then throw .brandMissing
  if c.reference.isEmpty then throw .referenceMissing
  if c.branch.isEmpty then throw .branchMissing
  if !isState c.state then throw .unknownState
  match c.taggedType with
  | none => throw .unknownTag
  | some t =>
    checkCounts c.quantities
    c.checkMarks t

/-- A label and a count. -/
structure ShownQuantity where
  label : Text
  count : Int
  deriving DecidableEq, Repr

/-- The counts that apply, with the labels an operator sees. -/
def display (c : Consumable) : List ShownQuantity :=
  [("Toner noir", c.black), ("Cyan", c.cyan), ("Magenta", c.magenta), ("Jaune", c.yellow),
    ("Noir couleur", c.colorBlack), ("Drum", c.drum)].filterMap fun (label, q) =>
    q.count?.map fun n => ⟨Text.ofString label, n⟩

end Consumable
end Stockroom

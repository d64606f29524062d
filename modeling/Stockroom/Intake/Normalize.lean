import Stockroom.Intake.Date
import Stockroom.Intake.Email
import Stockroom.Record.Consumable
import Stockroom.Record.Item
import Stockroom.Sheet.Mapping

/-!
Rows as records. A workstation is always a record: a missing name gets a placeholder and a missing
status the usual one. A printer needs an address, a consumable a brand, a reference and counts that
are whole numbers.

Main definitions:
* `FieldError`: the field that stands in the way of a record, and why;
* `Normalizer`, `Normalizer.pc`, `Normalizer.printer`, `Normalizer.consumable`;
* `prepare`: the records of a sheet.
-/
namespace Stockroom
set_option autoImplicit false

/-! ## Errors -/

/-- What is wrong with a field. -/
inductive FieldFault where
  | missing
  | notAnIpAddress (text : Text)
  | unknownState (text : Text)
  | notACount (text : Text)
  | unknownTonerType (text : Text)
  deriving DecidableEq, Repr

/-- A field that stands in the way of a record. -/
structure FieldError where
  field : Text
  fault : FieldFault
  deriving DecidableEq, Repr

namespace FieldError

def message (e : FieldError) : Text :=
  match e.fault with
  | .missing => "missing " ++ e.field
  | .notAnIpAddress t => "invalid " ++ e.field ++ ": " ++ t.quoted ++ " is not an IP address"
  | .unknownState t => "invalid " ++ e.field ++ ": unknown state " ++ t.quoted
  | .notACount t =>
    "invalid " ++ e.field ++ ": invalid quantity: " ++ t.quoted ++
      " is not a whole number of 0 or more"
  | .unknownTonerType t => "invalid " ++ e.field ++ ": unknown toner type " ++ t.quoted

end FieldError

/-! ## Workstations and printers -/

/-- The name of a workstation whose row gives none. -/
def placeholderName (n : Nat) : Text := "PC-" ++ Text.ofNat n

open FieldName in
/-- A workstation; `placeholder` names it when its row does not. -/
def pcRecord (placeholder : Text) (row : Row) (m : Mapping) (branch : Text) : Item :=
  let name := m.text row assetName
  let status := m.text row FieldName.status
  { kind := ItemKind.pc.tag
    branch := branch
    assetName := if name.isEmpty then placeholder else name
    serialNumber := m.text row serialNumber
    assignedUser := m.text row assignedUser
    email := cleanEmail (m.text row email)
    service := m.text row service
    description := m.text row description
    assignedOn := match m.cell? row assignedOn with
      | some c => dateText c
      | none => []
    status := if status.isEmpty then defaultStatus else status
    remark := m.text row remark }

open FieldName in
/-- A printer. -/
def printerRecord (row : Row) (m : Mapping) (branch : Text) : Except FieldError Item :=
  let ip := m.text row ipAddress
  if ip.isEmpty then .error ⟨ipAddress, .missing⟩
  else if !isIpAddress ip.toChars then .error ⟨ipAddress, .notAnIpAddress ip⟩
  else .ok
    { kind := ItemKind.printer.tag
      branch := branch
      location := m.text row location
      ipAddress := ip
      hostname := m.text row hostname
      serialNumber := m.text row serialNumber
      model := m.text row model }

/-! ## Consumables -/

/-- The words for consumables in stock, folded. -/
def availableWords : List String := ["disponible", "available", "en stock"]

/-- The words for consumables on order, folded. -/
def onOrderWords : List String :=
  ["endemande", "en demande", "commande", "en commande", "on order"]

/-- The state a word means. -/
def stateOfWord (raw : Text) : Option Text :=
  let word := raw.folded
  if availableWords.any fun w => word = Text.ofString w then some inStockState
  else if onOrderWords.any fun w => word = Text.ofString w then some onOrderState
  else none

/-- The greatest count a sheet may hold. -/
def maxCount : Int := 2147483647

/-- The count of a cell: a whole number within bounds. -/
def countOfCell (c : Cell) : Option Int :=
  (c.number.bind Binary64.whole?).filter fun n => 0 ≤ n && n ≤ maxCount

/-- The count that feeds a field; none applies where there is no cell. -/
def readCount (row : Row) (m : Mapping) (field : Text) : Except FieldError Quantity :=
  match m.cell? row field with
  | none => .ok .notApplicable
  | some c =>
    match countOfCell c with
    | some n => .ok (.counted n)
    | none => .error ⟨field, .notACount c.value⟩

/-- The state of a row, in stock when it gives none. -/
def readState (row : Row) (m : Mapping) : Except FieldError Text :=
  let raw := m.text row FieldName.state
  if raw.isEmpty then .ok inStockState
  else match stateOfWord raw with
    | some state => .ok state
    | none => .error ⟨FieldName.state, .unknownState raw⟩

/-- The fields of colour toner. -/
def coloredInks : List Text :=
  [FieldName.cyan, FieldName.magenta, FieldName.yellow, FieldName.colorBlack]

/-- The toner type of a row: the one it gives, else four colours when a colour cell is filled. -/
def readTonerType (row : Row) (m : Mapping) : Except FieldError TonerType :=
  let raw := m.text row FieldName.tonerType
  if raw.isEmpty then
    .ok (if coloredInks.any fun f => (m.cell? row f).isSome then .multicolor else .unicolor)
  else match TonerType.ofLabel raw.folded with
    | some t => .ok t
    | none => .error ⟨FieldName.tonerType, .unknownTonerType raw⟩

open FieldName in
/-- A consumable, its counts configured for its toner type. -/
def consumableRecord (row : Row) (m : Mapping) (branch : Text) : Except FieldError Consumable := do
  let brand := m.text row FieldName.brand
  let reference := m.text row FieldName.reference
  if brand.isEmpty then throw ⟨FieldName.brand, .missing⟩
  if reference.isEmpty then throw ⟨FieldName.reference, .missing⟩
  let state ← readState row m
  let black ← readCount row m FieldName.black
  let cyan ← readCount row m FieldName.cyan
  let magenta ← readCount row m FieldName.magenta
  let yellow ← readCount row m FieldName.yellow
  let colorBlack ← readCount row m FieldName.colorBlack
  let drum ← readCount row m FieldName.drum
  let tonerType ← readTonerType row m
  let c : Consumable :=
    { branch, brand, reference, state, black, cyan, magenta, yellow, colorBlack, drum
      description := m.text row description }
  return c.configured tonerType drum.isApplicable

/-! ## Sheets -/

/-- How the rows of one kind of sheet become records, and what is said about them. The first
argument of `record` is the line of the row. -/
structure Normalizer (ρ : Type) where
  record : Nat → Row → Mapping → Text → Except FieldError ρ
  notices : Row → Mapping → List LogEntry := fun _ _ => []

namespace Normalizer

/-- Workstations, named by their line where they have no name. -/
def pc (placeholder : Nat → Text) : Normalizer Item where
  record line row m branch := .ok (pcRecord (placeholder line) row m branch)
  notices row m := emailNotices (m.text row FieldName.email)

def printer : Normalizer Item where
  record _ row m branch := printerRecord row m branch

def consumable : Normalizer Consumable where
  record _ row m branch := consumableRecord row m branch

end Normalizer

/-- A row of a file as a record, or why it is none. -/
structure PreparedRow (ρ : Type) where
  line : Nat
  record : Except FieldError ρ

/-- The records of a sheet and what is said about its rows. -/
def prepare {ρ : Type} (rows : List Row) (schema : Schema) (branch : Text) (n : Normalizer ρ) :
    List (PreparedRow ρ) × List LogEntry :=
  let m := Mapping.infer (topRow rows) schema
  let data := bodyRows rows m
  (data.map fun r => ⟨r.line, n.record r.line r.cells m branch⟩,
    data.flatMap fun r => n.notices r.cells m)

end Stockroom

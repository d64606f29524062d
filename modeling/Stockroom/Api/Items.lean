import Stockroom.Api.Session
import Stockroom.Store.Branches
import Stockroom.Store.Items

/-!
Workstations and printers, each within reach of those who have access to its branch.

Main definitions: `branchForWrite`, `listItems`, `createItem`, `getItem`, `updateItem`,
`deleteItem`, `exportItems`.
-/
namespace Stockroom
set_option autoImplicit false

namespace Api

/-- The branch of a record that is stored: a manager's own when none is named. It must exist and be
within reach. -/
def branchForWrite (claims : Claims) (s : Store) (branch : Text) : Except Response Text := do
  let branch :=
    if branch.isEmpty && claims.role == Role.manager.tag then claims.branch else branch
  if branch.isEmpty then refuse 400 "branch required"
  if !mayAccess claims branch then refuse 403 ("no access to branch " ++ branch)
  match ← orRefuse (s.branchNamed? branch) 500 "failed to check branch" with
  | some _ => return branch
  | none => refuse 400 ("unknown branch " ++ branch)

def listItems (claims : Claims) (s : Store) (req : Request) : Outcome := do
  let branch ← listedBranch claims req
  let kind := req.param "kind"
  if !kind.isEmpty && (ItemKind.ofTag kind).isNone then refuse 400 "invalid kind"
  let rows ← orRefuse (s.itemList { branch, kind }) 500 "failed to list inventory items"
  return (.json 200 (.array (rows.map Item.toJson)), s)

def createItem (ctx : Context) (claims : Claims) (s : Store) (req : Request) : Outcome := do
  let sent ← sentRecord Item.wireFields req
  let branch ← branchForWrite claims s sent.branch
  let (row, s) ← orExplain (s.createItem ctx.now { sent with branch }) "create inventory item"
  return (.json 201 row.toJson, s)

/-- The item with an id, if it is within reach. -/
def reachedItem (claims : Claims) (s : Store) (segment : Text) : Except Response Item := do
  let id ← idOf segment "inventory item"
  let row ← orMissing (← orRefuse (s.item? id) 500 "failed to get inventory item")
    "inventory item not found"
  if mayAccess claims row.branch then return row else refuse 404 "inventory item not found"

def getItem (claims : Claims) (s : Store) (segment : Text) : Outcome := do
  let row ← reachedItem claims s segment
  return (.json 200 row.toJson, s)

def updateItem (ctx : Context) (claims : Claims) (s : Store) (segment : Text) (req : Request) :
    Outcome := do
  let existing ← reachedItem claims s segment
  let sent ← sentRecord Item.wireFields req
  let branch ←
    branchForWrite claims s (if sent.branch.isEmpty then existing.branch else sent.branch)
  let (row, s) ←
    orExplain (s.updateItem ctx.now existing.id { sent with branch }) "update inventory item"
  let row ← orMissing row "inventory item not found"
  return (.json 200 row.toJson, s)

def deleteItem (claims : Claims) (s : Store) (segment : Text) : Outcome := do
  let existing ← reachedItem claims s segment
  let s ← orRefuse (s.deleteItem existing.id) 500 "failed to delete inventory item"
  return (.done "inventory item deleted", s)

/-! ## Exports -/

/-- The columns of an exported sheet. -/
def sheetColumns : ItemKind → List (String × (Item → Text))
  | .pc =>
    [("Nom du poste", (·.assetName)), ("Numéro de série", (·.serialNumber)),
      ("Utilisateur", (·.assignedUser)), ("Email", (·.email)), ("Service", (·.service)),
      ("Description", (·.description)), ("Date d'affectation", (·.assignedOn)),
      ("État", (·.status)), ("Remarque", (·.remark))]
  | .printer =>
    [("Emplacement", (·.location)), ("Adresse IP", (·.ipAddress)), ("Hostname", (·.hostname)),
      ("Numéro de série", (·.serialNumber)), ("Modèle", (·.model))]

def exportHeader (kind : ItemKind) : List Text :=
  (sheetColumns kind).map fun column => Text.ofString column.1

def exportRow (kind : ItemKind) (r : Item) : List Text :=
  (sheetColumns kind).map fun column => column.2 r

/-- The workbook of some items. -/
def exportWorkbook (kind : ItemKind) (rows : List Item) : Option Workbook :=
  Workbook.ofTexts kind.tag (exportHeader kind) (rows.map (exportRow kind))

/-- The day as eight digits. -/
def dayDigits (t : Instant) : Text := t.date.iso.filter (· != .char '-')

/-- The name of an exported file. -/
def exportName (kind : ItemKind) (branch : Text) (now : Instant) : Text :=
  "inventaire-" ++ kind.tag ++ (if branch.isEmpty then [] else .char '-' :: branch) ++ "-" ++
    dayDigits now ++ ".xlsx"

def workbookType : Text := "application/vnd.openxmlformats-officedocument.spreadsheetml.sheet"

/-- The items of one kind as a workbook. -/
def exportItems (ctx : Context) (claims : Claims) (s : Store) (req : Request) : Outcome := do
  let branch ← listedBranch claims req
  match ItemKind.ofTag (req.param "kind") with
  | none => refuse 400 "kind must be pc or printer"
  | some kind =>
    let rows ← orRefuse (s.itemList { branch, kind := kind.tag }) 500 "failed to export inventory"
    match exportWorkbook kind rows with
    | none => refuse 500 "failed to export inventory"
    | some book =>
      let response : Response :=
        { status := 200, mediaType := workbookType, body := .workbook book
          disposition := "attachment; filename=" ++ (exportName kind branch ctx.now).quoted }
      return (response, s)

end Api
end Stockroom

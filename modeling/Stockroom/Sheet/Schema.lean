import Stockroom.Text.Folded

/-!
Which header names which field. A schema has an order of fields, for sheets without a header, and a
table of header spellings. Spellings are compared folded; the first entry for a spelling decides, and
an entry that folds to nothing is no spelling at all.

Main definitions:
* `Synonym`, `Schema`, `Schema.tableOf`, `Schema.lookup`, `Schema.extend`;
* `Schema.pc`, `Schema.printer`, `Schema.consumable`: the schemas of the three kinds of sheets;
* `Schema.ofName`.
-/
namespace Stockroom
set_option autoImplicit false

/-! ## Fields -/

namespace FieldName

def assetName : Text := "asset_name"
def serialNumber : Text := "serial_number"
def assignedUser : Text := "assigned_user"
def email : Text := "email"
def service : Text := "service"
def description : Text := "description"
def assignedOn : Text := "assigned_on"
def status : Text := "status"
def remark : Text := "remark"
def location : Text := "location"
def ipAddress : Text := "ip_address"
def hostname : Text := "hostname"
def model : Text := "model"
def brand : Text := "brand"
def reference : Text := "reference"
def tonerType : Text := "toner_type"
def black : Text := "black"
def cyan : Text := "cyan"
def magenta : Text := "magenta"
def yellow : Text := "yellow"
def colorBlack : Text := "color_black"
def drum : Text := "drum"
def state : Text := "state"

end FieldName

/-! ## Schemas -/

/-- A header spelling and the field it names. -/
structure Synonym where
  header : Text
  field : Text
  deriving DecidableEq, Repr, Inhabited

/-- How the columns of one kind of sheet map to fields. -/
structure Schema where
  name : Text
  /-- The fields of a sheet without a header, from left to right. -/
  fieldOrder : List Text
  synonyms : List Synonym
  deriving DecidableEq, Repr, Inhabited

namespace Schema

/-- The table in which headers are looked up: folded spellings with their fields. An entry whose
spelling is there already, or folds to nothing, does not count. -/
def tableOf (synonyms : List Synonym) : List (Text × Text) :=
  synonyms.foldl (fun table e =>
    let key := e.header.folded
    if (table.lookup key).isSome || key.isEmpty then table else table ++ [(key, e.field)]) []

/-- The field that a header names. -/
def lookup (s : Schema) (header : Text) : Option Text := (tableOf s.synonyms).lookup header.folded

def hasField (s : Schema) (field : Text) : Bool := s.fieldOrder.contains field

/-- The schema with further spellings; its own keep precedence. -/
def extend (s : Schema) (extra : List Synonym) : Schema :=
  { s with synonyms := s.synonyms ++ extra }

/-! ## The three kinds of sheets -/

/-- The spellings of one field. -/
def spellings (field : Text) (headers : List String) : List Synonym :=
  headers.map fun h => ⟨Text.ofString h, field⟩

open FieldName in
/-- Sheets of workstations. -/
def pc : Schema where
  name := "pc"
  fieldOrder :=
    [assetName, serialNumber, assignedUser, email, service, description, assignedOn, status, remark]
  synonyms :=
    spellings assetName ["nom du poste", "nom poste", "nom_poste", "poste", "nom", "asset_name"] ++
    spellings serialNumber ["sn", "num_serie", "numéro de série", "n° série", "serial_number"] ++
    spellings assignedUser ["utilisateur", "user", "assigned_user"] ++
    spellings email ["email", "mail", "e-mail"] ++
    spellings service ["service", "département"] ++
    spellings description ["description", "desc"] ++
    spellings assignedOn ["date d'affectation", "date daffectation", "date_aff", "assigned_on"] ++
    spellings status ["état", "status", "statut"] ++
    spellings remark ["remarque", "remarques", "commentaire", "note"]

open FieldName in
/-- Sheets of printers. -/
def printer : Schema where
  name := "printer"
  fieldOrder := [location, ipAddress, hostname, serialNumber, model]
  synonyms :=
    spellings location ["emplacement", "lieu", "localisation", "location"] ++
    spellings ipAddress ["adresse ip", "adresseip", "ip", "ip_address"] ++
    spellings hostname ["hostname", "nom d'hôte", "hôte", "nom"] ++
    spellings serialNumber
      ["numéro de série", "numero_serie", "n° série", "série", "nserie", "sn", "serial_number"] ++
    spellings model ["modèle", "modele_peripherique", "modèle périphérique", "type", "model"]

open FieldName in
/-- Sheets of toner and drum stock. -/
def consumable : Schema where
  name := "consumable"
  fieldOrder :=
    [brand, reference, tonerType, black, cyan, magenta, yellow, colorBlack, drum, description, state]
  synonyms :=
    spellings brand ["marque", "brand", "fabricant"] ++
    spellings reference ["référence", "ref", "réf", "modèle", "reference"] ++
    spellings tonerType ["type", "type toner", "type de toner", "toner_type"] ++
    spellings black ["noir", "toner noir", "black", "bk"] ++
    spellings cyan ["cyan"] ++
    spellings magenta ["magenta"] ++
    spellings yellow ["jaune", "yellow"] ++
    spellings colorBlack ["noir couleur", "color_black", "noir_couleur"] ++
    spellings drum ["drum", "tambour", "photoconducteur"] ++
    spellings description ["description", "desc", "commentaire"] ++
    spellings state ["état", "statut", "state"]

/-- The schema of a kind of sheet. -/
def ofName (name : Text) : Option Schema := [pc, printer, consumable].find? (·.name == name)

end Schema
end Stockroom

import Stockroom.Sheet.Schema
import Stockroom.Yaml.Decode
import Stockroom.Yaml.Reader

/-!
Files of further header spellings: for each kind of sheet a list of entries with a header and a
field. An entry must name a field of its schema, and its header must not fold to nothing.

Main definitions: `SynonymFile`, `SynonymFile.check`, `SynonymFile.parse`, `SynonymFile.apply`.
-/
namespace Stockroom
set_option autoImplicit false

/-- Further spellings by the name of the schema they belong to. -/
abbrev SynonymFile := List (Text × List Synonym)

/-- Why a synonym file is refused. -/
inductive SynonymError where
  | malformed (fault : Yaml.Fault)
  | unknownKind (kind : Text)
  | emptyHeader (kind field : Text)
  | unknownField (kind field : Text)
  deriving DecidableEq, Repr

def SynonymError.message : SynonymError → Text
  | .malformed fault => "parsing synonyms: " ++ fault.message
  | .unknownKind kind => "synonyms: unknown sheet kind " ++ kind.quoted
  | .emptyHeader kind field => "synonyms: empty header for " ++ kind ++ "." ++ field
  | .unknownField kind field => "synonyms: " ++ kind ++ " has no field " ++ field.quoted

namespace SynonymFile

/-! ## Shape -/

/-- An entry as far as it was read. -/
structure Draft where
  header : Option Text := none
  field : Option Text := none

/-- What the parts of a file are called in messages. -/
def entryName : Text := "sheet.Synonym"
def entriesName : Text := "[]sheet.Synonym"
def fileName : Text := "sheet.SynonymFile"

/-- The text of a member, empty when it is null. A member must not come twice. -/
def memberText (doc : Yaml.Document) (active : List Yaml.Place) (earlier : Option Text) (name : Text)
    (key value : Yaml.Node) : Yaml.Decode (Option Text) := do
  if earlier.isSome then
    Yaml.Decode.note [.repeatedField key.line name entryName]
    return earlier
  else return some ((← doc.text active value).getD [])

/-- Puts a member of an entry. Members with other names mean nothing. -/
def putMember (doc : Yaml.Document) (active : List Yaml.Place) (e : Draft) (name : Text)
    (key value : Yaml.Node) : Yaml.Decode Draft := do
  if name == Text.ofString "header" then
    return { e with header := ← memberText doc active e.header name key value }
  else if name == Text.ofString "field" then
    return { e with field := ← memberText doc active e.field name key value }
  else return e

/-- The entry of a mapping; a null is no entry. -/
def entryOf (doc : Yaml.Document) (active : List Yaml.Place) (node : Yaml.Node) :
    Yaml.Decode (Option Synonym) := do
  match ← doc.enter active node with
  | (active, .mapping _ _ entries) =>
    let e ← doc.fold (putMember doc) active entries {}
    return some ⟨e.header.getD [], e.field.getD []⟩
  | (_, node) =>
    Yaml.unwanted entryName node
    return none

/-- The entries of a sequence; a null has none. -/
def entriesOf (doc : Yaml.Document) (active : List Yaml.Place) (node : Yaml.Node) :
    Yaml.Decode (List Synonym) := do
  match ← doc.enter active node with
  | (active, .sequence _ _ items) => return (← items.mapM (entryOf doc active)).filterMap id
  | (_, node) =>
    Yaml.unwanted entriesName node
    return []

/-- Puts the entries of a kind; of several lists for a kind the last counts. -/
def putKind (doc : Yaml.Document) (active : List Yaml.Place) (file : SynonymFile) (kind : Text)
    (_key value : Yaml.Node) : Yaml.Decode SynonymFile := do
  let entries ← entriesOf doc active value
  return (file.filter fun e => e.1 != kind) ++ [(kind, entries)]

/-- A file from a mapping of kinds to entries. -/
def ofDocument (doc : Yaml.Document) : Except Yaml.Fault SynonymFile := Yaml.Decode.result do
  Yaml.count false
  match ← doc.enter [] doc.root with
  | (active, .mapping _ _ entries) => doc.fold (putKind doc) active entries []
  | (_, node) =>
    Yaml.unwanted fileName node
    return []

/-! ## Rules -/

/-- The rules of the entries of one schema. -/
def checkEntries (schema : Schema) : List Synonym → Except SynonymError Unit
  | [] => .ok ()
  | e :: rest =>
    if e.header.folded.isEmpty then .error (.emptyHeader schema.name e.field)
    else if schema.hasField e.field then checkEntries schema rest
    else .error (.unknownField schema.name e.field)

/-- The rules of a file. -/
def check : SynonymFile → Except SynonymError Unit
  | [] => .ok ()
  | (kind, entries) :: rest =>
    match Schema.ofName kind with
    | none => .error (.unknownKind kind)
    | some schema => do
      checkEntries schema entries
      check rest

/-- Reads and checks a file. -/
def parse (t : Text) : Except SynonymError SynonymFile :=
  match Yaml.read t with
  | .error fault => .error (.malformed fault)
  | .ok none => .ok []
  | .ok (some doc) =>
    match ofDocument doc with
    | .error fault => .error (.malformed fault)
    | .ok file => do
      check file
      return file

/-- A schema with the file's spellings for it. -/
def apply (file : SynonymFile) (schema : Schema) : Schema :=
  schema.extend ((file.lookup schema.name).getD [])

end SynonymFile
end Stockroom

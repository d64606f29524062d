import Stockroom.Api.Session
import Stockroom.Net.Form
import Stockroom.Store.Branches
import Stockroom.Text.Blank

/-!
The branches. Everyone may see them, an administrator manages them, and the manager of a branch may
change its photo.

Main definitions: `listBranches`, `createBranch`, `getBranch`, `updateBranch`, `deleteBranch`,
`uploadPhoto`, `getPhoto`.
-/
namespace Stockroom
set_option autoImplicit false

namespace Api

open Json (textField)

/-- What is sent about a branch. -/
structure BranchForm where
  name : Text := []
  location : Text := []
  deriving DecidableEq, Repr

instance : Inhabited BranchForm := ⟨{}⟩

def BranchForm.wireFields : List (Json.Field Refusal BranchForm) :=
  [textField "name" fun r t => { r with name := t },
    textField "location" fun r t => { r with location := t }]

/-- The form that was sent, with a name that is not blank. -/
def sentBranch (req : Request) : Except Response BranchForm := do
  let sent ← sentRecord BranchForm.wireFields req
  let name := sent.name.trim
  if name.isEmpty then refuse 400 "name required"
  return { sent with name }

def listBranches (s : Store) : Outcome := do
  let rows ← orRefuse s.branchList 500 "failed to list branches"
  return (.json 200 (.array (rows.map Branch.toJson)), s)

def createBranch (ctx : Context) (s : Store) (req : Request) : Outcome := do
  let sent ← sentBranch req
  let (branch, s) ←
    orRefuse (s.createBranch ctx.now sent.name sent.location) 409 "branch already exists"
  return (.json 201 branch.toJson, s)

def getBranch (s : Store) (segment : Text) : Outcome := do
  let id ← idOf segment "branch"
  let branch ← orMissing (← orRefuse (s.branch? id) 500 "failed to get branch") "branch not found"
  return (.json 200 branch.toJson, s)

/-- Gives a branch a name and a location. The branch is read again afterwards. -/
def updateBranch (s : Store) (segment : Text) (req : Request) : Outcome := do
  let id ← idOf segment "branch"
  let sent ← sentBranch req
  let _ ← orMissing (← orRefuse (s.branch? id) 500 "failed to update branch") "branch not found"
  let s ← orRefuse (s.updateBranch id sent.name sent.location) 409 "failed to update branch"
  match s.branch? id with
  | .ok (some branch) => return (.json 200 branch.toJson, s)
  | _ => return (.json 200 .null, s)

/-- The active branch with an id. -/
def foundBranch (s : Store) (id : Int) : Except Response Branch := do
  orMissing (← orRefuse (s.branch? id) 404 "branch not found") "branch not found"

def deleteBranch (ctx : Context) (s : Store) (segment : Text) : Outcome := do
  let id ← idOf segment "branch"
  let _ ← foundBranch s id
  match s.deleteBranch ctx.now id with
  | .ok s => return (.done "branch deleted", s)
  | .error (.branchInUse held) => refuse 409 (StoreError.branchInUse held).message
  | .error _ => refuse 500 "failed to delete branch"

/-! ## Photos -/

/-- How large a form may be, in bytes. A form is larger than the file in it. -/
def maxFormSize : Nat := maxUploadSize + 1048576

/-- The files of a form by the names of their fields, if a form was sent. The query string counts as a
part of the form. -/
def sentFiles (req : Request) : Option (List (Text × Upload)) :=
  if !isQuery req.asked.query then none
  else match req.body with
    | .form field file =>
      if maxFormSize ≤ file.size || !field.all isFieldGlyph then none else some [(field, file)]
    | .text cs => (Form.ofBody (req.header "Content-Type") (Text.ofChars cs)).map fun parts =>
      (parts.filter fun p => !p.file.isEmpty).map fun p => (p.name, Upload.ofBytes p.content.bytes)
where
  isFieldGlyph (g : Glyph) : Bool :=
    Form.isHeaderValueGlyph g || g == .char '\r' || g == .char '\n'

/-- The picture in a form. -/
def sentPicture (req : Request) : Except Response Picture :=
  match sentFiles req with
  | none => refuse 400 "file too large or invalid multipart form"
  | some files =>
    match files.lookup (Text.ofString "image") with
    | none => refuse 400 "image file required"
    | some file =>
      match file.process with
      | .ok picture => .ok picture
      | .error (.unsupported _) => refuse 400 "image must be JPEG, PNG, or WebP"
      | .error .tooLarge => refuse 413 "image too large"
      | .error .undecodable => refuse 400 "invalid image"

def uploadPhoto (claims : Claims) (s : Store) (segment : Text) (req : Request) : Outcome := do
  let id ← idOf segment "branch"
  let branch ← foundBranch s id
  if !mayAccess claims branch.name then refuse 403 "insufficient permissions"
  let picture ← sentPicture req
  let s ← orRefuse (s.setBranchPhoto id ⟨.picture picture, keptPhotoType⟩) 500 "failed to save image"
  return (.done "image uploaded", s)

def getPhoto (s : Store) (segment : Text) : Outcome := do
  let id ← idOf segment "branch"
  let photo ← orMissing (← orRefuse (s.branchPhoto? id) 500 "failed to get image") "no image"
  if photo.data.isEmpty then refuse 404 "no image"
  let response : Response :=
    { status := 200, mediaType := photo.mime, cacheControl := "public, max-age=3600"
      body := .photo photo.data }
  return (response, s)

end Api
end Stockroom

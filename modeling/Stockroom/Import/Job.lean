import Stockroom.Import.Run
import Stockroom.Intake.Normalize
import Stockroom.Sheet.File

/-!
Importing a file: it is read, its rows become records, and the records are submitted. A file that
cannot be read, or that holds no row of data, is refused before anything is submitted.

Main definitions: `ImportJob`, `ImportError`, `ImportJob.start`, `ImportJob.run`.
-/
namespace Stockroom
set_option autoImplicit false

/-- A file to be imported into a branch. -/
structure ImportJob (ρ : Type) where
  /-- The name of this one import. -/
  batch : Text
  file : Text
  schema : Schema
  branch : Text
  normalizer : Normalizer ρ

/-- A file that cannot be imported. -/
structure ImportError where
  file : Text
  cause : ReadError
  deriving DecidableEq, Repr

def ImportError.message (e : ImportError) : Text :=
  "reading " ++ e.file ++ ": " ++ e.cause.message

section
variable {ρ σ : Type}

/-- A prepared row as it is submitted; one that is no record carries an empty one. -/
def PreparedRow.toImportRow [Inhabited ρ] (r : PreparedRow ρ) : ImportRow ρ :=
  match r.record with
  | .ok record => { line := r.line, record }
  | .error e => { line := r.line, record := default, fault := some e.message }

namespace ImportJob

/-- The rows of the file, and what is said about them. -/
def start [Inhabited ρ] (job : ImportJob ρ) (content : FileContent) :
    Except ImportError (List (ImportRow ρ) × List LogEntry) :=
  match readSheet job.file content with
  | .error e => .error ⟨job.file, e⟩
  | .ok grid =>
    let (rows, notices) := prepare grid job.schema job.branch job.normalizer
    if rows.isEmpty then .error ⟨job.file, .empty⟩
    else .ok (rows.map PreparedRow.toImportRow, notices)

/-- Reads the file and submits its rows. -/
def run [Inhabited ρ] (job : ImportJob ρ) (submit : Submitter ρ σ) (maxAttempts : Int)
    (content : FileContent) (s : Session ρ σ) : Except ImportError (Run ρ σ) := do
  let (rows, notices) ← job.start content
  let r := runImport submit maxAttempts job.batch job.file rows.length rows s
  return { r with history := r.history ++ (notices.map .logged).reverse }

end ImportJob
end
end Stockroom

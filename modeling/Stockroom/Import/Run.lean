import Stockroom.Import.Progress
import Stockroom.Import.Retry
import Stockroom.Log.Entry

/-!
Submitting the rows of a file, one after the other. A row that was refused too often is queued and
submitted once more in a second pass; what fails there has failed. When the import is canceled, the
rows that are pending or queued fail, in the order of the file.

Main definitions: `ImportRow`, `RunEvent`, `Run`, `firstPass`, `secondPass`, `runImport`.
-/
namespace Stockroom
set_option autoImplicit false

/-- A row ready for submission. A row with a fault is never submitted. -/
structure ImportRow (ρ : Type) where
  line : Int
  record : ρ
  fault : Option Text := none
  deriving DecidableEq, Repr

/-- What an import lets others see: an entry of the log, or the progress so far. -/
inductive RunEvent (ρ : Type) where
  | logged (e : LogEntry)
  | published (p : Progress ρ)

/-- The state of an import: its progress, what it has let others see, the latest first, and the
session. -/
structure Run (ρ σ : Type) where
  progress : Progress ρ
  history : List (RunEvent ρ) := []
  session : Session ρ σ

section
variable {ρ σ : Type}

namespace Run

/-- What the import has let others see, in order. -/
def events (r : Run ρ σ) : List (RunEvent ρ) := r.history.reverse

/-- What was published, in order. -/
def published (r : Run ρ σ) : List (Progress ρ) :=
  r.events.filterMap fun event => match event with
    | .published p => some p
    | .logged _ => none

/-- What was logged, in order. -/
def log (r : Run ρ σ) : List LogEntry :=
  r.events.filterMap fun event => match event with
    | .logged e => some e
    | .published _ => none

/-- Adds an entry to the log, with the import and the file it is about. -/
def note (r : Run ρ σ) (level : LogLevel) (message : Text) (attributes : List (Text × Text)) :
    Run ρ σ :=
  let about : List (Text × Text) := [("batch", r.progress.batch), ("file", r.progress.file)]
  { r with history := .logged ⟨level, message, about ++ attributes⟩ :: r.history }

/-- Shows the progress so far. -/
def publish (r : Run ρ σ) : Run ρ σ := { r with history := .published r.progress :: r.history }

/-- A row has been accepted. -/
def accept (r : Run ρ σ) : Run ρ σ := { r with progress := r.progress.accept }

/-- A row has failed. -/
def fail (r : Run ρ σ) (row : ImportRow ρ) (message : Text) : Run ρ σ :=
  let r := r.note .warn "import row failed" [("row", Text.ofInt row.line), ("error", message)]
  { r with progress := r.progress.fail ⟨row.line, row.record, message⟩ }

/-- A row will be submitted once more. -/
def queue (r : Run ρ σ) (row : ImportRow ρ) (message : Text) : Run ρ σ :=
  let r := r.note .debug "import row queued for retry"
    [("row", Text.ofInt row.line), ("error", message)]
  { r with progress := r.progress.queue row.line }

/-- A queued row has been submitted once more. -/
def unqueue (r : Run ρ σ) (row : ImportRow ρ) : Run ρ σ :=
  { r with progress := r.progress.unqueue row.line }

/-- Every given row fails because the import is canceled. -/
def failAll (r : Run ρ σ) (rows : List (ImportRow ρ)) : Run ρ σ :=
  rows.foldl (fun r row => r.fail row canceledMessage) r

/-- Shows the progress after a number of rows of the first pass. -/
def reach (r : Run ρ σ) (current : Nat) : Run ρ σ :=
  { r with progress := { r.progress with current := current } }.publish

end Run

variable (submit : Submitter ρ σ) (maxAttempts : Int)

/-- Submits a row in the first pass; says whether the row is to be queued. -/
def firstTry (row : ImportRow ρ) (r : Run ρ σ) : Bool × Run ρ σ :=
  match row.fault with
  | some message => (false, r.fail row message)
  | none =>
    match submitUntilAccepted submit maxAttempts row.record r.session with
    | (_, .accepted, s) => (false, { r with session := s }.accept)
    | (_, ending, s) =>
      let r := { r with session := s }
      if s.canceled then (false, r.fail row canceledMessage)
      else (true, r.queue row ending.message)

/-- Submits rows in the order of the file after `count` others, and gathers those to be submitted
once more. When the import is canceled, what is queued and what is left fails. -/
def firstPass (count : Nat) (queue : List (ImportRow ρ)) :
    List (ImportRow ρ) → Run ρ σ → List (ImportRow ρ) × Run ρ σ
  | [], r => (queue, r)
  | row :: rest, r =>
    if r.session.canceled then ([], r.failAll (queue ++ row :: rest))
    else
      let (again, r) := firstTry submit maxAttempts row r
      firstPass (count + 1) (if again then queue ++ [row] else queue) rest (r.reach (count + 1))

/-- Submits a queued row once more. -/
def secondTry (row : ImportRow ρ) (r : Run ρ σ) : Run ρ σ :=
  match submitUntilAccepted submit maxAttempts row.record r.session with
  | (_, .accepted, s) => ({ r with session := s }.unqueue row).accept
  | (_, ending, s) => ({ r with session := s }.unqueue row).fail row ending.message

/-- Submits the queued rows once more. -/
def secondPass : List (ImportRow ρ) → Run ρ σ → Run ρ σ
  | [], r => r
  | row :: rest, r =>
    if r.session.canceled then r.failAll (row :: rest)
    else secondPass rest (secondTry submit maxAttempts row r).publish

/-- Marks the import as finished. -/
def Run.finish (r : Run ρ σ) : Run ρ σ :=
  let r := { r with progress := r.progress.finish }.publish
  r.note .info "import finished" [("rows", Text.ofInt r.progress.total),
    ("success", Text.ofNat r.progress.accepted), ("failure", Text.ofNat r.progress.failed)]

/-- Submits all rows of a file, in two passes. -/
def runImport (batch file : Text) (total : Int) (rows : List (ImportRow ρ)) (s : Session ρ σ) :
    Run ρ σ :=
  let start : Run ρ σ := { progress := { batch, file, total }, session := s }
  let (queue, r) := firstPass submit maxAttempts 0 [] rows start
  (secondPass submit maxAttempts queue r).finish

end
end Stockroom

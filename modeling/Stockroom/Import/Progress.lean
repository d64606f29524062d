import Stockroom.Text.Basic

/-!
The progress of an import, as it is published after every row.

Main definitions: `RowState`, `RowFailure`, `Progress` and what happens to it: `queue`, `unqueue`,
`accept`, `fail`, `finish`.
-/
namespace Stockroom
set_option autoImplicit false

/-- Where a row stands. A queued row is submitted once more in the second pass. -/
inductive RowState where
  | pending
  | submitting
  | accepted
  | queued
  | failed
  deriving DecidableEq, Repr

namespace RowState

/-- The states in the order of their numbers. -/
def all : List RowState := [.pending, .submitting, .accepted, .queued, .failed]

def name : RowState → Text
  | .pending => "pending"
  | .submitting => "submitting"
  | .accepted => "accepted"
  | .queued => "retry-queued"
  | .failed => "failed"

/-- The name of the state with a number. -/
def nameOf (i : Int) : Text :=
  if i < 0 then "unknown"
  else match all[i.toNat]? with
    | some s => s.name
    | none => "unknown"

end RowState

/-- A row that failed: its line, its record and why. -/
structure RowFailure (ρ : Type) where
  line : Int
  record : ρ
  message : Text
  deriving DecidableEq, Repr

/-- How far an import has come. -/
structure Progress (ρ : Type) where
  /-- The name of this one import. -/
  batch : Text := []
  file : Text
  total : Int
  current : Int := 0
  accepted : Nat := 0
  failed : Nat := 0
  /-- The lines that will be submitted once more. -/
  queued : List Int := []
  failures : List (RowFailure ρ) := []
  done : Bool := false
  deriving DecidableEq, Repr

namespace Progress

variable {ρ : Type}

def accept (p : Progress ρ) : Progress ρ := { p with accepted := p.accepted + 1 }

def fail (p : Progress ρ) (f : RowFailure ρ) : Progress ρ :=
  { p with failed := p.failed + 1, failures := p.failures ++ [f] }

def queue (p : Progress ρ) (line : Int) : Progress ρ := { p with queued := p.queued ++ [line] }

def unqueue (p : Progress ρ) (line : Int) : Progress ρ :=
  { p with queued := p.queued.filter (· != line) }

/-- Every row has been accepted or has failed. -/
def finish (p : Progress ρ) : Progress ρ :=
  { p with done := true, current := p.total, queued := [] }

end Progress
end Stockroom

import Stockroom.Text.Basic

/-!
Submitting one record until it is accepted. A submitter answers each record and may change its own
state; an answer may also say that the import has been canceled meanwhile. Cancellation is seen
before the first attempt and between a failed attempt and the next one, so the last attempt always
reports its own answer.

Main definitions: `Reply`, `Submitter`, `Session`, `Session.send`, `Ending`, `submitUntilAccepted`.
-/
namespace Stockroom
set_option autoImplicit false

/-- The answer to a submission: the reason it was refused, and whether the import is canceled. -/
structure Reply where
  error : Option Text := none
  cancels : Bool := false
  deriving DecidableEq, Repr

/-- Sends a record and answers it. -/
abbrev Submitter (ρ σ : Type) := ρ → σ → Reply × σ

/-- The state of the submitter, whether the import is canceled, and the records sent so far, the
latest first. -/
structure Session (ρ σ : Type) where
  state : σ
  canceled : Bool := false
  history : List ρ := []

/-- The records sent so far, in order. -/
def Session.sent {ρ σ : Type} (s : Session ρ σ) : List ρ := s.history.reverse

/-- What is said of a row that cancellation kept from being submitted. -/
def canceledMessage : Text := "context canceled"

/-- How the submission of a record ended. -/
inductive Ending where
  | accepted
  | refused (message : Text)
  | canceled
  deriving DecidableEq, Repr

/-- What is said of a record that was not accepted. -/
def Ending.message : Ending → Text
  | .accepted => []
  | .refused message => message
  | .canceled => canceledMessage

section
variable {ρ σ : Type}

/-- Sends a record once. -/
def Session.send (submit : Submitter ρ σ) (record : ρ) (s : Session ρ σ) :
    Option Text × Session ρ σ :=
  let (reply, state) := submit record s.state
  (reply.error,
    { state := state, canceled := s.canceled || reply.cancels, history := record :: s.history })

/-- Sends a record, and again after a refusal as long as retries are left. -/
def attempt (submit : Submitter ρ σ) (record : ρ) (made : Nat) :
    Nat → Session ρ σ → Nat × Ending × Session ρ σ
  | 0, s =>
    match s.send submit record with
    | (none, s) => (made + 1, .accepted, s)
    | (some e, s) => (made + 1, .refused e, s)
  | retries + 1, s =>
    match s.send submit record with
    | (none, s) => (made + 1, .accepted, s)
    | (some _, s) =>
      if s.canceled then (made + 1, .canceled, s)
      else attempt submit record (made + 1) retries s

/-- How often a record is sent at most. -/
def attemptBound (maxAttempts : Int) : Nat := max 1 maxAttempts.toNat

/-- Sends a record until it is accepted or the attempts are used up, and counts the attempts. -/
def submitUntilAccepted (submit : Submitter ρ σ) (maxAttempts : Int) (record : ρ) (s : Session ρ σ) :
    Nat × Ending × Session ρ σ :=
  if s.canceled then (0, .canceled, s)
  else attempt submit record 0 (attemptBound maxAttempts - 1) s

end

/-! ## Rehearsed answers -/

/-- Answers given in advance: a list, the answer after it is used up, and the submission that
cancels the import. -/
structure Script where
  answers : List (Option Text) := []
  afterwards : Option Text := none
  cancelAt : Int := 0
  /-- How many submissions have been answered. -/
  count : Nat := 0

/-- The next rehearsed answer. -/
def Script.next (s : Script) : Reply × Script :=
  let error := match s.answers with
    | [] => s.afterwards
    | e :: _ => e
  ({ error := error, cancels := s.cancelAt = (s.count + 1 : Nat) },
    { s with answers := s.answers.drop 1, count := s.count + 1 })

/-- Whether the import is canceled before it starts. -/
def Script.startsCanceled (s : Script) : Bool := s.cancelAt < 0

/-- A submitter that answers from the script alone. -/
def Script.submitter {ρ : Type} : Submitter ρ Script := fun _ s => s.next

/-- A submitter that asks the script first and another submitter only if the script accepts. -/
def Script.before {ρ σ : Type} (submit : Submitter ρ σ) : Submitter ρ (Script × σ) :=
  fun record (script, state) =>
    match script.next with
    | ({ error := none, cancels }, script) =>
      let (reply, state) := submit record state
      ({ reply with cancels := cancels || reply.cancels }, script, state)
    | (reply, script) => (reply, script, state)

end Stockroom

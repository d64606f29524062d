import Stockroom.Import.Retry

/-!
The attempts made for one record, in closed form. How a submission ends is read off the answers alone:
the first submission that is accepted ends it, whatever becomes of the import meanwhile; a refusal that
cancels the import ends it unless it was the last attempt; and the last attempt reports its own refusal.
The loop of retries is taken as given: any loop that looks for cancellation where it should makes the
same attempts.

Main definitions and statements:
* `Retrying.Lawful`: what is relied on of a loop of retries; `submitWithin_eq`: one loop is like another;
* `Submitter.answer`: the answer to the n-th submission of a record;
* `Concludes`: after how many submissions a record is done with, and how; `Concludes.unique`;
* `attempt_concludes`: attempts end as the answers say;
* `submitUntilAccepted_closed`: the closed form.
-/
namespace Stockroom
set_option autoImplicit false

/-! ## Loops of retries -/

/-- A loop of retries: it is told how many retries there are and how to see that the work is canceled,
and runs a task that fails with a message or succeeds. -/
abbrev Retrying (τ : Type) := Nat → (τ → Bool) → (τ → Option Text × τ) → τ → Ending × τ

/-- The loop looks for cancellation before it runs the task, and after a run that failed when a retry
is left; without a retry it ends with the failure. -/
structure Retrying.Lawful {τ : Type} (loop : Retrying τ) : Prop where
  before {retries : Nat} {canceled : τ → Bool} {task : τ → Option Text × τ} {t : τ}
    (h : canceled t = true) : loop retries canceled task t = (.canceled, t)
  done {retries : Nat} {canceled : τ → Bool} {task : τ → Option Text × τ} {t t' : τ}
    (h : canceled t = false) (htask : task t = (none, t')) :
    loop retries canceled task t = (.accepted, t')
  spent {canceled : τ → Bool} {task : τ → Option Text × τ} {t t' : τ} {message : Text}
    (h : canceled t = false) (htask : task t = (some message, t')) :
    loop 0 canceled task t = (.refused message, t')
  stopped {retries : Nat} {canceled : τ → Bool} {task : τ → Option Text × τ} {t t' : τ}
    {message : Text} (h : canceled t = false) (htask : task t = (some message, t'))
    (hcanceled : canceled t' = true) : loop (retries + 1) canceled task t = (.canceled, t')
  again {retries : Nat} {canceled : τ → Bool} {task : τ → Option Text × τ} {t t' : τ}
    {message : Text} (h : canceled t = false) (htask : task t = (some message, t'))
    (hcanceled : canceled t' = false) :
    loop (retries + 1) canceled task t = loop retries canceled task t'

/-- A loop of retries. -/
def retryLoop {τ : Type} : Retrying τ
  | 0, canceled, task, t =>
    if canceled t then (.canceled, t)
    else match task t with
      | (none, t) => (.accepted, t)
      | (some message, t) => (.refused message, t)
  | retries + 1, canceled, task, t =>
    if canceled t then (.canceled, t)
    else match task t with
      | (none, t) => (.accepted, t)
      | (some _, t) => if canceled t then (.canceled, t) else retryLoop retries canceled task t

theorem retryLoop_lawful (τ : Type) : Retrying.Lawful (retryLoop (τ := τ)) where
  before {retries _ _ _} h := by cases retries <;> rw [retryLoop, if_pos h]
  done {retries _ _ _ _} h htask := by
    cases retries <;> rw [retryLoop, if_neg (Bool.not_eq_true _ ▸ h), htask]
  spent h htask := by rw [retryLoop, if_neg (Bool.not_eq_true _ ▸ h), htask]
  stopped h htask hcanceled := by
    rw [retryLoop, if_neg (Bool.not_eq_true _ ▸ h), htask]
    exact if_pos hcanceled
  again h htask hcanceled := by
    rw [retryLoop, if_neg (Bool.not_eq_true _ ▸ h), htask]
    exact if_neg (Bool.not_eq_true _ ▸ hcanceled)

section
variable {ρ σ : Type} (submit : Submitter ρ σ) (record : ρ)

/-- Sends a record within a loop of retries, and counts how often. -/
def submitWithin (loop : Retrying (Nat × Session ρ σ)) (maxAttempts : Int) (s : Session ρ σ) :
    Nat × Ending × Session ρ σ :=
  let (ending, made, s) := loop (attemptBound maxAttempts - 1) (fun t => t.2.canceled)
    (fun t =>
      let (error, s) := t.2.send submit record
      (error, t.1 + 1, s))
    (0, s)
  (made, ending, s)

theorem loop_attempt {loop : Retrying (Nat × Session ρ σ)} (hloop : loop.Lawful) (made retries : Nat)
    {s : Session ρ σ} (hs : s.canceled = false) :
    loop retries (fun t => t.2.canceled)
        (fun t => ((t.2.send submit record).1, t.1 + 1, (t.2.send submit record).2)) (made, s) =
      ((attempt submit record made retries s).2.1, (attempt submit record made retries s).1,
        (attempt submit record made retries s).2.2) := by
  induction retries generalizing made s with
  | zero =>
    rcases hsend : s.send submit record with ⟨_ | message, s'⟩
    · rw [hloop.done hs (by rw [hsend]), attempt, hsend]
    · rw [hloop.spent hs (by rw [hsend]), attempt, hsend]
  | succ retries ih =>
    rcases hsend : s.send submit record with ⟨_ | message, s'⟩
    · rw [hloop.done hs (by rw [hsend]), attempt, hsend]
    · cases hcanceled : s'.canceled with
      | true =>
        rw [hloop.stopped hs (by rw [hsend]) hcanceled, attempt, hsend]
        simp only [hcanceled, if_true]
      | false =>
        rw [hloop.again hs (by rw [hsend]) hcanceled, ih _ hcanceled, attempt, hsend]
        simp only [hcanceled, Bool.false_eq_true, if_false]

theorem submitWithin_eq {loop : Retrying (Nat × Session ρ σ)} (hloop : loop.Lawful)
    (maxAttempts : Int) (s : Session ρ σ) :
    submitWithin submit record loop maxAttempts s =
      submitUntilAccepted submit maxAttempts record s := by
  rw [submitWithin, submitUntilAccepted]
  cases hs : s.canceled with
  | true => rw [hloop.before hs, if_pos rfl]
  | false => rw [loop_attempt submit record hloop 0 _ hs, if_neg Bool.false_ne_true]

end

/-! ## Answers -/

section
variable {ρ σ : Type}

/-- The state of a submitter after a record was sent some number of times. -/
def Submitter.after (submit : Submitter ρ σ) (record : ρ) : Nat → σ → σ
  | 0, state => state
  | n + 1, state => Submitter.after submit record n (submit record state).2

/-- The answer to the n-th submission of a record, counted from one. -/
def Submitter.answer (submit : Submitter ρ σ) (record : ρ) (state : σ) (n : Nat) : Reply :=
  (submit record (submit.after record (n - 1) state)).1

/-- A session after a record was sent some number of times, the last of which may have canceled the
import. -/
def Session.after (submit : Submitter ρ σ) (record : ρ) (n : Nat) (s : Session ρ σ) : Session ρ σ where
  state := submit.after record n s.state
  canceled := s.canceled || (submit.answer record s.state n).cancels
  history := List.replicate n record ++ s.history

/-- Every submission before the n-th was refused, and the import went on. -/
def GoesOn (answer : Nat → Reply) (n : Nat) : Prop :=
  ∀ i, 1 ≤ i → i < n → (answer i).error ≠ none ∧ (answer i).cancels = false

/-- After how many submissions a record is done with, of at most `bound`, and how. -/
inductive Concludes (answer : Nat → Reply) (bound : Nat) : Nat → Ending → Prop where
  | accepted {n : Nat} (hfirst : 1 ≤ n) (hlast : n ≤ bound) (hearlier : GoesOn answer n)
      (haccepted : (answer n).error = none) : Concludes answer bound n .accepted
  | exhausted {message : Text} (hearlier : GoesOn answer bound)
      (hrefused : (answer bound).error = some message) :
      Concludes answer bound bound (.refused message)
  | stopped {n : Nat} (hfirst : 1 ≤ n) (hleft : n < bound) (hearlier : GoesOn answer n)
      (hrefused : (answer n).error ≠ none) (hcancels : (answer n).cancels = true) :
      Concludes answer bound n .canceled

section
variable {answer later : Nat → Reply} {bound m n : Nat} {ending other : Ending}

theorem GoesOn.shift (hrefused : (answer 1).error ≠ none) (hgoes : (answer 1).cancels = false)
    (hlater : ∀ i, 1 ≤ i → later i = answer (i + 1)) (h : GoesOn later n) : GoesOn answer (n + 1) := by
  intro i hi hlt
  obtain rfl | hmore := Nat.eq_or_lt_of_le hi
  · exact ⟨hrefused, hgoes⟩
  · obtain ⟨j, rfl⟩ := Nat.exists_eq_add_of_lt hmore
    rw [Nat.add_comm 1 j, ← hlater _ (by omega)]
    exact h _ (by omega) (by omega)

/-- A first submission that was refused counts as one more. -/
theorem Concludes.shift (hrefused : (answer 1).error ≠ none) (hgoes : (answer 1).cancels = false)
    (hlater : ∀ i, 1 ≤ i → later i = answer (i + 1)) (hbound : 1 ≤ bound)
    (h : Concludes later bound n ending) : Concludes answer (bound + 1) (n + 1) ending := by
  cases h with
  | accepted hfirst hlast hearlier haccepted =>
    exact .accepted (by omega) (by omega) (hearlier.shift hrefused hgoes hlater)
      (hlater n hfirst ▸ haccepted)
  | exhausted hearlier hlast =>
    exact .exhausted (hearlier.shift hrefused hgoes hlater) (hlater bound hbound ▸ hlast)
  | stopped hfirst hleft hearlier hstop hcancels =>
    exact .stopped (by omega) (by omega) (hearlier.shift hrefused hgoes hlater)
      (hlater n hfirst ▸ hstop) (hlater n hfirst ▸ hcancels)

theorem Concludes.goesOn (h : Concludes answer bound n ending) : GoesOn answer n := by
  cases h <;> assumption

theorem Concludes.le (h : Concludes answer bound n ending) : n ≤ bound := by
  cases h <;> omega

/-- With the last submission the record is done with. -/
theorem Concludes.not_lt (h : Concludes answer bound n ending)
    (hother : Concludes answer bound m other) : ¬ n < m := by
  intro hlt
  have hle := hother.le
  cases h with
  | accepted hfirst _ _ haccepted => exact (hother.goesOn n hfirst hlt).1 haccepted
  | exhausted => omega
  | stopped hfirst _ _ _ hcancels =>
    rw [(hother.goesOn n hfirst hlt).2] at hcancels
    cases hcancels

/-- The answers leave no choice. -/
theorem Concludes.unique (h : Concludes answer bound n ending)
    (hother : Concludes answer bound m other) : n = m ∧ ending = other := by
  obtain rfl : n = m := by
    have hforth := h.not_lt hother
    have hback := hother.not_lt h
    omega
  refine ⟨rfl, ?_⟩
  cases h <;> cases hother <;> simp_all

end

/-! ## Attempts -/

section
variable (submit : Submitter ρ σ) (record : ρ)

theorem send_after (s : Session ρ σ) : s.send submit record =
    ((submit.answer record s.state 1).error, s.after submit record 1) := rfl

theorem after_after {s : Session ρ σ} (h : (s.after submit record 1).canceled = s.canceled)
    {n : Nat} (hn : 1 ≤ n) :
    (s.after submit record 1).after submit record n = s.after submit record (n + 1) := by
  obtain ⟨n, rfl⟩ := Nat.exists_eq_add_of_le' hn
  have hhistory : List.replicate (n + 1) record ++ (s.after submit record 1).history =
      List.replicate (n + 1 + 1) record ++ s.history := by
    rw [List.replicate_succ' (n := n + 1), List.append_assoc]
    rfl
  rw [Session.after, hhistory, h]
  rfl

theorem attempt_concludes (made retries : Nat) {s : Session ρ σ} (hs : s.canceled = false) :
    ∃ n ending, attempt submit record made retries s =
        (made + n, ending, s.after submit record n) ∧
      Concludes (submit.answer record s.state) (retries + 1) n ending := by
  have hcanceled : (s.after submit record 1).canceled = (submit.answer record s.state 1).cancels := by
    rw [Session.after, hs, Bool.false_or]
  have hnone : GoesOn (submit.answer record s.state) 1 := fun i hi hlt => absurd hlt (by omega)
  induction retries generalizing made s with
  | zero =>
    cases herror : (submit.answer record s.state 1).error with
    | none =>
      refine ⟨1, .accepted, ?_, .accepted (by omega) (by omega) hnone herror⟩
      rw [attempt, send_after, herror]
    | some message =>
      refine ⟨1, .refused message, ?_, .exhausted hnone herror⟩
      rw [attempt, send_after, herror]
  | succ retries ih =>
    cases herror : (submit.answer record s.state 1).error with
    | none =>
      refine ⟨1, .accepted, ?_, .accepted (by omega) (by omega) hnone herror⟩
      rw [attempt, send_after, herror]
    | some message =>
      have hrefused : (submit.answer record s.state 1).error ≠ none := by simp [herror]
      cases hcancels : (submit.answer record s.state 1).cancels with
      | true =>
        refine ⟨1, .canceled, ?_, .stopped (by omega) (by omega) hnone hrefused hcancels⟩
        rw [attempt, send_after, herror]
        simp only [hcanceled, hcancels, if_true]
      | false =>
        rw [hcancels] at hcanceled
        obtain ⟨n, ending, heq, hconcludes⟩ := ih (made + 1) hcanceled
          (by rw [Session.after, hcanceled, Bool.false_or]) fun i hi hlt => absurd hlt (by omega)
        have hn : 1 ≤ n := by cases hconcludes <;> omega
        refine ⟨n + 1, ending, ?_, hconcludes.shift hrefused hcancels ?_ (by omega)⟩
        · rw [attempt, send_after, herror]
          simp only [hcanceled, Bool.false_eq_true, if_false, heq,
            after_after submit record (hcanceled.trans hs.symm) hn]
          rw [Nat.add_assoc, Nat.add_comm 1]
        · intro i hi
          obtain ⟨i, rfl⟩ := Nat.exists_eq_add_of_le' hi
          rfl

theorem attemptBound_eq (maxAttempts : Int) :
    attemptBound maxAttempts - 1 + 1 = (max 1 maxAttempts).toNat := by
  unfold attemptBound
  omega

/-- The closed form of a submission, with any loop of retries. Nothing is sent when the import is
canceled beforehand. Otherwise, of at most `max 1 maxAttempts` submissions, the first one that is accepted
is the last, and so is a refusal that cancels the import when an attempt is left, and the last attempt
with its own refusal; there is no other way to end. -/
theorem submitUntilAccepted_closed {loop : Retrying (Nat × Session ρ σ)} (hloop : loop.Lawful)
    (maxAttempts : Int) (s : Session ρ σ) :
    submitWithin submit record loop maxAttempts s =
      submitUntilAccepted submit maxAttempts record s ∧
    ∀ (n : Nat) (ending : Ending) (s' : Session ρ σ),
      submitUntilAccepted submit maxAttempts record s = (n, ending, s') ↔
        s.canceled = true ∧ n = 0 ∧ ending = .canceled ∧ s' = s ∨
        s.canceled = false ∧
          Concludes (submit.answer record s.state) (max 1 maxAttempts).toNat n ending ∧
          s' = s.after submit record n := by
  refine ⟨submitWithin_eq submit record hloop maxAttempts s, fun n ending s' => ?_⟩
  rw [submitUntilAccepted]
  cases hs : s.canceled with
  | true => simp [eq_comm]
  | false =>
    obtain ⟨m, other, heq, hconcludes⟩ :=
      attempt_concludes submit record 0 (attemptBound maxAttempts - 1) hs
    rw [attemptBound_eq] at hconcludes
    rw [Nat.zero_add] at heq
    rw [if_neg Bool.false_ne_true, heq]
    constructor
    · intro h
      cases h
      exact .inr ⟨rfl, hconcludes, rfl⟩
    · rintro (⟨habsurd, -⟩ | ⟨-, hother, rfl⟩)
      · cases habsurd
      · obtain ⟨rfl, rfl⟩ := hconcludes.unique hother
        rfl

end

/-- A submitter that refuses the first submission and accepts the second one, which cancels the
import. -/
def secondAccepted : Submitter Unit Nat := fun _ count =>
  (if count = 0 then { error := some "busy" } else { cancels := true }, count + 1)

theorem secondAccepted_attempts :
    Retrying.Lawful (retryLoop (τ := Nat × Session Unit Nat)) ∧
    submitWithin secondAccepted () retryLoop 2 { state := 0 } =
      (2, .accepted, { state := 2, canceled := true, history := [(), ()] }) ∧
    Concludes (Submitter.answer secondAccepted () 0) 2 2 .accepted := by
  obtain ⟨hloop, hclosed⟩ :=
    submitUntilAccepted_closed secondAccepted () (retryLoop_lawful _) 2 { state := 0 }
  have hrun : submitUntilAccepted secondAccepted 2 () { state := 0 } =
      (2, .accepted, { state := 2, canceled := true, history := [(), ()] }) := rfl
  refine ⟨retryLoop_lawful _, hloop.trans hrun, ?_⟩
  obtain ⟨habsurd, -⟩ | ⟨-, hconcludes, -⟩ := (hclosed _ _ _).mp hrun
  · cases habsurd
  · exact hconcludes

end
end Stockroom

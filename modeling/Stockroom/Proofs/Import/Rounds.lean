import Stockroom.Proofs.Import.Observed

/-!
One row, submitted until it is accepted. The answers to a row's submissions in one pass make a
round: every answer but the last refuses the record and lets the import go on, and there are no more
of them than attempts. Each pass then does one of a few things with the row.

Main definitions and statements:
* `Round`: the answers of one row in one pass, and how it ended;
* `attempt_round`, `submit_round`: what is sent for a row is a round;
* `firstTry_cases`, `secondTry_cases`: what a pass does with a row.
-/
namespace Stockroom
set_option autoImplicit false

/-! ## Rounds -/

/-- The answers to one row within one pass, of at most as many as the number says, how the pass
ended for the row, and whether the import is canceled then. -/
inductive Round : Nat → List Reply → Ending → Bool → Prop where
  | accepted (bound : Nat) (reply : Reply) (hreply : reply.error = none) :
      Round (bound + 1) [reply] .accepted reply.cancels
  | exhausted (reply : Reply) (message : Text) (hreply : reply.error = some message) :
      Round 1 [reply] (.refused message) reply.cancels
  | stopped (bound : Nat) (reply : Reply) (hreply : reply.error ≠ none)
      (hcancels : reply.cancels = true) : Round (bound + 2) [reply] .canceled true
  | again {bound : Nat} {replies : List Reply} {ending : Ending} {canceled : Bool} (reply : Reply)
      (hreply : reply.error ≠ none) (hcancels : reply.cancels = false)
      (rest : Round bound replies ending canceled) :
      Round (bound + 1) (reply :: replies) ending canceled

namespace Round

variable {bound : Nat} {replies : List Reply} {ending : Ending} {canceled : Bool}

theorem length_pos (h : Round bound replies ending canceled) : 1 ≤ replies.length := by
  cases h with
  | again => simp
  | _ => exact Nat.le_refl 1

theorem length_le (h : Round bound replies ending canceled) : replies.length ≤ bound := by
  induction h with
  | again _ _ _ _ ih => simpa using ih
  | _ => simp

/-- Only the last answer may accept the record or cancel the import. -/
theorem retried (h : Round bound replies ending canceled) :
    replies.Pairwise fun reply _ => reply.error ≠ none ∧ reply.cancels = false := by
  induction h with
  | again reply hreply hcancels _ ih => exact .cons (fun _ _ => ⟨hreply, hcancels⟩) ih
  | _ => exact List.pairwise_singleton ..

theorem accepted_iff (h : Round bound replies ending canceled) :
    ending = .accepted ↔ ∃ reply ∈ replies, reply.error = none := by
  induction h with
  | accepted _ reply hreply => simp [hreply]
  | exhausted reply message hreply => simp [hreply]
  | stopped _ reply hreply => simp [hreply]
  | again reply hreply _ _ ih => simp [hreply, ih]

theorem canceled_iff (h : Round bound replies ending canceled) :
    canceled = true ↔ ∃ reply ∈ replies, reply.cancels = true := by
  induction h with
  | accepted _ reply => simp
  | exhausted reply => simp
  | stopped _ reply _ hcancels => simp [hcancels]
  | again reply _ hcancels _ ih => simp [hcancels, ih]

/-- A row that was neither accepted nor cut off used up its attempts. -/
theorem length_eq (h : Round bound replies ending canceled) (hending : ending ≠ .accepted)
    (hcanceled : canceled = false) : replies.length = bound := by
  induction h with
  | accepted => exact absurd rfl hending
  | exhausted => rfl
  | stopped => cases hcanceled
  | again _ _ _ _ ih => simp [ih hending hcanceled]

end Round

/-! ## What is sent for a row -/

section
variable {ρ σ : Type} (submit : Submitter ρ σ)

/-- The submissions of a round for a record that carries the number of its row. -/
def roundLog (record : Nat × ρ) (replies : List Reply) : List (Submission ρ) :=
  replies.map fun reply => ⟨record.1, record.2, reply⟩

/-- One submission is written down with its answer. -/
theorem send_watched (record : Nat × ρ) (s : Session (Nat × ρ) (σ × List (Submission ρ)))
    (hs : s.canceled = false) :
    ∃ reply s', s.send submit.watched record = (reply.error, s') ∧ s'.canceled = reply.cancels ∧
      s'.state.2 = s.state.2 ++ roundLog record [reply] := by
  refine ⟨(submit record.2 s.state.1).1, (s.send submit.watched record).2, rfl, ?_, rfl⟩
  simp only [Session.send, Submitter.watched, hs, Bool.false_or]

theorem attempt_round (record : Nat × ρ) (made retries : Nat)
    (s : Session (Nat × ρ) (σ × List (Submission ρ))) (hs : s.canceled = false) :
    ∃ replies ending s', attempt submit.watched record made retries s =
        (made + replies.length, ending, s') ∧
      s'.state.2 = s.state.2 ++ roundLog record replies ∧
      Round (retries + 1) replies ending s'.canceled := by
  induction retries generalizing made s with
  | zero =>
    obtain ⟨reply, s', hsend, hcanceled, hlog⟩ := send_watched submit record s hs
    cases herror : reply.error with
    | none =>
      refine ⟨[reply], .accepted, s', ?_, hlog, hcanceled ▸ .accepted 0 reply herror⟩
      simp only [attempt, hsend, herror, List.length_singleton]
    | some message =>
      refine ⟨[reply], .refused message, s', ?_, hlog,
        hcanceled ▸ .exhausted reply message herror⟩
      simp only [attempt, hsend, herror, List.length_singleton]
  | succ retries ih =>
    obtain ⟨reply, s', hsend, hcanceled, hlog⟩ := send_watched submit record s hs
    cases herror : reply.error with
    | none =>
      refine ⟨[reply], .accepted, s', ?_, hlog, hcanceled ▸ .accepted _ reply herror⟩
      simp only [attempt, hsend, herror, List.length_singleton]
    | some message =>
      have hrefused : reply.error ≠ none := by simp [herror]
      cases hc : reply.cancels with
      | true =>
        rw [hc] at hcanceled
        refine ⟨[reply], .canceled, s', ?_, hlog, hcanceled ▸ .stopped _ reply hrefused hc⟩
        simp only [attempt, hsend, herror, hcanceled, if_true, List.length_singleton]
      | false =>
        rw [hc] at hcanceled
        obtain ⟨replies, ending, s'', hattempt, hrest, hround⟩ := ih (made + 1) s' hcanceled
        refine ⟨reply :: replies, ending, s'', ?_, ?_, .again reply hrefused hc hround⟩
        · simp only [attempt, hsend, herror, hcanceled, Bool.false_eq_true, if_false, hattempt,
            List.length_cons, Nat.add_assoc, Nat.add_comm 1]
        · rw [hrest, hlog, List.append_assoc]
          rfl

theorem attemptBound_pos (maxAttempts : Int) : attemptBound maxAttempts - 1 + 1 =
    attemptBound maxAttempts := by
  have h : 1 ≤ attemptBound maxAttempts := Nat.le_max_left ..
  omega

theorem submit_round (maxAttempts : Int) (record : Nat × ρ)
    (s : Session (Nat × ρ) (σ × List (Submission ρ))) (hs : s.canceled = false) :
    ∃ replies ending s', submitUntilAccepted submit.watched maxAttempts record s =
        (replies.length, ending, s') ∧
      s'.state.2 = s.state.2 ++ roundLog record replies ∧
      Round (attemptBound maxAttempts) replies ending s'.canceled := by
  have h := attempt_round submit record 0 (attemptBound maxAttempts - 1) s hs
  rw [attemptBound_pos] at h
  simpa only [submitUntilAccepted, hs, Bool.false_eq_true, if_false, Nat.zero_add] using h

/-! ## What a pass does with a row -/

theorem firstTry_cases (maxAttempts : Int) (row : ImportRow (Nat × ρ))
    (r : Run (Nat × ρ) (σ × List (Submission ρ))) (hr : r.session.canceled = false) :
    (∃ message, row.fault = some message ∧
      firstTry submit.watched maxAttempts row r = (false, r.fail row message)) ∨
    row.fault = none ∧ ∃ replies ending s',
      s'.state.2 = r.session.state.2 ++ roundLog row.record replies ∧
      Round (attemptBound maxAttempts) replies ending s'.canceled ∧
      (ending = .accepted ∧
          firstTry submit.watched maxAttempts row r = (false, { r with session := s' }.accept) ∨
        ending ≠ .accepted ∧ s'.canceled = true ∧
          firstTry submit.watched maxAttempts row r =
            (false, { r with session := s' }.fail row canceledMessage) ∨
        ending ≠ .accepted ∧ s'.canceled = false ∧
          firstTry submit.watched maxAttempts row r =
            (true, { r with session := s' }.queue row ending.message)) := by
  cases hfault : row.fault with
  | some message => exact .inl ⟨message, rfl, by simp only [firstTry, hfault]⟩
  | none =>
    obtain ⟨replies, ending, s', hsubmit, hlog, hround⟩ :=
      submit_round submit maxAttempts row.record r.session hr
    refine .inr ⟨rfl, replies, ending, s', hlog, hround, ?_⟩
    cases ending with
    | accepted => exact .inl ⟨rfl, by simp only [firstTry, hfault, hsubmit]⟩
    | refused | canceled =>
      refine .inr ?_
      cases hc : s'.canceled with
      | true => exact .inl ⟨by simp, rfl, by simp only [firstTry, hfault, hsubmit, hc, if_true]⟩
      | false =>
        exact .inr ⟨by simp, rfl, by
          simp only [firstTry, hfault, hsubmit, hc, Bool.false_eq_true, if_false]⟩

theorem secondTry_cases (maxAttempts : Int) (row : ImportRow (Nat × ρ))
    (r : Run (Nat × ρ) (σ × List (Submission ρ))) (hr : r.session.canceled = false) :
    ∃ replies ending s',
      s'.state.2 = r.session.state.2 ++ roundLog row.record replies ∧
      Round (attemptBound maxAttempts) replies ending s'.canceled ∧
      (ending = .accepted ∧ secondTry submit.watched maxAttempts row r =
          ({ r with session := s' }.unqueue row).accept ∨
        ending ≠ .accepted ∧ secondTry submit.watched maxAttempts row r =
          ({ r with session := s' }.unqueue row).fail row ending.message) := by
  obtain ⟨replies, ending, s', hsubmit, hlog, hround⟩ :=
    submit_round submit maxAttempts row.record r.session hr
  refine ⟨replies, ending, s', hlog, hround, ?_⟩
  cases ending with
  | accepted => exact .inl ⟨rfl, by simp only [secondTry, hsubmit]⟩
  | refused | canceled => exact .inr ⟨by simp, by simp only [secondTry, hsubmit]⟩

end
end Stockroom

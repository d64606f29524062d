import Stockroom.Import.Run

/-!
Which submission belongs to which row. An import knows its records but not the rows they came from,
so it is run on records that carry the number of their row, with a submitter that writes down every
answer. Such a run is the run itself with more written down: forgetting the numbers and the answers
gives back the progress, all that was published and logged, and the records that were sent.

Main definitions and statements:
* `Submission`, `submissions`: the submissions of an import in order, each with its row and answer;
* `runImport_map`: an import commutes with any change of records and of the submitter's state under
  which the submitter answers alike;
* `runImport_session`: what every submission keeps of a session, an import keeps;
* `watchedImport_map`, `sent_eq_submissions`: writing down the submissions does not change the
  import, and they are what it sends.
-/
namespace Stockroom
set_option autoImplicit false

/-! ## Forgetting part of a run -/

section
variable {ρ ρ' σ σ' : Type} (f : ρ → ρ') (g : σ → σ')

def ImportRow.map (row : ImportRow ρ) : ImportRow ρ' :=
  { line := row.line, record := f row.record, fault := row.fault }

def RowFailure.map (e : RowFailure ρ) : RowFailure ρ' :=
  { line := e.line, record := f e.record, message := e.message }

def Progress.map (p : Progress ρ) : Progress ρ' :=
  { batch := p.batch, file := p.file, total := p.total, current := p.current
    accepted := p.accepted, failed := p.failed, queued := p.queued
    failures := p.failures.map (RowFailure.map f), done := p.done }

def RunEvent.map : RunEvent ρ → RunEvent ρ'
  | .logged e => .logged e
  | .published p => .published (p.map f)

def Session.map (s : Session ρ σ) : Session ρ' σ' :=
  { state := g s.state, canceled := s.canceled, history := s.history.map f }

def Run.map (r : Run ρ σ) : Run ρ' σ' :=
  { progress := r.progress.map f, history := r.history.map (RunEvent.map f)
    session := r.session.map f g }

end

/-! ## An import does not look into its records -/

section
variable {ρ ρ' σ σ' : Type} {f : ρ → ρ'} {g : σ → σ'}
variable {submit : Submitter ρ σ} {submit' : Submitter ρ' σ'}

@[simp] theorem Session.map_canceled (s : Session ρ σ) : (s.map f g).canceled = s.canceled := rfl

theorem Run.unqueue_map (r : Run ρ σ) (row : ImportRow ρ) :
    (r.unqueue row).map f g = (r.map f g).unqueue (row.map f) := rfl

theorem Run.queue_map (r : Run ρ σ) (row : ImportRow ρ) (message : Text) :
    (r.queue row message).map f g = (r.map f g).queue (row.map f) message := rfl

theorem Run.publish_map (r : Run ρ σ) : r.publish.map f g = (r.map f g).publish := rfl

theorem Run.reach_map (r : Run ρ σ) (current : Nat) :
    (r.reach current).map f g = (r.map f g).reach current := rfl

theorem Run.finish_map (r : Run ρ σ) : r.finish.map f g = (r.map f g).finish := rfl

theorem Run.fail_map (r : Run ρ σ) (row : ImportRow ρ) (message : Text) :
    (r.fail row message).map f g = (r.map f g).fail (row.map f) message := by
  simp only [Run.fail, Run.note, Run.map, Progress.map, Progress.fail, List.map_append]
  rfl

theorem Run.failAll_map (rows : List (ImportRow ρ)) (r : Run ρ σ) :
    (r.failAll rows).map f g = (r.map f g).failAll (rows.map (ImportRow.map f)) := by
  induction rows generalizing r with
  | nil => rfl
  | cons row rest ih =>
    have h := ih (r.fail row canceledMessage)
    rw [Run.fail_map] at h
    exact h

/-- The submitter of the one run answers as that of the other. -/
def AnswersAlike (f : ρ → ρ') (g : σ → σ') (submit : Submitter ρ σ) (submit' : Submitter ρ' σ') :
    Prop :=
  ∀ record state, submit' (f record) (g state) =
    ((submit record state).1, g (submit record state).2)

theorem send_map (h : AnswersAlike f g submit submit') (record : ρ) (s : Session ρ σ) :
    (s.map f g).send submit' (f record) =
      ((s.send submit record).1, (s.send submit record).2.map f g) := by
  simp only [Session.send, Session.map, h record s.state, List.map_cons]

theorem attempt_map (h : AnswersAlike f g submit submit') (record : ρ) (made retries : Nat)
    (s : Session ρ σ) :
    attempt submit' (f record) made retries (s.map f g) =
      ((attempt submit record made retries s).1, (attempt submit record made retries s).2.1,
        (attempt submit record made retries s).2.2.map f g) := by
  induction retries generalizing made s with
  | zero =>
    simp only [attempt, send_map h]
    rcases s.send submit record with ⟨_ | e, s⟩ <;> rfl
  | succ retries ih =>
    simp only [attempt, send_map h]
    rcases s.send submit record with ⟨_ | e, s⟩
    · rfl
    · by_cases hc : s.canceled
      · simp [hc, Session.map]
      · simp only [Session.map_canceled, hc, if_false, Bool.false_eq_true, ih]

theorem submitUntilAccepted_map (h : AnswersAlike f g submit submit') (maxAttempts : Int)
    (record : ρ) (s : Session ρ σ) :
    submitUntilAccepted submit' maxAttempts (f record) (s.map f g) =
      ((submitUntilAccepted submit maxAttempts record s).1,
        (submitUntilAccepted submit maxAttempts record s).2.1,
        (submitUntilAccepted submit maxAttempts record s).2.2.map f g) := by
  unfold submitUntilAccepted
  by_cases hc : s.canceled
  · simp [hc, Session.map]
  · simp only [Session.map_canceled, hc, if_false, Bool.false_eq_true, attempt_map h]

theorem firstTry_map (h : AnswersAlike f g submit submit') (maxAttempts : Int)
    (row : ImportRow ρ) (r : Run ρ σ) :
    firstTry submit' maxAttempts (row.map f) (r.map f g) =
      ((firstTry submit maxAttempts row r).1, (firstTry submit maxAttempts row r).2.map f g) := by
  have hsession : (r.map f g).session = r.session.map f g := rfl
  have hfault : (row.map f).fault = row.fault := rfl
  have hrecord : (row.map f).record = f row.record := rfl
  unfold firstTry
  rw [hfault, hsession, hrecord, submitUntilAccepted_map h]
  rcases row.fault with _ | message
  · rcases submitUntilAccepted submit maxAttempts row.record r.session with ⟨n, ending, s⟩
    cases ending with
    | accepted => rfl
    | refused | canceled =>
      by_cases hc : s.canceled
      · simp only [Session.map_canceled, hc, if_true, Run.fail_map]
        rfl
      · simp only [Session.map_canceled, hc, if_false, Bool.false_eq_true, Run.queue_map]
        rfl
  · simp only [Run.fail_map]

theorem firstPass_map (h : AnswersAlike f g submit submit') (maxAttempts : Int) (count : Nat)
    (queue rows : List (ImportRow ρ)) (r : Run ρ σ) :
    firstPass submit' maxAttempts count (queue.map (ImportRow.map f))
        (rows.map (ImportRow.map f)) (r.map f g) =
      ((firstPass submit maxAttempts count queue rows r).1.map (ImportRow.map f),
        (firstPass submit maxAttempts count queue rows r).2.map f g) := by
  induction rows generalizing count queue r with
  | nil => rfl
  | cons row rest ih =>
    have hcanceled : (r.map f g).session.canceled = r.session.canceled := rfl
    simp only [firstPass, List.map_cons, hcanceled]
    by_cases hc : r.session.canceled
    · simp only [hc, if_true, Run.failAll_map, List.map_append, List.map_cons, List.map_nil]
    · simp only [hc, if_false, Bool.false_eq_true, firstTry_map h]
      rw [← ih, Run.reach_map]
      cases (firstTry submit maxAttempts row r).1 <;> simp

theorem secondTry_map (h : AnswersAlike f g submit submit') (maxAttempts : Int)
    (row : ImportRow ρ) (r : Run ρ σ) :
    secondTry submit' maxAttempts (row.map f) (r.map f g) =
      (secondTry submit maxAttempts row r).map f g := by
  have hsession : (r.map f g).session = r.session.map f g := rfl
  have hrecord : (row.map f).record = f row.record := rfl
  unfold secondTry
  rw [hsession, hrecord, submitUntilAccepted_map h]
  rcases submitUntilAccepted submit maxAttempts row.record r.session with ⟨n, ending, s⟩
  cases ending with
  | accepted => rfl
  | refused | canceled =>
    simp only [Run.fail_map, Run.unqueue_map]
    rfl

theorem secondPass_map (h : AnswersAlike f g submit submit') (maxAttempts : Int)
    (rows : List (ImportRow ρ)) (r : Run ρ σ) :
    secondPass submit' maxAttempts (rows.map (ImportRow.map f)) (r.map f g) =
      (secondPass submit maxAttempts rows r).map f g := by
  induction rows generalizing r with
  | nil => rfl
  | cons row rest ih =>
    have hcanceled : (r.map f g).session.canceled = r.session.canceled := rfl
    simp only [secondPass, List.map_cons, hcanceled]
    by_cases hc : r.session.canceled
    · simp only [hc, if_true, Run.failAll_map, List.map_cons]
    · simp only [hc, if_false, Bool.false_eq_true, secondTry_map h, ← Run.publish_map, ih]

theorem runImport_map (h : AnswersAlike f g submit submit') (maxAttempts : Int)
    (batch file : Text) (total : Int) (rows : List (ImportRow ρ)) (s : Session ρ σ) :
    runImport submit' maxAttempts batch file total (rows.map (ImportRow.map f)) (s.map f g) =
      (runImport submit maxAttempts batch file total rows s).map f g := by
  have hstart : (⟨{ batch, file, total }, [], s.map f g⟩ : Run ρ' σ') =
      (⟨{ batch, file, total }, [], s⟩ : Run ρ σ).map f g := rfl
  have hpass := firstPass_map h maxAttempts 0 [] rows ⟨{ batch, file, total }, [], s⟩
  simp only [runImport, hstart, List.map_nil] at hpass ⊢
  rw [hpass, secondPass_map h, Run.finish_map]

end

/-! ## A session changes by sending records only -/

section
variable {ρ σ : Type} {submit : Submitter ρ σ} {P : Session ρ σ → Prop}

theorem attempt_session (send : ∀ record s, P s → P (s.send submit record).2) (record : ρ)
    (made retries : Nat) (s : Session ρ σ) (hs : P s) :
    P (attempt submit record made retries s).2.2 := by
  induction retries generalizing made s with
  | zero =>
    have h := send record s hs
    rcases hsend : s.send submit record with ⟨_ | e, s'⟩ <;> simpa [attempt, hsend] using h
  | succ retries ih =>
    have h := send record s hs
    rcases hsend : s.send submit record with ⟨_ | e, s'⟩ <;> rw [hsend] at h
    · simpa only [attempt, hsend] using h
    · simp only [attempt, hsend]
      split
      · exact h
      · exact ih (made + 1) s' h

theorem submitUntilAccepted_session (send : ∀ record s, P s → P (s.send submit record).2)
    (maxAttempts : Int) (record : ρ) (s : Session ρ σ) (hs : P s) :
    P (submitUntilAccepted submit maxAttempts record s).2.2 := by
  unfold submitUntilAccepted
  split
  · exact hs
  · exact attempt_session send record 0 _ s hs

theorem failAll_session (rows : List (ImportRow ρ)) (r : Run ρ σ) :
    (r.failAll rows).session = r.session := by
  induction rows generalizing r with
  | nil => rfl
  | cons row rest ih => exact ih (r.fail row canceledMessage)

theorem firstTry_session (send : ∀ record s, P s → P (s.send submit record).2) (maxAttempts : Int)
    (row : ImportRow ρ) (r : Run ρ σ) (hr : P r.session) :
    P (firstTry submit maxAttempts row r).2.session := by
  have h := submitUntilAccepted_session send maxAttempts row.record r.session hr
  unfold firstTry
  split
  · exact hr
  · split
    · next heq =>
      rw [heq] at h
      exact h
    · next heq =>
      rw [heq] at h
      split
      · exact h
      · exact h

theorem firstPass_session (send : ∀ record s, P s → P (s.send submit record).2)
    (maxAttempts : Int) (count : Nat) (queue rows : List (ImportRow ρ)) (r : Run ρ σ)
    (hr : P r.session) : P (firstPass submit maxAttempts count queue rows r).2.session := by
  induction rows generalizing count queue r with
  | nil => exact hr
  | cons row rest ih =>
    unfold firstPass
    split
    · rw [failAll_session]
      exact hr
    · exact ih _ _ _ (firstTry_session send maxAttempts row r hr)

theorem secondTry_session (send : ∀ record s, P s → P (s.send submit record).2)
    (maxAttempts : Int) (row : ImportRow ρ) (r : Run ρ σ) (hr : P r.session) :
    P (secondTry submit maxAttempts row r).session := by
  have h := submitUntilAccepted_session send maxAttempts row.record r.session hr
  unfold secondTry
  split
  · next heq =>
    rw [heq] at h
    exact h
  · next heq =>
    rw [heq] at h
    exact h

theorem secondPass_session (send : ∀ record s, P s → P (s.send submit record).2)
    (maxAttempts : Int) (rows : List (ImportRow ρ)) (r : Run ρ σ) (hr : P r.session) :
    P (secondPass submit maxAttempts rows r).session := by
  induction rows generalizing r with
  | nil => exact hr
  | cons row rest ih =>
    unfold secondPass
    split
    · rw [failAll_session]
      exact hr
    · exact ih _ (secondTry_session send maxAttempts row r hr)

/-- What every submission keeps of a session, an import keeps. -/
theorem runImport_session (send : ∀ record s, P s → P (s.send submit record).2)
    (maxAttempts : Int) (batch file : Text) (total : Int) (rows : List (ImportRow ρ))
    (s : Session ρ σ) (hs : P s) :
    P (runImport submit maxAttempts batch file total rows s).session :=
  secondPass_session send maxAttempts _ _ (firstPass_session send maxAttempts 0 [] rows _ hs)

end

/-! ## Submissions with their rows -/

/-- One submission: the number of the row it was made for, the record that was sent, and the
answer. -/
structure Submission (ρ : Type) where
  row : Nat
  record : ρ
  reply : Reply
  deriving DecidableEq, Repr

section
variable {ρ σ : Type}

/-- The submitter, which also writes down for which row it was asked and what it answered. -/
def Submitter.watched (submit : Submitter ρ σ) : Submitter (Nat × ρ) (σ × List (Submission ρ)) :=
  fun record state =>
    ((submit record.2 state.1).1, (submit record.2 state.1).2,
      state.2 ++ [⟨record.1, record.2, (submit record.2 state.1).1⟩])

/-- The rows, each with its number beside its record. -/
def numbered (rows : List (ImportRow ρ)) : List (ImportRow (Nat × ρ)) :=
  rows.zipIdx.map fun p => p.1.map fun record => (p.2, record)

variable (submit : Submitter ρ σ) (maxAttempts : Int) (batch file : Text) (total : Int)
  (rows : List (ImportRow ρ)) (state : σ) (canceled : Bool)

/-- The import of the rows with every submission written down. -/
def watchedImport : Run (Nat × ρ) (σ × List (Submission ρ)) :=
  runImport submit.watched maxAttempts batch file total (numbered rows)
    { state := (state, []), canceled }

/-- The submissions of an import, in order. -/
def submissions : List (Submission ρ) :=
  (watchedImport submit maxAttempts batch file total rows state canceled).session.state.2

theorem watched_alike : AnswersAlike Prod.snd Prod.fst submit.watched submit := fun _ _ => rfl

theorem numbered_map : (numbered rows).map (ImportRow.map Prod.snd) = rows := by
  rw [numbered, List.map_map]
  exact List.zipIdx_map_fst 0 rows

/-- No two rows have the same number. -/
theorem numbered_nodup : ((numbered rows).map (·.record.1)).Nodup := by
  have hnumbers : (numbered rows).map (·.record.1) = List.range' 0 rows.length := by
    rw [numbered, List.map_map]
    exact List.zipIdx_map_snd 0 rows
  rw [hnumbers]
  exact List.nodup_range'

/-- Writing down the submissions does not change the import. -/
theorem watchedImport_map :
    (watchedImport submit maxAttempts batch file total rows state canceled).map Prod.snd Prod.fst =
      runImport submit maxAttempts batch file total rows { state, canceled } := by
  have h := runImport_map (watched_alike submit) maxAttempts batch file total
    (numbered rows) { state := (state, []), canceled }
  rw [numbered_map] at h
  exact h.symm

/-- What was sent is what was written down. -/
def Session.Recorded (s : Session (Nat × ρ) (σ × List (Submission ρ))) : Prop :=
  s.sent.map Prod.snd = s.state.2.map (·.record)

theorem send_recorded (record : Nat × ρ) (s : Session (Nat × ρ) (σ × List (Submission ρ)))
    (hs : s.Recorded) : (s.send submit.watched record).2.Recorded := by
  unfold Session.Recorded at hs
  simp only [Session.Recorded, Session.sent, Session.send, Submitter.watched, List.reverse_cons,
    List.map_append, List.map_cons, List.map_nil] at hs ⊢
  rw [hs]

/-- The records that an import sends are those of its submissions. -/
theorem sent_eq_submissions :
    (runImport submit maxAttempts batch file total rows { state, canceled }).session.sent =
      (submissions submit maxAttempts batch file total rows state canceled).map (·.record) := by
  have h : (watchedImport submit maxAttempts batch file total rows state
      canceled).session.Recorded :=
    runImport_session (send_recorded submit) maxAttempts batch file total (numbered rows) _ rfl
  rw [← watchedImport_map]
  unfold Session.Recorded at h
  rw [submissions, ← h]
  simp only [Session.sent, Run.map, Session.map, List.map_reverse]

end
end Stockroom

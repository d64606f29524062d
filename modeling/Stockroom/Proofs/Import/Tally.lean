import Stockroom.Proofs.Import.Rounds

/-!
Every row of an import ends in exactly one tally. While an import runs, its rows are those that were
accepted, those that failed and those that wait; a step moves a row from those that wait to one of
the others, and the counts and the list of failures of the progress say where the rows are. At the
end no row waits.

Main definitions and statements:
* `acceptedIn`: a submission of a row was answered without error;
* `Tally`: where the rows are, and what the progress says of it;
* `firstPass_tally`, `secondPass_tally`: what the passes keep;
* `runImport_tally`: the counts and failures of a finished import.
-/
namespace Stockroom
set_option autoImplicit false

section
variable {ρ σ : Type}

/-- Whether a submission of the row with a number was answered without error. -/
def acceptedIn (log : List (Submission ρ)) (row : Nat) : Bool :=
  log.any fun x => x.row == row && x.reply.error.isNone

theorem acceptedIn_append (log more : List (Submission ρ)) (row : Nat) :
    acceptedIn (log ++ more) row = (acceptedIn log row || acceptedIn more row) := List.any_append

theorem acceptedIn_roundLog_ne {record : Nat × ρ} (replies : List Reply) {row : Nat}
    (h : record.1 ≠ row) : acceptedIn (roundLog record replies) row = false := by
  simp [acceptedIn, roundLog, h]

theorem acceptedIn_roundLog {record : Nat × ρ} {bound : Nat} {replies : List Reply}
    {ending : Ending} {canceled : Bool} (h : Round bound replies ending canceled) :
    acceptedIn (roundLog record replies) record.1 = true ↔ ending = .accepted := by
  rw [h.accepted_iff]
  simp [acceptedIn, roundLog]

/-- Where the rows of an import are, by its progress and the submissions so far. -/
structure Tally (rows accepted failed waiting : List (ImportRow (Nat × ρ)))
    (p : Progress (Nat × ρ)) (log : List (Submission ρ)) : Prop where
  parts : (accepted ++ failed ++ waiting).Perm rows
  accepted_count : p.accepted = accepted.length
  failed_count : p.failed = failed.length
  failures : p.failures.map (fun e => (e.line, e.record)) =
    failed.map fun row => (row.line, row.record)
  hit : ∀ row ∈ accepted, acceptedIn log row.record.1 = true
  miss : ∀ row ∈ failed ++ waiting, acceptedIn log row.record.1 = false

namespace Tally

variable {rows accepted failed waiting : List (ImportRow (Nat × ρ))} {row : ImportRow (Nat × ρ)}
variable {p p' : Progress (Nat × ρ)} {log : List (Submission ρ)}

/-- Only the counts and the failures of the progress matter. -/
theorem congr (h : Tally rows accepted failed waiting p log) (haccepted : p'.accepted = p.accepted)
    (hfailed : p'.failed = p.failed) (hfailures : p'.failures = p.failures) :
    Tally rows accepted failed waiting p' log where
  parts := h.parts
  accepted_count := haccepted.trans h.accepted_count
  failed_count := hfailed.trans h.failed_count
  failures := by rw [hfailures, h.failures]
  hit := h.hit
  miss := h.miss

theorem reorder {waiting' : List (ImportRow (Nat × ρ))}
    (h : Tally rows accepted failed waiting p log) (hperm : waiting'.Perm waiting) :
    Tally rows accepted failed waiting' p log where
  parts := (hperm.append_left _).trans h.parts
  accepted_count := h.accepted_count
  failed_count := h.failed_count
  failures := h.failures
  hit := h.hit
  miss := fun row hrow => h.miss row ((hperm.append_left failed).mem_iff.mp hrow)

/-- A row that waits fails. -/
theorem fail (h : Tally rows accepted failed (row :: waiting) p log) (message : Text) :
    Tally rows accepted (failed ++ [row]) waiting
      (p.fail ⟨row.line, row.record, message⟩) log where
  parts := by simpa [List.append_assoc] using h.parts
  accepted_count := h.accepted_count
  failed_count := by simp [Progress.fail, h.failed_count]
  failures := by simp [Progress.fail, h.failures]
  hit := h.hit
  miss := by simpa [List.append_assoc] using h.miss

/-- The numbers of the rows that failed or wait behind a row are not that row's. -/
theorem fresh (h : Tally rows accepted failed (row :: waiting) p log)
    (hnodup : (rows.map (·.record.1)).Nodup) :
    ∀ other ∈ failed ++ waiting, row.record.1 ≠ other.record.1 := by
  have hperm : (row :: (accepted ++ (failed ++ waiting))).Perm rows := by
    refine List.Perm.trans ?_ h.parts
    rw [← List.append_assoc]
    exact List.perm_middle.symm
  have hnodup := (hperm.map (·.record.1)).nodup_iff.mpr hnodup
  intro other hother heq
  rw [List.map_cons, List.nodup_cons] at hnodup
  apply hnodup.1
  rw [heq]
  exact List.mem_map_of_mem (List.mem_append_right _ hother)

/-- A round that was not accepted changes nothing for any row. -/
theorem refuse {bound : Nat} {replies : List Reply} {ending : Ending} {canceled : Bool}
    (h : Tally rows accepted failed (row :: waiting) p log)
    (hround : Round bound replies ending canceled) (hending : ending ≠ .accepted) :
    Tally rows accepted failed (row :: waiting) p (log ++ roundLog row.record replies) where
  parts := h.parts
  accepted_count := h.accepted_count
  failed_count := h.failed_count
  failures := h.failures
  hit := fun other hother => by rw [acceptedIn_append, h.hit other hother, Bool.true_or]
  miss := by
    have hself : acceptedIn (roundLog row.record replies) row.record.1 = false := by
      rw [← Bool.not_eq_true, acceptedIn_roundLog hround]
      exact hending
    intro other hother
    rw [acceptedIn_append, h.miss other hother, Bool.false_or]
    by_cases heq : row.record.1 = other.record.1
    · rw [← heq, hself]
    · exact acceptedIn_roundLog_ne replies heq

/-- A row that waits is accepted. -/
theorem accept {bound : Nat} {replies : List Reply} {canceled : Bool}
    (h : Tally rows accepted failed (row :: waiting) p log)
    (hnodup : (rows.map (·.record.1)).Nodup) (hround : Round bound replies .accepted canceled) :
    Tally rows (accepted ++ [row]) failed waiting p.accept
      (log ++ roundLog row.record replies) where
  parts := by
    refine List.Perm.trans ?_ h.parts
    rw [List.append_assoc, List.append_assoc, List.append_assoc, List.singleton_append]
    exact List.perm_middle.symm.append_left accepted
  accepted_count := by simp [Progress.accept, h.accepted_count]
  failed_count := h.failed_count
  failures := h.failures
  hit := by
    intro other hother
    rw [acceptedIn_append]
    rcases List.mem_append.mp hother with hother | hother
    · rw [h.hit other hother, Bool.true_or]
    · rw [List.mem_singleton.mp hother, (acceptedIn_roundLog hround).mpr rfl, Bool.or_true]
  miss := by
    intro other hother
    have hwaits : other ∈ failed ++ row :: waiting := by
      rcases List.mem_append.mp hother with hother | hother
      · exact List.mem_append_left _ hother
      · exact List.mem_append_right _ (List.mem_cons_of_mem _ hother)
    rw [acceptedIn_append, h.miss other hwaits, Bool.false_or]
    exact acceptedIn_roundLog_ne replies (h.fresh hnodup other hother)

/-- All rows that wait fail. -/
theorem failAll {r : Run (Nat × ρ) (σ × List (Submission ρ))}
    (h : Tally rows accepted failed waiting r.progress log) :
    Tally rows accepted (failed ++ waiting) [] (r.failAll waiting).progress log := by
  induction waiting generalizing failed r with
  | nil => simpa [Run.failAll] using h
  | cons row waiting ih =>
    have hfail : Tally rows accepted (failed ++ [row]) waiting
        (r.fail row canceledMessage).progress log := h.fail canceledMessage
    have hall := ih hfail
    rw [List.append_assoc] at hall
    exact hall

/-- When no row waits, the rows that were accepted and those that failed are told apart by their
submissions. -/
theorem settled (h : Tally rows accepted failed [] p log) :
    accepted.Perm (rows.filter fun row => acceptedIn log row.record.1) ∧
      failed.Perm (rows.filter fun row => !acceptedIn log row.record.1) := by
  have hmiss : ∀ row ∈ failed, acceptedIn log row.record.1 = false := fun row hrow =>
    h.miss row (List.mem_append_left _ hrow)
  have hparts : (accepted ++ failed).Perm rows := by simpa using h.parts
  have hyes := hparts.filter fun row => acceptedIn log row.record.1
  have hno := hparts.filter fun row => !acceptedIn log row.record.1
  rw [List.filter_append, List.filter_eq_self.mpr h.hit,
    List.filter_eq_nil_iff.mpr fun row hrow => by simp [hmiss row hrow], List.append_nil] at hyes
  rw [List.filter_append, List.filter_eq_nil_iff.mpr fun row hrow => by simp [h.hit row hrow],
    List.filter_eq_self.mpr fun row hrow => by simp [hmiss row hrow], List.nil_append] at hno
  exact ⟨hyes, hno⟩

end Tally

/-! ## The passes -/

variable {rows : List (ImportRow (Nat × ρ))} (submit : Submitter ρ σ) (maxAttempts : Int)

theorem firstPass_tally (hnodup : (rows.map (·.record.1)).Nodup) (count : Nat)
    (queue rest : List (ImportRow (Nat × ρ))) (r : Run (Nat × ρ) (σ × List (Submission ρ)))
    (accepted failed : List (ImportRow (Nat × ρ)))
    (h : Tally rows accepted failed (queue ++ rest) r.progress r.session.state.2) :
    ∃ accepted failed, Tally rows accepted failed
      (firstPass submit.watched maxAttempts count queue rest r).1
      (firstPass submit.watched maxAttempts count queue rest r).2.progress
      (firstPass submit.watched maxAttempts count queue rest r).2.session.state.2 := by
  induction rest generalizing count queue r accepted failed with
  | nil => exact ⟨accepted, failed, by simpa [firstPass] using h⟩
  | cons row rest ih =>
    unfold firstPass
    by_cases hc : r.session.canceled = true
    · simp only [hc, if_true]
      rw [failAll_session]
      exact ⟨accepted, _, h.failAll⟩
    · simp only [hc]
      have hc : r.session.canceled = false := by simpa using hc
      -- the row comes first among those that wait
      have hrow : Tally rows accepted failed (row :: (queue ++ rest)) r.progress
          r.session.state.2 := h.reorder List.perm_middle.symm
      obtain ⟨message, -, htry⟩ | ⟨-, replies, ending, s', hlog, hround, hcases⟩ :=
        firstTry_cases submit maxAttempts row r hc
      · rw [htry]
        exact ih _ _ _ _ _ ((hrow.fail message).congr rfl rfl rfl)
      · obtain ⟨rfl, htry⟩ | ⟨hending, -, htry⟩ | ⟨hending, -, htry⟩ := hcases <;> rw [htry]
        · have haccept := hrow.accept hnodup hround
          rw [← hlog] at haccept
          exact ih _ _ _ _ _ (haccept.congr rfl rfl rfl)
        · have hrefuse := hrow.refuse hround hending
          rw [← hlog] at hrefuse
          exact ih _ _ _ _ _ ((hrefuse.fail canceledMessage).congr rfl rfl rfl)
        · have hrefuse := hrow.refuse hround hending
          rw [← hlog] at hrefuse
          refine ih _ (queue ++ [row]) _ _ _ ((hrefuse.reorder ?_).congr rfl rfl rfl)
          rw [List.append_assoc, List.singleton_append]
          exact List.perm_middle

theorem secondPass_tally (hnodup : (rows.map (·.record.1)).Nodup)
    (queue : List (ImportRow (Nat × ρ))) (r : Run (Nat × ρ) (σ × List (Submission ρ)))
    (accepted failed : List (ImportRow (Nat × ρ)))
    (h : Tally rows accepted failed queue r.progress r.session.state.2) :
    ∃ accepted failed, Tally rows accepted failed []
      (secondPass submit.watched maxAttempts queue r).progress
      (secondPass submit.watched maxAttempts queue r).session.state.2 := by
  induction queue generalizing r accepted failed with
  | nil => exact ⟨accepted, failed, h⟩
  | cons row rest ih =>
    unfold secondPass
    by_cases hc : r.session.canceled = true
    · simp only [hc, if_true]
      rw [failAll_session]
      exact ⟨accepted, _, h.failAll⟩
    · simp only [hc]
      have hc : r.session.canceled = false := by simpa using hc
      obtain ⟨replies, ending, s', hlog, hround, ⟨rfl, htry⟩ | ⟨hending, htry⟩⟩ :=
        secondTry_cases submit maxAttempts row r hc
      · have haccept := h.accept hnodup hround
        rw [← hlog] at haccept
        rw [htry]
        exact ih _ _ _ (haccept.congr rfl rfl rfl)
      · have hrefuse := h.refuse hround hending
        rw [← hlog] at hrefuse
        rw [htry]
        exact ih _ _ _ ((hrefuse.fail ending.message).congr rfl rfl rfl)

/-! ## Finished imports -/

theorem watchedImport_tally (batch file : Text) (total : Int) (rows : List (ImportRow ρ))
    (state : σ) (canceled : Bool) :
    ∃ accepted failed, Tally (numbered rows) accepted failed []
      (watchedImport submit maxAttempts batch file total rows state canceled).progress
      (submissions submit maxAttempts batch file total rows state canceled) := by
  have hnodup := numbered_nodup rows
  let start : Run (Nat × ρ) (σ × List (Submission ρ)) :=
    { progress := { batch, file, total }, session := { state := (state, []), canceled } }
  have hstart : Tally (numbered rows) [] [] ([] ++ numbered rows) start.progress
      start.session.state.2 :=
    ⟨.refl _, rfl, rfl, rfl, by simp, fun _ _ => rfl⟩
  obtain ⟨accepted, failed, hfirst⟩ :=
    firstPass_tally submit maxAttempts hnodup 0 [] (numbered rows) start [] [] hstart
  obtain ⟨accepted, failed, hsecond⟩ :=
    secondPass_tally submit maxAttempts hnodup _ _ accepted failed hfirst
  exact ⟨accepted, failed, hsecond.congr rfl rfl rfl⟩

theorem filter_numbered (rows : List (ImportRow ρ)) (keep : Nat → Bool) :
    (numbered rows).filter (fun row => keep row.record.1) =
      (rows.zipIdx.filter fun p => keep p.2).map fun p => p.1.map fun record => (p.2, record) := by
  rw [numbered, List.filter_map]
  rfl

/-- When an import is finished, every row was accepted or has failed: it was accepted exactly when
one of its submissions was answered without error, and every other row stands once among the
failures, with its line and its record. -/
theorem runImport_tally (batch file : Text) (total : Int) (rows : List (ImportRow ρ)) (state : σ)
    (canceled : Bool) :
    let r := runImport submit maxAttempts batch file total rows { state, canceled }
    let log := submissions submit maxAttempts batch file total rows state canceled
    r.session.sent = log.map (·.record) ∧
      r.progress.done = true ∧ r.progress.queued = [] ∧
      r.progress.accepted + r.progress.failed = rows.length ∧
      r.progress.failures.length = r.progress.failed ∧
      r.progress.accepted = (rows.zipIdx.filter fun p => acceptedIn log p.2).length ∧
      (r.progress.failures.map fun e => (e.line, e.record)).Perm
        ((rows.zipIdx.filter fun p => !acceptedIn log p.2).map fun p =>
          (p.1.line, p.1.record)) := by
  intro r log
  obtain ⟨accepted, failed, htally⟩ :=
    watchedImport_tally submit maxAttempts batch file total rows state canceled
  obtain ⟨hyes, hno⟩ := htally.settled
  rw [filter_numbered rows (acceptedIn log)] at hyes
  rw [filter_numbered rows fun i => !acceptedIn log i] at hno
  have hprogress : r.progress = (watchedImport submit maxAttempts batch file total rows state
      canceled).progress.map Prod.snd :=
    congrArg Run.progress
      (watchedImport_map submit maxAttempts batch file total rows state canceled).symm
  have haccepted : r.progress.accepted = accepted.length := by
    rw [hprogress]
    exact htally.accepted_count
  have hfailed : r.progress.failed = failed.length := by
    rw [hprogress]
    exact htally.failed_count
  have hfailures : r.progress.failures.map (fun e => (e.line, e.record)) =
      failed.map fun row => (row.line, row.record.2) := by
    have h := congrArg (List.map fun e : Int × Nat × ρ => (e.1, e.2.2)) htally.failures
    rw [List.map_map, List.map_map] at h
    rw [hprogress, Progress.map, List.map_map]
    exact h
  refine ⟨sent_eq_submissions .., rfl, rfl, ?_, ?_, ?_, ?_⟩
  · have hlength := htally.parts.length_eq
    rw [List.append_nil, List.length_append, numbered, List.length_map, List.length_zipIdx]
      at hlength
    rw [haccepted, hfailed, hlength]
  · rw [hfailed, ← List.length_map (fun e : RowFailure ρ => (e.line, e.record)), hfailures,
      List.length_map]
  · rw [haccepted, hyes.length_eq, List.length_map]
  · rw [hfailures]
    refine (hno.map fun row => (row.line, row.record.2)).trans (.of_eq ?_)
    rw [List.map_map]
    rfl

end
end Stockroom

import Stockroom.Proofs.Import.Discipline
import Stockroom.Proofs.Import.Shown
import Stockroom.Proofs.Import.Tally

/-!
What becomes of a row when the import is not canceled. It depends on the row and on the answers to its
own submissions alone, and not on the rows around it: a row without a fault is submitted until it is
accepted or both passes have used up their attempts. So the rows may come in any order.

That an import is answered in this way is said of its submissions, each of which knows its row: what
is answered is fixed by the row and by how often it was submitted before. The passes are gone through
with the rows that are queued and those that are still to come, and every other row is done with.

Main definitions and statements:
* `AnsweredBy`: the answers of an import are fixed for each row;
* `firstAcceptance`, `ImportRow.submitted`, `ImportRow.failure`: what becomes of a row;
* `Round.answered`: what comes of the submissions of a row in one pass;
* `firstPass_decided`, `secondPass_decided`: what is known of the rows while an import runs;
* `runImport_verdicts`: what becomes of the rows of an import, whatever their order.
-/
namespace Stockroom
set_option autoImplicit false

section
variable {ρ σ : Type}

/-! ## Answers -/

/-- How often a row was submitted. -/
def submittedIn (log : List (Submission ρ)) (row : Nat) : Nat :=
  (log.filter fun x => x.row == row).length

theorem submittedIn_append (log more : List (Submission ρ)) (row : Nat) :
    submittedIn (log ++ more) row = submittedIn log row + submittedIn more row := by
  rw [submittedIn, List.filter_append, List.length_append]
  rfl

theorem submittedIn_roundLog (record : Nat × ρ) (replies : List Reply) :
    submittedIn (roundLog record replies) record.1 = replies.length := by
  have hall : ∀ x ∈ roundLog record replies, (x.row == record.1) = true := by
    intro x hx
    obtain ⟨reply, -, rfl⟩ := List.mem_map.mp hx
    exact beq_self_eq_true record.1
  rw [submittedIn, List.filter_eq_self.mpr hall, roundLog, List.length_map]

theorem submittedIn_roundLog_ne {record : Nat × ρ} (replies : List Reply) {row : Nat}
    (h : record.1 ≠ row) : submittedIn (roundLog record replies) row = 0 := by
  simp [submittedIn, roundLog, h]

theorem acceptedIn_of_unsubmitted {log : List (Submission ρ)} {row : Nat}
    (h : submittedIn log row = 0) : acceptedIn log row = false := by
  rw [submittedIn, List.length_eq_zero_iff, List.filter_eq_nil_iff] at h
  rw [acceptedIn, List.any_eq_false]
  intro x hx haccepted
  exact h x hx (Bool.and_eq_true_iff.mp haccepted).1

/-- The answer to each submission is the one that is fixed for its row and for how often this row has
been submitted, and none cancels the import. -/
def AnsweredBy (f : Nat → Nat → Option Text) (log : List (Submission ρ)) : Prop :=
  ∀ n (h : n < log.length),
    log[n].reply = { error := f log[n].row (submittedIn (log.take n) log[n].row + 1) }

instance (f : Nat → Nat → Option Text) (log : List (Submission ρ)) :
    Decidable (AnsweredBy f log) :=
  inferInstanceAs (Decidable (∀ n (h : n < log.length), log[n].reply = _))

namespace AnsweredBy

variable {f : Nat → Nat → Option Text} {log earlier : List (Submission ρ)}

theorem next (h : AnsweredBy f log) {x : Submission ρ} (hbegins : earlier ++ [x] <+: log) :
    x.reply = { error := f x.row (submittedIn earlier x.row + 1) } := by
  obtain ⟨later, rfl⟩ := hbegins
  have hx := h earlier.length (by simp)
  simpa [List.append_assoc] using hx

/-- The submissions of a row that follow one another are answered in turn. -/
theorem replies (h : AnsweredBy f log) (record : Nat × ρ) (replies : List Reply)
    (hbegins : earlier ++ roundLog record replies <+: log) :
    replies = (List.range' (submittedIn earlier record.1 + 1) replies.length).map
      fun j => { error := f record.1 j } := by
  induction replies generalizing earlier with
  | nil => rfl
  | cons reply replies ih =>
    have hsplit : earlier ++ roundLog record (reply :: replies) =
        (earlier ++ roundLog record [reply]) ++ roundLog record replies := by
      rw [List.append_assoc]
      rfl
    rw [hsplit] at hbegins
    have hreply := h.next ((List.prefix_append ..).trans hbegins)
    have hrest := ih hbegins
    rw [submittedIn_append, submittedIn_roundLog, List.length_singleton] at hrest
    rw [List.length_cons, List.range'_succ, List.map_cons, ← hrest, ← hreply]

end AnsweredBy

/-! ## What becomes of a row -/

/-- The first submission that is accepted, among so many after the first `made`. -/
def firstAcceptance (answer : Nat → Option Text) (made bound : Nat) : Option Nat :=
  (List.range' (made + 1) bound).find? fun j => (answer j).isNone

theorem firstAcceptance_isSome {answer : Nat → Option Text} {made bound : Nat} :
    (firstAcceptance answer made bound).isSome = true ↔
      ∃ j, made < j ∧ j ≤ made + bound ∧ answer j = none := by
  rw [firstAcceptance, List.find?_isSome]
  simp only [List.mem_range'_1, Option.isNone_iff_eq_none]
  constructor
  · rintro ⟨j, ⟨hlow, hhigh⟩, hj⟩
    exact ⟨j, by omega, by omega, hj⟩
  · rintro ⟨j, hlow, hhigh, hj⟩
    exact ⟨j, ⟨by omega, by omega⟩, hj⟩

theorem firstAcceptance_add (answer : Nat → Option Text) (made bound more : Nat) :
    firstAcceptance answer made (bound + more) =
      (firstAcceptance answer made bound).or (firstAcceptance answer (made + bound) more) := by
  rw [firstAcceptance, ← List.range'_append_1, List.find?_append]
  congr 3
  omega

/-- A submission that is refused is not the first one accepted. -/
theorem firstAcceptance_refused {answer : Nat → Option Text} {made : Nat}
    (h : answer (made + 1) ≠ none) (bound : Nat) :
    firstAcceptance answer made (bound + 1) = firstAcceptance answer (made + 1) bound := by
  rw [firstAcceptance, List.range'_succ, List.find?_cons_of_neg (by simpa using h)]
  rfl

namespace ImportRow

/-- How often a row is submitted when it may be submitted so often. -/
def submitted (bound : Nat) (answer : Nat → Option Text) (row : ImportRow ρ) : Nat :=
  if row.fault.isSome then 0 else (firstAcceptance answer 0 bound).getD bound

/-- What a row fails with unless it is accepted: its fault, or its last answer. -/
def failure (bound : Nat) (answer : Nat → Option Text) (row : ImportRow ρ) :
    Option (RowFailure ρ) :=
  (match row.fault with
    | some message => some message
    | none => if (firstAcceptance answer 0 bound).isSome then none else answer bound).map
  fun message => ⟨row.line, row.record, message⟩

variable {bound : Nat} {answer : Nat → Option Text} {row : ImportRow ρ}

theorem failure_of_fault {message : Text} (h : row.fault = some message) :
    row.failure bound answer = some ⟨row.line, row.record, message⟩ := by
  simp only [failure, h, Option.map_some]

theorem failure_of_accepted (h : row.fault = none)
    (haccepted : (firstAcceptance answer 0 bound).isSome = true) :
    row.failure bound answer = none := by
  simp only [failure, h, haccepted, if_true, Option.map_none]

theorem failure_of_refused {message : Text} (h : row.fault = none)
    (hrefused : firstAcceptance answer 0 bound = none) (hlast : answer bound = some message) :
    row.failure bound answer = some ⟨row.line, row.record, message⟩ := by
  simp only [failure, h, hrefused, hlast, Option.isSome_none, Bool.false_eq_true, if_false,
    Option.map_some]

theorem failure_fields {e : RowFailure ρ} (h : row.failure bound answer = some e) :
    e.line = row.line ∧ e.record = row.record := by
  obtain ⟨message, -, rfl⟩ := Option.map_eq_some_iff.mp h
  exact ⟨rfl, rfl⟩

/-- A row is accepted exactly if it has no fault and one of its submissions is. -/
theorem failure_isNone (hbound : 0 < bound) : (row.failure bound answer).isNone = true ↔
    row.fault = none ∧ ∃ j, 1 ≤ j ∧ j ≤ bound ∧ answer j = none := by
  cases hfault : row.fault with
  | some message => simp [failure_of_fault hfault]
  | none =>
    have hfirst := @firstAcceptance_isSome answer 0 bound
    rw [Nat.zero_add] at hfirst
    cases hsome : (firstAcceptance answer 0 bound).isSome with
    | true =>
      rw [failure_of_accepted hfault hsome]
      exact iff_of_true rfl ⟨rfl, hfirst.mp hsome⟩
    | false =>
      have hnone : ¬ ∃ j, 0 < j ∧ j ≤ bound ∧ answer j = none := by
        rw [← hfirst, hsome]
        exact Bool.false_ne_true
      obtain ⟨message, hlast⟩ : ∃ message, answer bound = some message :=
        Option.ne_none_iff_exists'.mp fun h => hnone ⟨bound, hbound, Nat.le_refl _, h⟩
      rw [failure_of_refused hfault (by simpa using hsome) hlast]
      exact iff_of_false (by simp) fun h => hnone h.2

theorem failure_map {ρ' : Type} (g : ρ → ρ') :
    (row.map g).failure bound answer = (row.failure bound answer).map (RowFailure.map g) := by
  simp only [failure, Option.map_map]
  rfl

end ImportRow

/-! ## One pass over a row -/

/-- What comes of a round whose answers are fixed. -/
theorem Round.answered {answer : Nat → Option Text} {made bound : Nat} {replies : List Reply}
    {ending : Ending} {canceled : Bool} (h : Round bound replies ending canceled)
    (hreplies : replies = (List.range' (made + 1) replies.length).map fun j => { error := answer j }) :
    canceled = false ∧
      made + replies.length = (firstAcceptance answer made bound).getD (made + bound) ∧
      ((ending = .accepted ∧ (firstAcceptance answer made bound).isSome = true) ∨
        ∃ message, ending = .refused message ∧ firstAcceptance answer made bound = none ∧
          answer (made + bound) = some message) := by
  induction h generalizing made with
  | accepted bound reply hreply =>
    obtain rfl : reply = { error := answer (made + 1) } := by simpa using hreplies
    have hfirst : firstAcceptance answer made (bound + 1) = some (made + 1) := by
      rw [firstAcceptance, List.range'_succ, List.find?_cons_of_pos (by simpa using hreply)]
    rw [hfirst]
    exact ⟨rfl, rfl, .inl ⟨rfl, rfl⟩⟩
  | exhausted reply message hreply =>
    obtain rfl : reply = { error := answer (made + 1) } := by simpa using hreplies
    have hreply : answer (made + 1) = some message := hreply
    have hfirst : firstAcceptance answer made 1 = none :=
      firstAcceptance_refused (by simp [hreply]) 0
    rw [hfirst]
    exact ⟨rfl, rfl, .inr ⟨message, rfl, rfl, hreply⟩⟩
  | stopped bound reply hreply hcancels =>
    obtain rfl : reply = { error := answer (made + 1) } := by simpa using hreplies
    cases hcancels
  | @again bound replies ending canceled reply hreply hcancels rest ih =>
    rw [List.length_cons, List.range'_succ, List.map_cons, List.cons.injEq] at hreplies
    obtain ⟨rfl, hrest⟩ := hreplies
    rw [firstAcceptance_refused hreply, List.length_cons, Nat.add_comm replies.length,
      Nat.add_comm bound, ← Nat.add_assoc, ← Nat.add_assoc]
    exact ih hrest

/-! ## Rows while an import runs -/

/-- A row that is done with. -/
structure Concluded (f : Nat → Nat → Option Text) (bound : Nat) (log : List (Submission ρ))
    (row : ImportRow (Nat × ρ)) : Prop where
  count : submittedIn log row.record.1 = row.submitted bound (f row.record.1)
  verdict : acceptedIn log row.record.1 = (row.failure bound (f row.record.1)).isNone

/-- A row that was refused throughout the first pass. -/
structure Deferred (f : Nat → Nat → Option Text) (bound : Nat) (log : List (Submission ρ))
    (row : ImportRow (Nat × ρ)) : Prop where
  fault : row.fault = none
  count : submittedIn log row.record.1 = bound
  refused : firstAcceptance (f row.record.1) 0 bound = none
  unaccepted : acceptedIn log row.record.1 = false

/-- What is known of the rows while an import runs: those queued were refused throughout the first
pass, those left were not submitted, and all others are done with. -/
structure Decided (f : Nat → Nat → Option Text) (bound : Nat)
    (rows queue left : List (ImportRow (Nat × ρ))) (p : Progress (Nat × ρ))
    (log : List (Submission ρ)) : Prop where
  known : ∀ row ∈ queue ++ left, row ∈ rows
  apart : ((queue ++ left).map (·.record.1)).Nodup
  concluded : ∀ row ∈ rows, row ∈ queue ++ left ∨ Concluded f (bound + bound) log row
  deferred : ∀ row ∈ queue, Deferred f bound log row
  fresh : ∀ row ∈ left, submittedIn log row.record.1 = 0
  failures : ∀ e ∈ p.failures,
    ∃ row ∈ rows, row.failure (bound + bound) (f row.record.1) = some e

section
variable {f : Nat → Nat → Option Text} {bound : Nat} {log : List (Submission ρ)}
variable {row other : ImportRow (Nat × ρ)}

theorem submittedIn_other (h : row.record.1 ≠ other.record.1) (replies : List Reply) :
    submittedIn (log ++ roundLog row.record replies) other.record.1 =
      submittedIn log other.record.1 := by
  rw [submittedIn_append, submittedIn_roundLog_ne replies h, Nat.add_zero]

theorem acceptedIn_other (h : row.record.1 ≠ other.record.1) (replies : List Reply) :
    acceptedIn (log ++ roundLog row.record replies) other.record.1 =
      acceptedIn log other.record.1 := by
  rw [acceptedIn_append, acceptedIn_roundLog_ne replies h, Bool.or_false]

theorem Concluded.kept (h : Concluded f bound log other) (hne : row.record.1 ≠ other.record.1)
    (replies : List Reply) : Concluded f bound (log ++ roundLog row.record replies) other where
  count := (submittedIn_other hne replies).trans h.count
  verdict := (acceptedIn_other hne replies).trans h.verdict

theorem Deferred.kept (h : Deferred f bound log other) (hne : row.record.1 ≠ other.record.1)
    (replies : List Reply) : Deferred f bound (log ++ roundLog row.record replies) other where
  fault := h.fault
  count := (submittedIn_other hne replies).trans h.count
  refused := h.refused
  unaccepted := (acceptedIn_other hne replies).trans h.unaccepted

/-- A row with a fault is done with before it is submitted. -/
theorem Concluded.of_fault {message : Text} (hfault : row.fault = some message)
    (hfresh : submittedIn log row.record.1 = 0) : Concluded f bound log row where
  count := by simp [hfresh, ImportRow.submitted, hfault]
  verdict := by
    rw [acceptedIn_of_unsubmitted hfresh, ImportRow.failure_of_fault hfault]
    rfl

variable {replies : List Reply} {ending : Ending} {canceled : Bool}

theorem acceptedIn_round (hround : Round bound replies ending canceled)
    (hbefore : acceptedIn log row.record.1 = false) :
    acceptedIn (log ++ roundLog row.record replies) row.record.1 = decide (ending = .accepted) := by
  rw [acceptedIn_append, hbefore, Bool.false_or, Bool.eq_iff_iff, acceptedIn_roundLog hround,
    decide_eq_true_iff]

/-- A row that was not submitted before is accepted in the first pass or deferred. -/
theorem settle_fresh (hround : Round bound replies ending canceled) (hfault : row.fault = none)
    (hreplies : replies = (List.range' (submittedIn log row.record.1 + 1) replies.length).map
      fun j => { error := f row.record.1 j })
    (hfresh : submittedIn log row.record.1 = 0) :
    canceled = false ∧
      ((ending = .accepted ∧
          Concluded f (bound + bound) (log ++ roundLog row.record replies) row) ∨
        (∃ message, ending = .refused message) ∧
          Deferred f bound (log ++ roundLog row.record replies) row) := by
  obtain ⟨hcanceled, hlength, hending⟩ := hround.answered hreplies
  have haccepted := acceptedIn_round hround (acceptedIn_of_unsubmitted hfresh)
  have hcount : submittedIn (log ++ roundLog row.record replies) row.record.1 =
      (firstAcceptance (f row.record.1) 0 bound).getD bound := by
    rw [submittedIn_append, submittedIn_roundLog, hlength, hfresh, Nat.zero_add]
  rw [hfresh] at hending
  refine ⟨hcanceled, ?_⟩
  obtain ⟨rfl, hsome⟩ | ⟨message, rfl, hnone, -⟩ := hending
  · obtain ⟨j, hj⟩ := Option.isSome_iff_exists.mp hsome
    have hboth : firstAcceptance (f row.record.1) 0 (bound + bound) = some j := by
      rw [firstAcceptance_add, hj, Option.some_or]
    refine .inl ⟨rfl, ?_, ?_⟩
    · rw [hcount, hj, ImportRow.submitted, hfault, hboth]
      rfl
    · rw [haccepted, ImportRow.failure_of_accepted hfault (by rw [hboth]; rfl)]
      rfl
  · refine .inr ⟨⟨message, rfl⟩, hfault, ?_, hnone, ?_⟩
    · rw [hcount, hnone]
      rfl
    · rw [haccepted]
      rfl

/-- A deferred row is done with after the second pass. -/
theorem settle_deferred (hround : Round bound replies ending canceled)
    (hreplies : replies = (List.range' (submittedIn log row.record.1 + 1) replies.length).map
      fun j => { error := f row.record.1 j })
    (hdeferred : Deferred f bound log row) :
    canceled = false ∧ Concluded f (bound + bound) (log ++ roundLog row.record replies) row ∧
      (ending = .accepted ∨ row.failure (bound + bound) (f row.record.1) =
        some ⟨row.line, row.record, ending.message⟩) := by
  obtain ⟨hcanceled, hlength, hending⟩ := hround.answered hreplies
  have haccepted := acceptedIn_round hround hdeferred.unaccepted
  have hboth : firstAcceptance (f row.record.1) 0 (bound + bound) =
      firstAcceptance (f row.record.1) bound bound := by
    rw [firstAcceptance_add, hdeferred.refused, Option.none_or, Nat.zero_add]
  rw [hdeferred.count] at hlength hending
  have hcount : submittedIn (log ++ roundLog row.record replies) row.record.1 =
      row.submitted (bound + bound) (f row.record.1) := by
    rw [submittedIn_append, submittedIn_roundLog, hdeferred.count, hlength, ImportRow.submitted,
      hdeferred.fault, hboth]
    rfl
  refine ⟨hcanceled, ?_⟩
  obtain ⟨rfl, hsome⟩ | ⟨message, rfl, hnone, hlast⟩ := hending
  · refine ⟨⟨hcount, ?_⟩, .inl rfl⟩
    rw [haccepted, ImportRow.failure_of_accepted hdeferred.fault (by rw [hboth, hsome])]
    rfl
  · have hfailure := ImportRow.failure_of_refused hdeferred.fault (hboth.trans hnone) hlast
    refine ⟨⟨hcount, ?_⟩, .inr hfailure⟩
    rw [haccepted, hfailure]
    rfl

end

namespace Decided

variable {f : Nat → Nat → Option Text} {bound : Nat} {log : List (Submission ρ)}
variable {rows queue left : List (ImportRow (Nat × ρ))} {row : ImportRow (Nat × ρ)}
variable {p p' : Progress (Nat × ρ)} {replies : List Reply}

/-- Only the failures of the progress matter. -/
theorem congr (h : Decided f bound rows queue left p log) (hfailures : p'.failures = p.failures) :
    Decided f bound rows queue left p' log :=
  { h with failures := hfailures ▸ h.failures }

theorem fail (h : Decided f bound rows queue left p log) (hrow : row ∈ rows) {message : Text}
    (hfailure : row.failure (bound + bound) (f row.record.1) =
      some ⟨row.line, row.record, message⟩) :
    Decided f bound rows queue left (p.fail ⟨row.line, row.record, message⟩) log :=
  { h with
    failures := by
      intro e he
      rcases List.mem_append.mp he with he | he
      · exact h.failures e he
      · rw [List.mem_singleton.mp he]
        exact ⟨row, hrow, hfailure⟩ }

variable {queue' left' : List (ImportRow (Nat × ρ))}

/-- The submissions of a row change nothing for the rows that wait beside it. -/
theorem beside (h : Decided f bound rows queue' left' p log)
    (hperm : (row :: (queue ++ left)).Perm (queue' ++ left')) :
    ∀ other ∈ queue ++ left, row.record.1 ≠ other.record.1 := by
  have hnodup := (hperm.map (·.record.1)).nodup_iff.mpr h.apart
  rw [List.map_cons, List.nodup_cons] at hnodup
  intro other hother heq
  rw [heq] at hnodup
  exact hnodup.1 (List.mem_map_of_mem hother)

/-- The submissions of a row change nothing for the rows that are done with. -/
theorem behind (h : Decided f bound rows queue' left' p log)
    (hperm : (row :: (queue ++ left)).Perm (queue' ++ left'))
    (hnumbers : (rows.map (·.record.1)).Nodup) (replies : List Reply) :
    ∀ other ∈ rows, other = row ∨ other ∈ queue ++ left ∨
      Concluded f (bound + bound) (log ++ roundLog row.record replies) other := by
  intro other hother
  by_cases hsame : row.record.1 = other.record.1
  · have hrow := h.known row (hperm.subset List.mem_cons_self)
    exact .inl (List.inj_on_of_nodup_map hnumbers hother hrow hsame.symm)
  rcases h.concluded other hother with hwaits | hdone
  · rcases List.mem_cons.mp (hperm.mem_iff.mpr hwaits) with rfl | hwaits
    · exact .inl rfl
    · exact .inr (.inl hwaits)
  · exact .inr (.inr (hdone.kept hsame replies))

/-- The submissions of a row after which it is done with. -/
theorem conclude (h : Decided f bound rows queue' left' p log)
    (hperm : (row :: (queue ++ left)).Perm (queue' ++ left')) (hqueue : queue ⊆ queue')
    (hleft : left ⊆ left') (hnumbers : (rows.map (·.record.1)).Nodup)
    (hrow : Concluded f (bound + bound) (log ++ roundLog row.record replies) row) :
    Decided f bound rows queue left p (log ++ roundLog row.record replies) where
  known other hother := h.known other (hperm.subset (List.mem_cons_of_mem _ hother))
  apart := (List.nodup_cons.mp ((hperm.map (·.record.1)).nodup_iff.mpr h.apart)).2
  concluded other hother := by
    rcases h.behind hperm hnumbers replies other hother with rfl | hothers
    · exact .inr hrow
    · exact hothers
  deferred other hother :=
    (h.deferred other (hqueue hother)).kept
      (h.beside hperm other (List.mem_append_left _ hother)) replies
  fresh other hother := by
    rw [submittedIn_other (h.beside hperm other (List.mem_append_right _ hother)) replies]
    exact h.fresh other (hleft hother)
  failures := h.failures

/-- The submissions of a row after which it is queued. -/
theorem defer (h : Decided f bound rows queue (row :: left) p log)
    (hnumbers : (rows.map (·.record.1)).Nodup)
    (hrow : Deferred f bound (log ++ roundLog row.record replies) row) :
    Decided f bound rows (queue ++ [row]) left p (log ++ roundLog row.record replies) := by
  have hperm : (row :: (queue ++ left)).Perm (queue ++ row :: left) := List.perm_middle.symm
  have hmove : queue ++ [row] ++ left = queue ++ row :: left := by
    rw [List.append_assoc, List.singleton_append]
  refine ⟨hmove ▸ h.known, hmove ▸ h.apart, ?_, ?_, ?_, h.failures⟩
  · intro other hother
    rw [hmove]
    rcases h.behind hperm hnumbers replies other hother with rfl | hwaits | hdone
    · exact .inl (by simp)
    · exact .inl (hperm.subset (List.mem_cons_of_mem _ hwaits))
    · exact .inr hdone
  · intro other hother
    rcases List.mem_append.mp hother with hother | hother
    · exact (h.deferred other hother).kept
        (h.beside hperm other (List.mem_append_left _ hother)) replies
    · rw [List.mem_singleton.mp hother]
      exact hrow
  · intro other hother
    rw [submittedIn_other (h.beside hperm other (List.mem_append_right _ hother)) replies]
    exact h.fresh other (List.mem_cons_of_mem _ hother)

end Decided

/-! ## The passes -/

variable (submit : Submitter ρ σ)

theorem send_grows {log : List (Submission ρ)} (record : Nat × ρ)
    (s : Session (Nat × ρ) (σ × List (Submission ρ))) (hs : log <+: s.state.2) :
    log <+: (s.send submit.watched record).2.state.2 :=
  hs.trans (List.prefix_append ..)

variable (maxAttempts : Int) {f : Nat → Nat → Option Text} {whole : List (Submission ρ)}
variable {rows : List (ImportRow (Nat × ρ))}

theorem firstTry_decided (hwhole : AnsweredBy f whole) (hnumbers : (rows.map (·.record.1)).Nodup)
    {queue left : List (ImportRow (Nat × ρ))} {row : ImportRow (Nat × ρ)}
    {r : Run (Nat × ρ) (σ × List (Submission ρ))} (hr : r.session.canceled = false)
    (h : Decided f (attemptBound maxAttempts) rows queue (row :: left) r.progress r.session.state.2)
    (hbegins : (firstTry submit.watched maxAttempts row r).2.session.state.2 <+: whole) :
    (firstTry submit.watched maxAttempts row r).2.session.canceled = false ∧
      Decided f (attemptBound maxAttempts) rows
        (if (firstTry submit.watched maxAttempts row r).1 then queue ++ [row] else queue) left
        (firstTry submit.watched maxAttempts row r).2.progress
        (firstTry submit.watched maxAttempts row r).2.session.state.2 := by
  have hrow := h.known row (by simp)
  have hfresh := h.fresh row List.mem_cons_self
  have hperm : (row :: (queue ++ left)).Perm (queue ++ row :: left) := List.perm_middle.symm
  obtain ⟨message, hfault, htry⟩ | ⟨hfault, replies, ending, s', hlog, hround, hcases⟩ :=
    firstTry_cases submit maxAttempts row r hr
  · have hdone : Concluded f (attemptBound maxAttempts + attemptBound maxAttempts)
        (r.session.state.2 ++ roundLog row.record []) row := by
      rw [roundLog, List.map_nil, List.append_nil]
      exact .of_fault hfault hfresh
    have hnext := h.conclude hperm (List.Subset.refl _) (List.subset_cons_self ..) hnumbers hdone
    rw [roundLog, List.map_nil, List.append_nil] at hnext
    rw [htry]
    exact ⟨hr, (hnext.fail hrow (ImportRow.failure_of_fault hfault)).congr rfl⟩
  · have hsession : (firstTry submit.watched maxAttempts row r).2.session = s' := by
      obtain ⟨-, htry⟩ | ⟨-, -, htry⟩ | ⟨-, -, htry⟩ := hcases <;> rw [htry] <;> rfl
    rw [hsession, hlog] at hbegins
    obtain ⟨hs', hsettled⟩ :=
      settle_fresh hround hfault (hwhole.replies row.record replies hbegins) hfresh
    obtain ⟨rfl, htry⟩ | ⟨-, hcanceled, -⟩ | ⟨hending, -, htry⟩ := hcases
    · obtain ⟨-, hdone⟩ | ⟨⟨_, hmessage⟩, -⟩ := hsettled
      · rw [htry]
        refine ⟨hs', ?_⟩
        have hnext :=
          h.conclude hperm (List.Subset.refl _) (List.subset_cons_self ..) hnumbers hdone
        rw [← hlog] at hnext
        exact hnext.congr rfl
      · cases hmessage
    · rw [hs'] at hcanceled
      cases hcanceled
    · obtain ⟨haccepted, -⟩ | ⟨-, hdeferred⟩ := hsettled
      · exact absurd haccepted hending
      · rw [htry]
        refine ⟨hs', ?_⟩
        have hnext := h.defer hnumbers hdeferred
        rw [← hlog] at hnext
        exact hnext.congr rfl

theorem firstPass_decided (hwhole : AnsweredBy f whole)
    (hnumbers : (rows.map (·.record.1)).Nodup) (count : Nat)
    (queue left : List (ImportRow (Nat × ρ))) (r : Run (Nat × ρ) (σ × List (Submission ρ)))
    (hr : r.session.canceled = false)
    (h : Decided f (attemptBound maxAttempts) rows queue left r.progress r.session.state.2)
    (hbegins :
      (firstPass submit.watched maxAttempts count queue left r).2.session.state.2 <+: whole) :
    (firstPass submit.watched maxAttempts count queue left r).2.session.canceled = false ∧
      Decided f (attemptBound maxAttempts) rows
        (firstPass submit.watched maxAttempts count queue left r).1 []
        (firstPass submit.watched maxAttempts count queue left r).2.progress
        (firstPass submit.watched maxAttempts count queue left r).2.session.state.2 := by
  induction left generalizing count queue r with
  | nil => exact ⟨hr, h⟩
  | cons row left ih =>
    unfold firstPass at hbegins ⊢
    simp only [hr, Bool.false_eq_true, if_false] at hbegins ⊢
    have hgrows := firstPass_session (send_grows submit) maxAttempts (count + 1)
      (if (firstTry submit.watched maxAttempts row r).1 then queue ++ [row] else queue) left
      ((firstTry submit.watched maxAttempts row r).2.reach (count + 1)) List.prefix_rfl
    obtain ⟨hcanceled, hnext⟩ :=
      firstTry_decided submit maxAttempts hwhole hnumbers hr h (hgrows.trans hbegins)
    exact ih _ _ _ hcanceled (hnext.congr rfl) hbegins

theorem secondTry_decided (hwhole : AnsweredBy f whole) (hnumbers : (rows.map (·.record.1)).Nodup)
    {queue : List (ImportRow (Nat × ρ))} {row : ImportRow (Nat × ρ)}
    {r : Run (Nat × ρ) (σ × List (Submission ρ))} (hr : r.session.canceled = false)
    (h : Decided f (attemptBound maxAttempts) rows (row :: queue) [] r.progress r.session.state.2)
    (hbegins : (secondTry submit.watched maxAttempts row r).session.state.2 <+: whole) :
    (secondTry submit.watched maxAttempts row r).session.canceled = false ∧
      Decided f (attemptBound maxAttempts) rows queue []
        (secondTry submit.watched maxAttempts row r).progress
        (secondTry submit.watched maxAttempts row r).session.state.2 := by
  have hrow := h.known row List.mem_cons_self
  obtain ⟨replies, ending, s', hlog, hround, hcases⟩ := secondTry_cases submit maxAttempts row r hr
  have hsession : (secondTry submit.watched maxAttempts row r).session = s' := by
    obtain ⟨-, htry⟩ | ⟨-, htry⟩ := hcases <;> rw [htry] <;> rfl
  rw [hsession, hlog] at hbegins
  obtain ⟨hs', hdone, hfailure⟩ := settle_deferred hround
    (hwhole.replies row.record replies hbegins) (h.deferred row List.mem_cons_self)
  have hnext := h.conclude (List.Perm.refl _) (List.subset_cons_self ..) (List.Subset.refl _)
    hnumbers hdone
  rw [← hlog] at hnext
  rw [hsession]
  refine ⟨hs', ?_⟩
  obtain ⟨-, htry⟩ | ⟨hending, htry⟩ := hcases
  · rw [htry]
    exact hnext.congr rfl
  · rw [htry]
    exact (hnext.fail hrow (hfailure.resolve_left hending)).congr rfl

theorem secondPass_decided (hwhole : AnsweredBy f whole)
    (hnumbers : (rows.map (·.record.1)).Nodup) (queue : List (ImportRow (Nat × ρ)))
    (r : Run (Nat × ρ) (σ × List (Submission ρ))) (hr : r.session.canceled = false)
    (h : Decided f (attemptBound maxAttempts) rows queue [] r.progress r.session.state.2)
    (hbegins : (secondPass submit.watched maxAttempts queue r).session.state.2 <+: whole) :
    Decided f (attemptBound maxAttempts) rows [] []
      (secondPass submit.watched maxAttempts queue r).progress
      (secondPass submit.watched maxAttempts queue r).session.state.2 := by
  induction queue generalizing r with
  | nil => exact h
  | cons row queue ih =>
    unfold secondPass at hbegins ⊢
    simp only [hr, Bool.false_eq_true, if_false] at hbegins ⊢
    have hgrows := secondPass_session (send_grows submit) maxAttempts queue
      (secondTry submit.watched maxAttempts row r).publish List.prefix_rfl
    obtain ⟨hcanceled, hnext⟩ :=
      secondTry_decided submit maxAttempts hwhole hnumbers hr h (hgrows.trans hbegins)
    exact ih _ hcanceled (hnext.congr rfl) hbegins

/-! ## Whole imports -/

theorem watchedImport_decided (batch file : Text) (total : Int) (rows : List (ImportRow ρ))
    (state : σ)
    (h : AnsweredBy f (submissions submit maxAttempts batch file total rows state false)) :
    Decided f (attemptBound maxAttempts) (numbered rows) [] []
      (watchedImport submit maxAttempts batch file total rows state false).progress
      (submissions submit maxAttempts batch file total rows state false) := by
  have hnumbers := numbered_nodup rows
  let start : Run (Nat × ρ) (σ × List (Submission ρ)) :=
    { progress := { batch, file, total }, session := { state := (state, []) } }
  have hstart : Decided f (attemptBound maxAttempts) (numbered rows) [] (numbered rows)
      start.progress start.session.state.2 :=
    ⟨fun _ hrow => hrow, hnumbers, fun _ hrow => .inl hrow,
      fun _ hrow => absurd hrow List.not_mem_nil, fun _ _ => rfl,
      fun _ he => absurd he List.not_mem_nil⟩
  have hfirst := firstPass_decided submit maxAttempts h hnumbers 0 [] (numbered rows) start rfl
    hstart (secondPass_session (send_grows submit) maxAttempts _ _ List.prefix_rfl)
  exact (secondPass_decided submit maxAttempts h hnumbers _ _ hfirst.1 hfirst.2
    List.prefix_rfl).congr rfl

/-- A list is found again from another one that agrees with it on what tells its members apart. -/
theorem filterMap_of_map_eq {α β κ : Type} {key : α → κ} {key' : β → κ} {g : β → Option α}
    {l : List α} {l' : List β} (h : l.map key = l'.map key')
    (hg : ∀ a ∈ l, ∀ b ∈ l', key a = key' b → g b = some a) : l'.filterMap g = l := by
  induction l' generalizing l with
  | nil => rw [List.map_eq_nil_iff.mp h]; rfl
  | cons b l' ih =>
    cases l with
    | nil => cases h
    | cons a l =>
      rw [List.map_cons, List.map_cons, List.cons.injEq] at h
      rw [List.filterMap_cons_some (hg a (by simp) b (by simp) h.1),
        ih h.2 fun a ha b hb => hg a (List.mem_cons_of_mem _ ha) b (List.mem_cons_of_mem _ hb)]

/-- The rows that were accepted. -/
def acceptedRows (log : List (Submission ρ)) (rows : List (ImportRow ρ)) : List (ImportRow ρ) :=
  (rows.zipIdx.filter fun q => acceptedIn log q.2).map (·.1)

/-- What has become of each row, by the answers to its submissions. -/
structure Verdicts (f : Nat → Nat → Option Text) (bound : Nat) (rows : List (ImportRow ρ))
    (p : Progress ρ) (log : List (Submission ρ)) : Prop where
  verdict : ∀ q ∈ rows.zipIdx, acceptedIn log q.2 = (q.1.failure bound (f q.2)).isNone
  count : ∀ q ∈ rows.zipIdx, submittedIn log q.2 = q.1.submitted bound (f q.2)
  accepted : p.accepted = (acceptedRows log rows).length
  failed : p.failed = p.failures.length
  failures : p.failures.Perm (rows.zipIdx.filterMap fun q => q.1.failure bound (f q.2))

theorem numbered_failures (rows : List (ImportRow ρ)) (bound : Nat) :
    ((numbered rows).filterMap fun row => row.failure bound (f row.record.1)).map
        (RowFailure.map Prod.snd) =
      rows.zipIdx.filterMap fun q => q.1.failure bound (f q.2) := by
  rw [numbered, List.filterMap_map, List.map_filterMap]
  refine List.filterMap_congr fun q _ => ?_
  simp only [Function.comp_apply, ImportRow.failure_map, Option.map_map]
  exact Option.map_id_apply ..

theorem runImport_settles (batch file : Text) (total : Int) (rows : List (ImportRow ρ)) (state : σ)
    (h : AnsweredBy f (submissions submit maxAttempts batch file total rows state false)) :
    Verdicts f (attemptBound maxAttempts + attemptBound maxAttempts) rows
      (runImport submit maxAttempts batch file total rows { state }).progress
      (submissions submit maxAttempts batch file total rows state false) := by
  have hdecided := watchedImport_decided submit maxAttempts batch file total rows state h
  have hrow : ∀ q ∈ rows.zipIdx, Concluded f (attemptBound maxAttempts + attemptBound maxAttempts)
      (submissions submit maxAttempts batch file total rows state false)
      (q.1.map fun record => (q.2, record)) := fun q hq =>
    (hdecided.concluded _ (List.mem_map_of_mem hq)).resolve_left List.not_mem_nil
  obtain ⟨accepted, failed, htally⟩ :=
    watchedImport_tally submit maxAttempts batch file total rows state false
  obtain ⟨hyes, hno⟩ := htally.settled
  have hprogress : (runImport submit maxAttempts batch file total rows { state }).progress =
      (watchedImport submit maxAttempts batch file total rows state false).progress.map Prod.snd :=
    congrArg Run.progress
      (watchedImport_map submit maxAttempts batch file total rows state false).symm
  have hfailures : failed.filterMap (fun row => row.failure
        (attemptBound maxAttempts + attemptBound maxAttempts) (f row.record.1)) =
      (watchedImport submit maxAttempts batch file total rows state false).progress.failures := by
    refine filterMap_of_map_eq htally.failures fun e he row hrow heq => ?_
    obtain ⟨source, hsource, hfailure⟩ := hdecided.failures e he
    have hsame : source.record = row.record := by
      rw [← (ImportRow.failure_fields hfailure).2]
      exact congrArg Prod.snd heq
    have hmem : row ∈ numbered rows := List.mem_of_mem_filter (hno.subset hrow)
    obtain rfl : source = row := List.inj_on_of_nodup_map (numbered_nodup rows) hsource hmem
      (congrArg Prod.fst hsame)
    exact hfailure
  refine ⟨fun q hq => ?_, fun q hq => (hrow q hq).count, ?_, ?_, ?_⟩
  · have hverdict := (hrow q hq).verdict
    rwa [ImportRow.failure_map, Option.isNone_map] at hverdict
  · rw [hprogress]
    refine htally.accepted_count.trans ?_
    rw [hyes.length_eq, filter_numbered rows (acceptedIn _), List.length_map, acceptedRows,
      List.length_map]
  · rw [hprogress]
    refine htally.failed_count.trans ?_
    have hlength := congrArg List.length htally.failures
    rw [List.length_map, List.length_map] at hlength
    rw [← hlength, Progress.map, List.length_map]
  · rw [hprogress, Progress.map, ← hfailures, ← numbered_failures]
    refine List.Perm.map _ ((hno.filterMap _).trans (.of_eq ?_))
    rw [List.filterMap_filter]
    refine List.filterMap_congr fun row hmem => ?_
    have hverdict := ((hdecided.concluded row hmem).resolve_left List.not_mem_nil).verdict
    rw [hverdict]
    cases row.failure (attemptBound maxAttempts + attemptBound maxAttempts) (f row.record.1) <;> rfl

theorem kept_heading (rows : List (ImportRow ρ)) (batch file : Text) (total : Int) :
    Progress.Kept rows fun p => p.batch = batch ∧ p.file = file ∧ p.total = total := by
  constructor <;> intros <;> assumption

/-- The progress of a finished import, but for its counts and failures. -/
theorem runImport_finished (batch file : Text) (total : Int) (rows : List (ImportRow ρ))
    (s : Session ρ σ) :
    let p := (runImport submit maxAttempts batch file total rows s).progress
    p = { batch, file, total, current := total, accepted := p.accepted, failed := p.failed
          failures := p.failures, done := true } := by
  intro p
  have hshows : (runImport submit maxAttempts batch file total rows s).Shows
      fun p => p.batch = batch ∧ p.file = file ∧ p.total = total :=
    Run.Shows.runImport (kept_heading rows batch file total) submit maxAttempts ⟨rfl, rfl, rfl⟩ s
  obtain ⟨hbatch, hfile, htotal⟩ : p.batch = batch ∧ p.file = file ∧ p.total = total := hshows.own
  have hrest : p = { batch := p.batch, file := p.file, total := p.total, current := p.total
                     accepted := p.accepted, failed := p.failed, failures := p.failures
                     done := true } := rfl
  rw [hbatch, hfile, htotal] at hrest
  exact hrest

theorem acceptedRows_perm {f f' : Nat → Nat → Option Text} {bound : Nat}
    {rows rows' : List (ImportRow ρ)} {p p' : Progress ρ} {log log' : List (Submission ρ)}
    (h : Verdicts f bound rows p log) (h' : Verdicts f' bound rows' p' log')
    (hperm : (rows'.zipIdx.map fun q => (q.1, f' q.2)).Perm
      (rows.zipIdx.map fun q => (q.1, f q.2))) :
    (acceptedRows log' rows').Perm (acceptedRows log rows) ∧ p'.failures.Perm p.failures := by
  -- both are read off the rows with their answers
  have haccepted {f : Nat → Nat → Option Text} {rows : List (ImportRow ρ)} {p : Progress ρ}
      {log : List (Submission ρ)} (h : Verdicts f bound rows p log) :
      acceptedRows log rows = ((rows.zipIdx.map fun q => (q.1, f q.2)).filter fun q =>
        (q.1.failure bound q.2).isNone).map (·.1) := by
    rw [acceptedRows, List.filter_map, List.map_map, List.filter_congr h.verdict]
    rfl
  have hfailures {f : Nat → Nat → Option Text} {rows : List (ImportRow ρ)} :
      (rows.zipIdx.filterMap fun q => q.1.failure bound (f q.2)) =
        (rows.zipIdx.map fun q => (q.1, f q.2)).filterMap fun q => q.1.failure bound q.2 := by
    rw [List.filterMap_map]
    rfl
  constructor
  · rw [haccepted h, haccepted h']
    exact (hperm.filter _).map _
  · refine h'.failures.trans (List.Perm.trans ?_ h.failures.symm)
    rw [hfailures, hfailures]
    exact hperm.filterMap _

/-- What becomes of the rows of an import that is not canceled, when the answer to each submission is
fixed by the row and by how often it was submitted. A row is accepted exactly if it has no fault and
one of as many submissions as both passes allow is accepted; it is submitted up to the first of these,
or so often; and the other rows fail with their fault or their last answer. So whatever the order of
the rows, the same rows are accepted, the same failures are told, and nothing else differs. -/
theorem runImport_verdicts (batch file : Text) (total : Int) (rows : List (ImportRow ρ)) (state : σ)
    (h : AnsweredBy f (submissions submit maxAttempts batch file total rows state false)) :
    let r := runImport submit maxAttempts batch file total rows { state }
    let p := r.progress
    let log := submissions submit maxAttempts batch file total rows state false
    let bound := 2 * max 1 maxAttempts.toNat
    r.session.sent = log.map (·.record) ∧
    (∀ i row, rows[i]? = some row →
      (acceptedIn log i = true ↔
        row.fault = none ∧ ∃ j, 1 ≤ j ∧ j ≤ bound ∧ f i j = none) ∧
      submittedIn log i = row.submitted bound (f i)) ∧
    p.accepted = (acceptedRows log rows).length ∧
    p.failures.Perm (rows.zipIdx.filterMap fun q => q.1.failure bound (f q.2)) ∧
    ∀ {σ' : Type} (submit' : Submitter ρ σ') (rows' : List (ImportRow ρ)) (state' : σ')
      (f' : Nat → Nat → Option Text),
      AnsweredBy f' (submissions submit' maxAttempts batch file total rows' state' false) →
      (rows'.zipIdx.map fun q => (q.1, f' q.2)).Perm (rows.zipIdx.map fun q => (q.1, f q.2)) →
      let p' := (runImport submit' maxAttempts batch file total rows' { state := state' }).progress
      let log' := submissions submit' maxAttempts batch file total rows' state' false
      (acceptedRows log' rows').Perm (acceptedRows log rows) ∧
        p'.failures.Perm p.failures ∧ p' = { p with failures := p'.failures } := by
  intro r p log bound
  have hbound : bound = attemptBound maxAttempts + attemptBound maxAttempts := Nat.two_mul _
  have hpos : 0 < bound := by
    have hone : 1 ≤ max 1 maxAttempts.toNat := Nat.le_max_left ..
    omega
  have hverdicts : Verdicts f bound rows p log :=
    hbound ▸ runImport_settles submit maxAttempts batch file total rows state h
  refine ⟨sent_eq_submissions .., fun i row hrow => ?_, hverdicts.accepted, hverdicts.failures, ?_⟩
  · have hmem : (row, i) ∈ rows.zipIdx := List.mem_zipIdx_iff_getElem?.mpr hrow
    refine ⟨?_, hverdicts.count _ hmem⟩
    rw [hverdicts.verdict _ hmem]
    exact ImportRow.failure_isNone hpos
  · intro σ' submit' rows' state' f' h' hperm p' log'
    have hverdicts' : Verdicts f' bound rows' p' log' :=
      hbound ▸ runImport_settles submit' maxAttempts batch file total rows' state' h'
    obtain ⟨haccepted, hfailures⟩ := acceptedRows_perm hverdicts hverdicts' hperm
    refine ⟨haccepted, hfailures, ?_⟩
    have hp := runImport_finished submit maxAttempts batch file total rows { state }
    have hp' := runImport_finished submit' maxAttempts batch file total rows' { state := state' }
    change p = _ at hp
    change p' = _ at hp'
    have hcounts : p'.accepted = p.accepted ∧ p'.failed = p.failed := by
      rw [hverdicts'.accepted, hverdicts.accepted, hverdicts'.failed, hverdicts.failed]
      exact ⟨haccepted.length_eq, hfailures.length_eq⟩
    rw [hp', hp, hcounts.1, hcounts.2]

end

/-- Three rows, the second of them with a fault. -/
def rowsOfBusy : List (ImportRow Text) :=
  [{ line := 2, record := "a" }, { line := 3, record := "b", fault := some "missing brand" },
    { line := 4, record := "c" }]

/-- The first row is never accepted, and the third one when it is submitted for the second time. -/
def answersOfBusy (row made : Nat) : Option Text :=
  if row = 0 then some (if made < 4 then "busy" else "closed")
  else if made < 2 then some "busy" else none

/-- The rows in the order of the file and in the opposite one, with two attempts in each pass. -/
theorem rowsOfBusy_verdicts :
    let forth := runImport Script.submitter 2 "1" "in.csv" 3 rowsOfBusy
      { state := { answers := [some "busy", some "busy", some "busy", none, some "busy",
        some "closed"] } }
    let back := runImport Script.submitter 2 "1" "in.csv" 3 rowsOfBusy.reverse
      { state := { answers := [some "busy", none, some "busy", some "busy", some "busy",
        some "closed"] } }
    forth.progress.failures.map (fun e => (e.line, e.message)) =
        ([(3, "missing brand"), (2, "closed")] : List (Int × Text)) ∧
      forth.session.sent = (["a", "a", "c", "c", "a", "a"] : List Text) ∧
      back.progress.failures.Perm forth.progress.failures ∧
      back.progress = { forth.progress with failures := back.progress.failures } := by
  intro forth back
  have hforth : AnsweredBy answersOfBusy
      (submissions Script.submitter 2 "1" "in.csv" 3 rowsOfBusy
        { answers := [some "busy", some "busy", some "busy", none, some "busy", some "closed"] }
        false) := by decide +kernel
  have hback : AnsweredBy (fun i => answersOfBusy (2 - i))
      (submissions Script.submitter 2 "1" "in.csv" 3 rowsOfBusy.reverse
        { answers := [some "busy", none, some "busy", some "busy", some "busy", some "closed"] }
        false) := by decide +kernel
  have hswapped : (rowsOfBusy.reverse.zipIdx.map fun q => (q.1, answersOfBusy (2 - q.2))).Perm
      (rowsOfBusy.zipIdx.map fun q => (q.1, answersOfBusy q.2)) := by
    have hreverse : (rowsOfBusy.reverse.zipIdx.map fun q => (q.1, answersOfBusy (2 - q.2))) =
        (rowsOfBusy.zipIdx.map fun q => (q.1, answersOfBusy q.2)).reverse := rfl
    rw [hreverse]
    exact List.reverse_perm _
  obtain ⟨-, -, -, -, horder⟩ :=
    runImport_verdicts Script.submitter 2 "1" "in.csv" 3 rowsOfBusy _ hforth
  obtain ⟨-, hfailures, hrest⟩ := horder Script.submitter rowsOfBusy.reverse _
    (fun i => answersOfBusy (2 - i)) hback hswapped
  exact ⟨by decide +kernel, by decide +kernel, hfailures, hrest⟩

end Stockroom

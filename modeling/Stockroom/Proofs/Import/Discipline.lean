import Mathlib.Data.List.Nodup
import Stockroom.Proofs.Import.Rounds

/-!
The order in which an import submits its rows. Each pass goes through its rows in the order of the
file and sends a block of submissions for some of them: none for a row with a fault and none once
the import is canceled. The second pass goes through the rows whose block of the first pass used up
the attempts without being accepted, so nothing is sent again for a row that was accepted.

Main definitions and statements:
* `Block`, `Pass`: the submissions of one row in one pass, and those of a whole pass;
* `firstPass_pass`, `secondPass_pass`: what the passes of an import send;
* `runImport_discipline`: what an import submits, for which rows, how often and until when.
-/
namespace Stockroom
set_option autoImplicit false

section
variable {ρ σ : Type}

/-! ## Blocks and passes -/

/-- The submissions of one row within one pass. -/
structure Block (ρ : Type) where
  row : ImportRow (Nat × ρ)
  replies : List Reply

def Block.log (b : Block ρ) : List (Submission ρ) := roundLog b.row.record b.replies

/-- All attempts were made and refused. -/
def Block.refused (bound : Nat) (b : Block ρ) : Bool :=
  b.replies.length == bound && b.replies.all (·.error.isSome)

/-- The rows that used up their attempts. -/
def refusedRows (bound : Nat) (blocks : List (Block ρ)) : List (ImportRow (Nat × ρ)) :=
  (blocks.filter (Block.refused bound)).map (·.row)

/-- What a pass sends for its rows, with the number of attempts, and whether the import is canceled
before and after it. -/
inductive Pass (bound : Nat) :
    List (ImportRow (Nat × ρ)) → Bool → List (Block ρ) → Bool → Prop where
  | done (canceled : Bool) : Pass bound [] canceled [] canceled
  | cut (rows : List (ImportRow (Nat × ρ))) : Pass bound rows true [] true
  | skip {rows : List (ImportRow (Nat × ρ))} {blocks : List (Block ρ)} {after : Bool}
      (row : ImportRow (Nat × ρ)) (rest : Pass bound rows false blocks after) :
      Pass bound (row :: rows) false blocks after
  | send {rows : List (ImportRow (Nat × ρ))} {blocks : List (Block ρ)} {replies : List Reply}
      {ending : Ending} {canceled after : Bool} (row : ImportRow (Nat × ρ))
      (hfault : row.fault = none) (hround : Round bound replies ending canceled)
      (rest : Pass bound rows canceled blocks after) :
      Pass bound (row :: rows) false (⟨row, replies⟩ :: blocks) after

theorem mem_log {x : Submission ρ} {b : Block ρ} :
    x ∈ b.log ↔ x.row = b.row.record.1 ∧ x.record = b.row.record.2 ∧ x.reply ∈ b.replies := by
  obtain ⟨row, record, reply⟩ := x
  simp only [Block.log, roundLog, List.mem_map, Submission.mk.injEq]
  constructor
  · rintro ⟨y, hy, rfl, rfl, rfl⟩
    exact ⟨rfl, rfl, hy⟩
  · rintro ⟨rfl, rfl, hy⟩
    exact ⟨reply, hy, rfl, rfl, rfl⟩

namespace Pass

variable {bound : Nat} {rows : List (ImportRow (Nat × ρ))} {blocks : List (Block ρ)}
variable {canceled after : Bool}

theorem rows_sublist (h : Pass bound rows canceled blocks after) :
    (blocks.map (·.row)).Sublist rows := by
  induction h with
  | done => exact .slnil
  | cut rows => exact List.nil_sublist rows
  | skip row _ ih => exact ih.cons row
  | send row _ _ _ ih => exact ih.cons_cons row

theorem block_fits (h : Pass bound rows canceled blocks after) :
    ∀ b ∈ blocks, b.row.fault = none ∧ 1 ≤ b.replies.length ∧ b.replies.length ≤ bound := by
  induction h with
  | done | cut => simp
  | skip _ _ ih => exact ih
  | send row hfault hround _ ih =>
    exact List.forall_mem_cons.mpr ⟨⟨hfault, hround.length_pos, hround.length_le⟩, ih⟩

/-- A row is not submitted again within a pass once it was accepted. -/
theorem retried (h : Pass bound rows canceled blocks after) :
    ∀ b ∈ blocks, b.replies.Pairwise fun reply _ => reply.error ≠ none := by
  induction h with
  | done | cut => simp
  | skip _ _ ih => exact ih
  | send row _ hround _ ih =>
    exact List.forall_mem_cons.mpr ⟨hround.retried.imp fun h => h.1, ih⟩

theorem of_canceled (h : Pass bound rows true blocks after) : blocks = [] ∧ after = true := by
  cases h with
  | done | cut => exact ⟨rfl, rfl⟩

theorem not_canceled (h : Pass bound rows canceled blocks false) :
    ∀ x ∈ blocks.flatMap Block.log, x.reply.cancels = false := by
  generalize hafter : false = after at h
  induction h with
  | done | cut => simp
  | skip _ _ ih => exact ih hafter
  | @send _ _ replies _ canceled _ row _ hround rest ih =>
    subst hafter
    intro x hx
    rw [List.flatMap_cons, List.mem_append] at hx
    rcases hx with hx | hx
    · cases canceled with
      | true => cases rest.of_canceled.2
      | false =>
        rw [← Bool.not_eq_true]
        intro hcancels
        exact absurd (hround.canceled_iff.mpr ⟨_, (mem_log.mp hx).2.2, hcancels⟩) (by simp)
    · exact ih rfl x hx

/-- Nothing follows the submission that cancels the import. -/
theorem canceled_last (h : Pass bound rows canceled blocks after) :
    (blocks.flatMap Block.log).Pairwise fun x _ => x.reply.cancels = false := by
  induction h with
  | done | cut => exact .nil
  | skip _ _ ih => exact ih
  | @send _ blocks replies _ canceled _ row _ hround rest ih =>
    have hblock : (roundLog row.record replies).Pairwise fun x _ => x.reply.cancels = false :=
      List.pairwise_map.mpr (hround.retried.imp fun h => h.2)
    rw [List.flatMap_cons, List.pairwise_append]
    refine ⟨hblock, ih, ?_⟩
    intro x hx y hy
    cases canceled with
    | true =>
      rw [rest.of_canceled.1] at hy
      cases hy
    | false =>
      rw [← Bool.not_eq_true]
      intro hcancels
      exact absurd (hround.canceled_iff.mpr ⟨_, (mem_log.mp hx).2.2, hcancels⟩) (by simp)

end Pass

/-! ## What the passes send -/

theorem Round.refused {bound : Nat} {replies : List Reply} {ending : Ending}
    (h : Round bound replies ending false) (hending : ending ≠ .accepted)
    (row : ImportRow (Nat × ρ)) : Block.refused bound ⟨row, replies⟩ = true := by
  have hall : ∀ reply ∈ replies, reply.error.isSome = true := by
    intro reply hreply
    rw [Option.isSome_iff_ne_none]
    exact fun hnone => hending (h.accepted_iff.mpr ⟨reply, hreply, hnone⟩)
  simp only [Block.refused, h.length_eq hending rfl, beq_self_eq_true, Bool.true_and,
    List.all_eq_true]
  exact hall

theorem refusedRows_cons (bound : Nat) (b : Block ρ) (blocks : List (Block ρ)) :
    (refusedRows bound blocks).Sublist (refusedRows bound (b :: blocks)) :=
  ((List.sublist_cons_self b blocks).filter _).map _

variable (submit : Submitter ρ σ) (maxAttempts : Int)

theorem firstPass_pass (count : Nat) (queue rest : List (ImportRow (Nat × ρ)))
    (r : Run (Nat × ρ) (σ × List (Submission ρ))) :
    ∃ blocks,
      (firstPass submit.watched maxAttempts count queue rest r).2.session.state.2 =
        r.session.state.2 ++ blocks.flatMap Block.log ∧
      Pass (attemptBound maxAttempts) rest r.session.canceled blocks
        (firstPass submit.watched maxAttempts count queue rest r).2.session.canceled ∧
      (firstPass submit.watched maxAttempts count queue rest r).1.Sublist
        (queue ++ refusedRows (attemptBound maxAttempts) blocks) := by
  induction rest generalizing count queue r with
  | nil => exact ⟨[], by simp [firstPass], .done _, by simp [firstPass]⟩
  | cons row rest ih =>
    unfold firstPass
    by_cases hc : r.session.canceled = true
    · simp only [hc, if_true, failAll_session]
      exact ⟨[], by simp, .cut _, List.nil_sublist _⟩
    have hc : r.session.canceled = false := by simpa using hc
    simp only [hc, Bool.false_eq_true, if_false]
    obtain ⟨message, -, htry⟩ | ⟨hfault, replies, ending, s', hlog, hround, hcases⟩ :=
      firstTry_cases submit maxAttempts row r hc
    · rw [htry]
      obtain ⟨blocks, hsent, hpass, hqueue⟩ :=
        ih (count + 1) queue ((r.fail row message).reach (count + 1))
      have hsession : ((r.fail row message).reach (count + 1)).session = r.session := rfl
      rw [hsession, hc] at hpass
      exact ⟨blocks, hsent, .skip row hpass, hqueue⟩
    · -- however the round ended, it is the first block of what is left to send
      have hlog_cons : ∀ blocks : List (Block ρ), s'.state.2 ++ blocks.flatMap Block.log =
          r.session.state.2 ++ (⟨row, replies⟩ :: blocks : List (Block ρ)).flatMap Block.log := by
        intro blocks
        rw [hlog, List.append_assoc, List.flatMap_cons]
        rfl
      obtain ⟨-, htry⟩ | ⟨-, -, htry⟩ | ⟨hending, hs', htry⟩ := hcases <;> rw [htry]
      · obtain ⟨blocks, hsent, hpass, hqueue⟩ :=
          ih (count + 1) queue ({ r with session := s' }.accept.reach (count + 1))
        exact ⟨⟨row, replies⟩ :: blocks, hsent.trans (hlog_cons blocks),
          .send row hfault hround hpass,
          hqueue.trans ((refusedRows_cons ..).append_left queue)⟩
      · obtain ⟨blocks, hsent, hpass, hqueue⟩ := ih (count + 1) queue
          (({ r with session := s' }.fail row canceledMessage).reach (count + 1))
        exact ⟨⟨row, replies⟩ :: blocks, hsent.trans (hlog_cons blocks),
          .send row hfault hround hpass,
          hqueue.trans ((refusedRows_cons ..).append_left queue)⟩
      · obtain ⟨blocks, hsent, hpass, hqueue⟩ := ih (count + 1) (queue ++ [row])
          (({ r with session := s' }.queue row ending.message).reach (count + 1))
        refine ⟨⟨row, replies⟩ :: blocks, hsent.trans (hlog_cons blocks),
          .send row hfault hround hpass, ?_⟩
        rw [hs'] at hround
        rw [refusedRows, List.filter_cons_of_pos (hround.refused hending row), List.map_cons]
        rw [List.append_assoc, List.singleton_append] at hqueue
        exact hqueue

theorem secondPass_pass (queue : List (ImportRow (Nat × ρ)))
    (r : Run (Nat × ρ) (σ × List (Submission ρ))) (hfault : ∀ row ∈ queue, row.fault = none) :
    ∃ blocks,
      (secondPass submit.watched maxAttempts queue r).session.state.2 =
        r.session.state.2 ++ blocks.flatMap Block.log ∧
      Pass (attemptBound maxAttempts) queue r.session.canceled blocks
        (secondPass submit.watched maxAttempts queue r).session.canceled := by
  induction queue generalizing r with
  | nil => exact ⟨[], by simp [secondPass], .done _⟩
  | cons row rest ih =>
    unfold secondPass
    by_cases hc : r.session.canceled = true
    · simp only [hc, if_true, failAll_session]
      exact ⟨[], by simp, .cut _⟩
    have hc : r.session.canceled = false := by simpa using hc
    simp only [hc, Bool.false_eq_true, if_false]
    obtain ⟨hrow, hrest⟩ := List.forall_mem_cons.mp hfault
    obtain ⟨replies, ending, s', hlog, hround, hcases⟩ :=
      secondTry_cases submit maxAttempts row r hc
    have hsession : (secondTry submit.watched maxAttempts row r).publish.session = s' := by
      obtain ⟨-, htry⟩ | ⟨-, htry⟩ := hcases <;> rw [htry] <;> rfl
    obtain ⟨blocks, hsent, hpass⟩ :=
      ih (secondTry submit.watched maxAttempts row r).publish hrest
    rw [hsession] at hsent hpass
    refine ⟨⟨row, replies⟩ :: blocks, ?_, .send row hrow hround hpass⟩
    rw [hsent, hlog, List.append_assoc, List.flatMap_cons]
    rfl

/-! ## Blocks of different rows -/

section
variable {bound : Nat} {rows queue : List (ImportRow (Nat × ρ))} {first second : List (Block ρ)}
variable {canceled between after : Bool}

/-- A pass has one block for a row at most. -/
theorem Pass.rows_differ (h : Pass bound rows canceled first after)
    (hrows : rows.Pairwise fun a b => a.record.1 ≠ b.record.1) :
    first.Pairwise fun a b => a.row.record.1 ≠ b.row.record.1 := by
  have hblocks := hrows.sublist h.rows_sublist
  rwa [List.pairwise_map] at hblocks

theorem Pass.never_after_accepted (h : Pass bound rows canceled first after)
    (hrows : rows.Pairwise fun a b => a.record.1 ≠ b.record.1) :
    (first.flatMap Block.log).Pairwise fun x y => x.row = y.row → x.reply.error ≠ none := by
  rw [List.pairwise_flatMap]
  constructor
  · intro b hb
    rw [Block.log, roundLog, List.pairwise_map]
    refine (h.retried b hb).imp ?_
    intro _ _ hreply _
    exact hreply
  · refine (h.rows_differ hrows).imp ?_
    intro a b hne x hx y hy hrow
    rw [(mem_log.mp hx).1, (mem_log.mp hy).1] at hrow
    exact absurd hrow hne

theorem Pass.row_count (h : Pass bound rows canceled first after)
    (hrows : rows.Pairwise fun a b => a.record.1 ≠ b.record.1) (i : Nat) :
    ((first.flatMap Block.log).filter fun x => x.row == i).length ≤ bound := by
  have hfits := h.block_fits
  have hdiffer := h.rows_differ hrows
  clear h
  induction first with
  | nil => exact Nat.zero_le _
  | cons b rest ih =>
    obtain ⟨hb, hrest⟩ := List.forall_mem_cons.mp hfits
    obtain ⟨hne, hdiffer⟩ := List.pairwise_cons.mp hdiffer
    rw [List.flatMap_cons, List.filter_append, List.length_append]
    -- the row has its submissions in this block, or all of them in later ones
    by_cases hi : b.row.record.1 = i
    · have hnone : (rest.flatMap Block.log).filter (fun x => x.row == i) = [] := by
        rw [List.filter_eq_nil_iff]
        intro x hx
        obtain ⟨c, hc, hx⟩ := List.mem_flatMap.mp hx
        rw [(mem_log.mp hx).1, ← hi, beq_iff_eq]
        exact fun heq => hne c hc heq.symm
      have hlength : b.log.length ≤ bound := by
        rw [Block.log, roundLog, List.length_map]
        exact hb.2.2
      rw [hnone]
      exact Nat.le_trans (List.length_filter_le ..) hlength
    · have hnone : b.log.filter (fun x => x.row == i) = [] := by
        rw [List.filter_eq_nil_iff]
        intro x hx
        rw [(mem_log.mp hx).1, beq_iff_eq]
        exact hi
      rw [hnone, List.length_nil, Nat.zero_add]
      exact ih hrest hdiffer

/-- What is submitted again in the second pass was refused throughout the first. -/
theorem refused_before (hsecond : Pass bound queue between second after)
    (hqueue : queue.Sublist (refusedRows bound first)) :
    ∀ b ∈ second, ∃ a ∈ first, a.row = b.row ∧ a.replies.length = bound ∧
      ∀ reply ∈ a.replies, reply.error ≠ none := by
  intro b hb
  have hrow : b.row ∈ refusedRows bound first :=
    hqueue.subset (hsecond.rows_sublist.subset (List.mem_map_of_mem hb))
  obtain ⟨a, ha, harow⟩ := List.mem_map.mp hrow
  obtain ⟨ha, hrefused⟩ := List.mem_filter.mp ha
  rw [Block.refused, Bool.and_eq_true, beq_iff_eq, List.all_eq_true] at hrefused
  refine ⟨a, ha, harow, hrefused.1, ?_⟩
  intro reply hreply
  exact Option.isSome_iff_ne_none.mp (hrefused.2 reply hreply)

theorem refusedRows_sublist (h : Pass bound rows canceled first between)
    (hqueue : queue.Sublist (refusedRows bound first)) : queue.Sublist rows :=
  hqueue.trans ((List.filter_sublist.map _).trans h.rows_sublist)

theorem passes_never_after_accepted (hfirst : Pass bound rows canceled first between)
    (hsecond : Pass bound queue between second after)
    (hqueue : queue.Sublist (refusedRows bound first))
    (hrows : rows.Pairwise fun a b => a.record.1 ≠ b.record.1) :
    (first.flatMap Block.log ++ second.flatMap Block.log).Pairwise
      fun x y => x.row = y.row → x.reply.error ≠ none := by
  have hqueued := hrows.sublist (refusedRows_sublist hfirst hqueue)
  rw [List.pairwise_append]
  refine ⟨hfirst.never_after_accepted hrows, hsecond.never_after_accepted hqueued, ?_⟩
  intro x hx y hy hrow
  obtain ⟨b, hb, hx⟩ := List.mem_flatMap.mp hx
  obtain ⟨c, hc, hy⟩ := List.mem_flatMap.mp hy
  obtain ⟨a, ha, harow, -, hrefused⟩ := refused_before hsecond hqueue c hc
  -- the first block of the row is the one that was refused
  have hab : a = b := by
    have hsame : a.row.record.1 = b.row.record.1 := by
      rw [harow, ← (mem_log.mp hx).1, ← (mem_log.mp hy).1, hrow]
    have hnodup : (first.map (·.row.record.1)).Nodup :=
      List.pairwise_map.mpr (hfirst.rows_differ hrows)
    exact List.inj_on_of_nodup_map hnodup ha hb hsame
  subst hab
  exact hrefused _ (mem_log.mp hx).2.2

theorem passes_canceled_last (hfirst : Pass bound rows canceled first between)
    (hsecond : Pass bound queue between second after) :
    (first.flatMap Block.log ++ second.flatMap Block.log).Pairwise
      fun x _ => x.reply.cancels = false := by
  rw [List.pairwise_append]
  refine ⟨hfirst.canceled_last, hsecond.canceled_last, ?_⟩
  intro x hx y hy
  cases between with
  | false => exact hfirst.not_canceled x hx
  | true =>
    rw [hsecond.of_canceled.1] at hy
    cases hy

end

/-! ## Whole imports -/

theorem watchedImport_passes (batch file : Text) (total : Int) (rows : List (ImportRow ρ))
    (state : σ) (canceled : Bool) :
    ∃ first second queue between after,
      submissions submit maxAttempts batch file total rows state canceled =
        first.flatMap Block.log ++ second.flatMap Block.log ∧
      Pass (attemptBound maxAttempts) (numbered rows) canceled first between ∧
      Pass (attemptBound maxAttempts) queue between second after ∧
      queue.Sublist (refusedRows (attemptBound maxAttempts) first) := by
  let start : Run (Nat × ρ) (σ × List (Submission ρ)) :=
    { progress := { batch, file, total }, session := { state := (state, []), canceled } }
  obtain ⟨first, hlog, hfirst, hqueue⟩ :=
    firstPass_pass submit maxAttempts 0 [] (numbered rows) start
  -- a row is queued after its block, so it has no fault
  have hfault : ∀ row ∈ (firstPass submit.watched maxAttempts 0 [] (numbered rows) start).1,
      row.fault = none := by
    intro row hrow
    obtain ⟨b, hb, rfl⟩ := List.mem_map.mp (hqueue.subset hrow)
    exact (hfirst.block_fits b (List.mem_filter.mp hb).1).1
  obtain ⟨second, hlog', hsecond⟩ := secondPass_pass submit maxAttempts
    (firstPass submit.watched maxAttempts 0 [] (numbered rows) start).1
    (firstPass submit.watched maxAttempts 0 [] (numbered rows) start).2 hfault
  refine ⟨first, second, _, _, _, ?_, hfirst, hsecond, hqueue⟩
  rw [hlog] at hlog'
  exact hlog'

theorem numbered_differ (rows : List (ImportRow ρ)) :
    (numbered rows).Pairwise fun a b => a.record.1 ≠ b.record.1 :=
  List.pairwise_map.mp (numbered_nodup rows)

theorem mem_numbered {rows : List (ImportRow ρ)} {row : ImportRow (Nat × ρ)}
    (h : row ∈ numbered rows) : rows[row.record.1]? = some (row.map Prod.snd) := by
  obtain ⟨⟨source, i⟩, hmem, rfl⟩ := List.mem_map.mp h
  exact List.mem_zipIdx_iff_getElem?.mp hmem

theorem accepted_once {log : List (Submission ρ)}
    (h : log.Pairwise fun x y => x.row = y.row → x.reply.error ≠ none) (i : Nat) :
    (log.filter fun x => x.row == i && x.reply.error.isNone).length ≤ 1 := by
  have hmem : ∀ x ∈ log.filter fun x => x.row == i && x.reply.error.isNone,
      x.row = i ∧ x.reply.error = none := by
    intro x hx
    simpa using (List.mem_filter.mp hx).2
  have hpairs := h.sublist (List.filter_sublist (p := fun x => x.row == i && x.reply.error.isNone))
  generalize log.filter (fun x => x.row == i && x.reply.error.isNone) = hits at hmem hpairs ⊢
  match hits with
  | [] => exact Nat.zero_le 1
  | [_] => exact Nat.le_refl 1
  | x :: y :: _ =>
    have hx := hmem x (by simp)
    have hy := hmem y (by simp)
    have hrefused := (List.pairwise_cons.mp hpairs).1 y (by simp) (hx.1.trans hy.1.symm)
    exact absurd hx.2 hrefused

/-- An entry after which nothing may follow is the last one. -/
theorem length_of_last {α : Type} {P : α → Bool} {log : List α}
    (h : log.Pairwise fun x _ => P x = false) {n : Nat} {x : α} (hx : log[n]? = some x)
    (hP : P x = true) : log.length = n + 1 := by
  obtain ⟨hn, hget⟩ := List.getElem?_eq_some_iff.mp hx
  rcases Nat.lt_or_ge (n + 1) log.length with hlt | hge
  · have hfalse := List.pairwise_iff_getElem.mp h n (n + 1) hn hlt (Nat.lt_succ_self n)
    rw [hget, hP] at hfalse
    cases hfalse
  · omega

/-- What an import submits. It makes one pass over the rows and another over rows whose attempts
were used up in the first, each in the order of the file and with as many submissions at a time as
attempts are allowed; a row with a fault is never submitted, a row that was accepted is not
submitted again, and the submission that cancels the import is the last. -/
theorem runImport_discipline (batch file : Text) (total : Int) (rows : List (ImportRow ρ))
    (state : σ) (canceled : Bool) :
    let r := runImport submit maxAttempts batch file total rows { state, canceled }
    let log := submissions submit maxAttempts batch file total rows state canceled
    let bound := max 1 maxAttempts.toNat
    r.session.sent = log.map (·.record) ∧
      (∃ first second : List (Block ρ),
        log = first.flatMap Block.log ++ second.flatMap Block.log ∧
        (first.map (·.row)).Sublist (numbered rows) ∧
        (second.map (·.row)).Sublist (numbered rows) ∧
        (∀ b ∈ first ++ second, 1 ≤ b.replies.length ∧ b.replies.length ≤ bound) ∧
        ∀ b ∈ second, ∃ a ∈ first, a.row = b.row ∧ a.replies.length = bound ∧
          ∀ reply ∈ a.replies, reply.error ≠ none) ∧
      (∀ x ∈ log, ∃ row, rows[x.row]? = some row ∧ row.record = x.record ∧ row.fault = none) ∧
      (log.Pairwise fun x y => x.row = y.row → x.reply.error ≠ none) ∧
      (∀ i, (log.filter fun x => x.row == i && x.reply.error.isNone).length ≤ 1) ∧
      (∀ i, (log.filter fun x => x.row == i).length ≤ 2 * bound) ∧
      (∀ n x, log[n]? = some x → x.reply.cancels = true → log.length = n + 1) ∧
      (canceled = true → log = []) := by
  intro r log bound
  obtain ⟨first, second, queue, between, after, hlog, hfirst, hsecond, hqueue⟩ :=
    watchedImport_passes submit maxAttempts batch file total rows state canceled
  change log = _ at hlog
  have hrows := numbered_differ rows
  have hsublist := refusedRows_sublist hfirst hqueue
  have hblocks : ∀ b ∈ first ++ second, b.row ∈ numbered rows ∧ b.row.fault = none := by
    intro b hb
    rcases List.mem_append.mp hb with hb | hb
    · exact ⟨hfirst.rows_sublist.subset (List.mem_map_of_mem hb), (hfirst.block_fits b hb).1⟩
    · exact ⟨hsublist.subset (hsecond.rows_sublist.subset (List.mem_map_of_mem hb)),
        (hsecond.block_fits b hb).1⟩
  have hretried : log.Pairwise fun x y => x.row = y.row → x.reply.error ≠ none := by
    rw [hlog]
    exact passes_never_after_accepted hfirst hsecond hqueue hrows
  refine ⟨sent_eq_submissions .., ⟨first, second, hlog, hfirst.rows_sublist,
    hsecond.rows_sublist.trans hsublist, ?_, refused_before hsecond hqueue⟩, ?_, hretried, ?_, ?_,
    ?_, ?_⟩
  · intro b hb
    rcases List.mem_append.mp hb with hb | hb
    · exact (hfirst.block_fits b hb).2
    · exact (hsecond.block_fits b hb).2
  · intro x hx
    obtain ⟨b, hb, hmem⟩ : ∃ b ∈ first ++ second, x ∈ b.log := by
      rw [hlog, ← List.flatMap_append] at hx
      exact List.mem_flatMap.mp hx
    obtain ⟨hrow, hrecord, -⟩ := mem_log.mp hmem
    obtain ⟨hnumbered, hfault⟩ := hblocks b hb
    rw [hrow, hrecord]
    exact ⟨_, mem_numbered hnumbered, rfl, hfault⟩
  · exact accepted_once hretried
  · intro i
    rw [hlog, List.filter_append, List.length_append, Nat.two_mul]
    exact Nat.add_le_add (hfirst.row_count hrows i)
      (hsecond.row_count (hrows.sublist hsublist) i)
  · intro n x hx hcancels
    have hlast := passes_canceled_last hfirst hsecond
    rw [← hlog] at hlast
    exact length_of_last hlast hx hcancels
  · rintro rfl
    obtain ⟨rfl, rfl⟩ := hfirst.of_canceled
    obtain ⟨rfl, rfl⟩ := hsecond.of_canceled
    exact hlog

end
end Stockroom

import Stockroom.Proofs.Import.Shown

/-!
The progress that an import publishes adds up at every time. As long as no row has the line of
another, the rows gone through are those accepted, those failed and those queued, the queue is in the
order of the file and no line in it has failed. From one published progress to the next the counts
only grow and failures are only added behind the others. The last one is the result of the import,
and no other says that the import is done.

Between two of them this need not hold: a row that is being submitted once more is neither queued nor
counted, and a canceled import fails rows without taking them out of the queue. So what the passes
keep is said of the rows, and what is published follows from it.

Main definitions and statements:
* `Progress.Balanced`, `Progress.Before`: one published progress, and two after one another;
* `Progress.Stands`: where the rows are between two rows of a pass;
* `firstPass_told`, `secondPass_told`: what the passes publish;
* `runImport_published`: what a whole import publishes.
-/
namespace Stockroom
set_option autoImplicit false

section
variable {ρ σ : Type}

/-! ## Published progress -/

namespace Progress

/-- The counts of a progress add up, and its queue is in the order of the file and without lines that
failed. -/
structure Balanced (rows : List (ImportRow ρ)) (p : Progress ρ) : Prop where
  balance : (p.accepted : Int) + p.failed + p.queued.length = p.current
  current_le : p.current ≤ p.total
  failures_length : p.failures.length = p.failed
  queued_sublist : p.queued.Sublist (rows.map (·.line))
  apart : ∀ f ∈ p.failures, f.line ∉ p.queued

/-- One import at two times. -/
structure Before (p q : Progress ρ) : Prop where
  total : q.total = p.total
  accepted : p.accepted ≤ q.accepted
  failed : p.failed ≤ q.failed
  current : p.current ≤ q.current
  failures : p.failures <+: q.failures

theorem Before.refl (p : Progress ρ) : p.Before p :=
  ⟨rfl, Nat.le_refl _, Nat.le_refl _, Int.le_refl _, List.prefix_rfl⟩

theorem Before.trans {p q s : Progress ρ} (h : p.Before q) (h' : q.Before s) : p.Before s where
  total := h'.total.trans h.total
  accepted := Nat.le_trans h.accepted h'.accepted
  failed := Nat.le_trans h.failed h'.failed
  current := Int.le_trans h.current h'.current
  failures := h.failures.trans h'.failures

theorem before_accept (p : Progress ρ) : p.Before p.accept :=
  { Before.refl p with accepted := Nat.le_succ _ }

theorem before_fail (p : Progress ρ) (f : RowFailure ρ) : p.Before (p.fail f) :=
  { Before.refl p with failed := Nat.le_succ _, failures := List.prefix_append .. }

/-- A change of the queue is not one of the counts. -/
theorem Before.requeued {p q : Progress ρ} (h : p.Before q) (queued : List Int) :
    p.Before { q with queued } :=
  ⟨h.total, h.accepted, h.failed, h.current, h.failures⟩

theorem Before.reach {p q : Progress ρ} (h : p.Before q) {current : Int} (hc : q.current ≤ current) :
    p.Before { q with current } :=
  ⟨h.total, h.accepted, h.failed, Int.le_trans h.current hc, h.failures⟩

/-! ## Where the rows are -/

/-- Of the rows gone through some are queued, and the others were accepted or have failed. -/
structure Stands (gone queue : List (ImportRow ρ)) (p : Progress ρ) : Prop where
  balance : p.accepted + p.failed + queue.length = gone.length
  queued : p.queued = queue.map (·.line)
  failures_length : p.failures.length = p.failed
  failed_gone : ∀ f ∈ p.failures, f.line ∈ gone.map (·.line)
  apart : ∀ f ∈ p.failures, f.line ∉ queue.map (·.line)
  queue_sublist : queue.Sublist gone

/-- Every row was accepted or has failed. -/
structure Settled (rows : List (ImportRow ρ)) (p : Progress ρ) : Prop where
  balance : p.accepted + p.failed = rows.length
  failures_length : p.failures.length = p.failed
  current_le : p.current ≤ rows.length

namespace Stands

variable {gone queue : List (ImportRow ρ)} {row : ImportRow ρ} {p : Progress ρ}

theorem reach (h : p.Stands gone queue) (current : Int) :
    ({ p with current } : Progress ρ).Stands gone queue :=
  ⟨h.balance, h.queued, h.failures_length, h.failed_gone, h.apart, h.queue_sublist⟩

/-- The next row of the file is accepted. -/
theorem accept (h : p.Stands gone queue) (row : ImportRow ρ) :
    p.accept.Stands (gone ++ [row]) queue where
  balance := by
    have hbalance := h.balance
    simp only [Progress.accept, List.length_append, List.length_singleton]
    omega
  queued := h.queued
  failures_length := h.failures_length
  failed_gone f hf := by
    rw [List.map_append]
    exact List.mem_append_left _ (h.failed_gone f hf)
  apart := h.apart
  queue_sublist := h.queue_sublist.trans (List.sublist_append_left ..)

/-- The next row of the file fails. -/
theorem fail (h : p.Stands gone queue) (hnew : row.line ∉ gone.map (·.line)) (message : Text) :
    (p.fail ⟨row.line, row.record, message⟩).Stands (gone ++ [row]) queue where
  balance := by
    have hbalance := h.balance
    simp only [Progress.fail, List.length_append, List.length_singleton]
    omega
  queued := h.queued
  failures_length := by
    simp only [Progress.fail, List.length_append, List.length_singleton, h.failures_length]
  failed_gone f hf := by
    rw [List.map_append]
    rcases List.mem_append.mp hf with hf | hf
    · exact List.mem_append_left _ (h.failed_gone f hf)
    · rw [List.mem_singleton.mp hf]
      exact List.mem_append_right _ (List.mem_singleton_self row.line)
  apart f hf := by
    rcases List.mem_append.mp hf with hf | hf
    · exact h.apart f hf
    · rw [List.mem_singleton.mp hf]
      exact fun hqueued => hnew ((h.queue_sublist.map _).subset hqueued)
  queue_sublist := h.queue_sublist.trans (List.sublist_append_left ..)

/-- The next row of the file is queued. -/
theorem enqueue (h : p.Stands gone queue) (hnew : row.line ∉ gone.map (·.line)) :
    (p.queue row.line).Stands (gone ++ [row]) (queue ++ [row]) where
  balance := by
    have hbalance := h.balance
    simp only [Progress.queue, List.length_append, List.length_singleton]
    omega
  queued := by rw [Progress.queue, h.queued, List.map_append, List.map_singleton]
  failures_length := h.failures_length
  failed_gone f hf := by
    rw [List.map_append]
    exact List.mem_append_left _ (h.failed_gone f hf)
  apart f hf := by
    rw [List.map_append, List.mem_append, List.map_singleton, List.mem_singleton, not_or]
    refine ⟨h.apart f hf, fun heq => hnew ?_⟩
    rw [← heq]
    exact h.failed_gone f hf
  queue_sublist := h.queue_sublist.append_right [row]

/-- The first row of the queue leaves it alone, as no other has its line. -/
theorem unqueue_queued (h : p.Stands gone (row :: queue)) (hlines : (gone.map (·.line)).Nodup) :
    (p.unqueue row.line).queued = queue.map (·.line) ∧ row.line ∉ queue.map (·.line) := by
  have hnodup := hlines.sublist (h.queue_sublist.map (·.line))
  obtain ⟨hfresh, -⟩ := List.nodup_cons.mp hnodup
  refine ⟨?_, hfresh⟩
  rw [Progress.unqueue, h.queued, List.map_cons, List.filter_cons_of_neg (by simp)]
  refine List.filter_eq_self.mpr fun line hline => bne_iff_ne.mpr ?_
  rintro rfl
  exact hfresh hline

/-- A row of the queue is accepted. -/
theorem acceptQueued (h : p.Stands gone (row :: queue)) (hlines : (gone.map (·.line)).Nodup) :
    (p.unqueue row.line).accept.Stands gone queue where
  balance := by
    have hbalance := h.balance
    rw [List.length_cons] at hbalance
    simp only [Progress.accept, Progress.unqueue]
    omega
  queued := (h.unqueue_queued hlines).1
  failures_length := h.failures_length
  failed_gone := h.failed_gone
  apart f hf := fun hqueued => h.apart f hf (List.mem_cons_of_mem _ hqueued)
  queue_sublist := (List.sublist_cons_self row queue).trans h.queue_sublist

/-- A row of the queue fails. -/
theorem failQueued (h : p.Stands gone (row :: queue)) (hlines : (gone.map (·.line)).Nodup)
    (message : Text) :
    ((p.unqueue row.line).fail ⟨row.line, row.record, message⟩).Stands gone queue where
  balance := by
    have hbalance := h.balance
    rw [List.length_cons] at hbalance
    simp only [Progress.fail, Progress.unqueue]
    omega
  queued := (h.unqueue_queued hlines).1
  failures_length := by
    simp only [Progress.fail, Progress.unqueue, List.length_append, List.length_singleton,
      h.failures_length]
  failed_gone f hf := by
    rcases List.mem_append.mp hf with hf | hf
    · exact h.failed_gone f hf
    · rw [List.mem_singleton.mp hf]
      exact List.mem_map_of_mem (h.queue_sublist.subset List.mem_cons_self)
  apart f hf := by
    rcases List.mem_append.mp hf with hf | hf
    · exact fun hqueued => h.apart f hf (List.mem_cons_of_mem _ hqueued)
    · rw [List.mem_singleton.mp hf]
      exact (h.unqueue_queued hlines).2
  queue_sublist := (List.sublist_cons_self row queue).trans h.queue_sublist

theorem balanced (h : p.Stands gone queue) (hcurrent : p.current = gone.length)
    {rows : List (ImportRow ρ)} (hgone : gone.Sublist rows) (htotal : p.total = rows.length) :
    p.Balanced rows where
  balance := by
    have hbalance := h.balance
    rw [hcurrent, h.queued, List.length_map]
    omega
  current_le := by
    rw [hcurrent, htotal]
    exact Int.ofNat_le.mpr hgone.length_le
  failures_length := h.failures_length
  queued_sublist := by
    rw [h.queued]
    exact (h.queue_sublist.trans hgone).map _
  apart f hf := by
    rw [h.queued]
    exact h.apart f hf

end Stands

theorem Settled.balanced {rows : List (ImportRow ρ)} {p : Progress ρ} (h : p.Settled rows)
    (htotal : p.total = rows.length) : p.finish.Balanced rows where
  balance := by
    have hbalance := h.balance
    simp only [Progress.finish, htotal, List.length_nil]
    omega
  current_le := Int.le_refl _
  failures_length := h.failures_length
  queued_sublist := List.nil_sublist _
  apart _ _ := List.not_mem_nil

end Progress

/-! ## What a run has published -/

@[simp] theorem Run.published_publish (r : Run ρ σ) :
    r.publish.published = r.published ++ [r.progress] := by
  simp [Run.published, Run.events, Run.publish]

theorem Run.published_congr {r r' : Run ρ σ} (h : r'.history = r.history) :
    r'.published = r.published := by
  rw [Run.published, Run.events, h]
  rfl

@[simp] theorem Run.published_note (r : Run ρ σ) (level : LogLevel) (message : Text)
    (attributes : List (Text × Text)) :
    (r.note level message attributes).published = r.published := by
  simp [Run.published, Run.events, Run.note]

@[simp] theorem Run.published_fail (r : Run ρ σ) (row : ImportRow ρ) (message : Text) :
    (r.fail row message).published = r.published :=
  r.published_note ..

theorem failAll_published (left : List (ImportRow ρ)) (r : Run ρ σ) :
    (r.failAll left).published = r.published := by
  induction left generalizing r with
  | nil => rfl
  | cons row rest ih => exact (ih (r.fail row canceledMessage)).trans (r.published_fail ..)

theorem failAll_progress (left : List (ImportRow ρ)) (r : Run ρ σ) :
    (r.failAll left).progress =
      { r.progress with
        failed := r.progress.failed + left.length
        failures := r.progress.failures ++
          left.map fun row => ⟨row.line, row.record, canceledMessage⟩ } := by
  induction left generalizing r with
  | nil => simp [Run.failAll]
  | cons row rest ih =>
    refine (ih (r.fail row canceledMessage)).trans ?_
    simp [Run.fail, Run.note, Progress.fail, Nat.add_assoc, Nat.add_comm 1]

/-- All that a running import has published adds up, and it grows up to the progress as it is. -/
structure Run.Told (rows : List (ImportRow ρ)) (r : Run ρ σ) : Prop where
  shown : ∀ p ∈ r.published, p.Balanced rows ∧ p.done = false
  grown : (r.published ++ [r.progress]).Pairwise Progress.Before
  total : r.progress.total = rows.length
  running : r.progress.done = false

namespace Run.Told

variable {rows : List (ImportRow ρ)} {r r' : Run ρ σ}

theorem before (h : r.Told rows) : ∀ p ∈ r.published, p.Before r.progress := fun p hp =>
  (List.pairwise_append.mp h.grown).2.2 p hp _ (List.mem_singleton_self _)

/-- What leads to the progress leads to a later one. -/
theorem grown_to (h : r.Told rows) {p : Progress ρ} (hp : r.progress.Before p) :
    (r.published ++ [p]).Pairwise Progress.Before := by
  obtain ⟨hpublished, -, -⟩ := List.pairwise_append.mp h.grown
  refine List.pairwise_append.mpr ⟨hpublished, List.pairwise_singleton .., ?_⟩
  intro q hq s hs
  rw [List.mem_singleton.mp hs]
  exact (h.before q hq).trans hp

/-- The progress changes and nothing is published. -/
theorem change (h : r.Told rows) (hpublished : r'.published = r.published)
    (hbefore : r.progress.Before r'.progress) (hdone : r'.progress.done = r.progress.done) :
    r'.Told rows where
  shown := by
    rw [hpublished]
    exact h.shown
  grown := by
    rw [hpublished]
    exact h.grown_to hbefore
  total := hbefore.total.trans h.total
  running := hdone.trans h.running

theorem publish (h : r.Told rows) (hbalanced : r.progress.Balanced rows) : r.publish.Told rows where
  shown p hp := by
    rw [Run.published_publish] at hp
    rcases List.mem_append.mp hp with hp | hp
    · exact h.shown p hp
    · rw [List.mem_singleton.mp hp]
      exact ⟨hbalanced, h.running⟩
  grown := by
    rw [Run.published_publish]
    refine List.pairwise_append.mpr ⟨h.grown, List.pairwise_singleton .., ?_⟩
    intro p hp q hq
    rw [List.mem_singleton.mp hq]
    rcases List.mem_append.mp hp with hp | hp
    · exact h.before p hp
    · rw [List.mem_singleton.mp hp]
      exact .refl _
  total := h.total
  running := h.running

theorem failAll (h : r.Told rows) (left : List (ImportRow ρ)) : (r.failAll left).Told rows := by
  refine h.change (failAll_published left r) ?_ (by rw [failAll_progress])
  rw [failAll_progress]
  exact { Progress.Before.refl _ with
    failed := Nat.le_add_right .., failures := List.prefix_append .. }

end Run.Told

/-! ## The passes -/

variable (submit : Submitter ρ σ) (maxAttempts : Int)

/-- In the first pass a row is accepted, fails or is queued. -/
theorem firstTry_moves (row : ImportRow ρ) (r : Run ρ σ) :
    ∃ s message,
      firstTry submit maxAttempts row r = (false, { r with session := s }.accept) ∨
      firstTry submit maxAttempts row r = (false, { r with session := s }.fail row message) ∨
      firstTry submit maxAttempts row r = (true, { r with session := s }.queue row message) := by
  unfold firstTry
  split
  · next message _ => exact ⟨r.session, message, .inr (.inl rfl)⟩
  split
  · next s _ => exact ⟨s, [], .inl rfl⟩
  · next ending s _ _ =>
    dsimp only
    split
    · exact ⟨s, canceledMessage, .inr (.inl rfl)⟩
    · exact ⟨s, ending.message, .inr (.inr rfl)⟩

/-- In the second pass a row is accepted or fails. -/
theorem secondTry_moves (row : ImportRow ρ) (r : Run ρ σ) :
    ∃ s message,
      secondTry submit maxAttempts row r = ({ r with session := s }.unqueue row).accept ∨
      secondTry submit maxAttempts row r = ({ r with session := s }.unqueue row).fail row message := by
  unfold secondTry
  split
  · next s _ => exact ⟨s, [], .inl rfl⟩
  · next ending s _ _ => exact ⟨s, ending.message, .inr rfl⟩

variable {rows : List (ImportRow ρ)}

/-- What a row of the first pass does to the progress, and what it leaves published. -/
theorem firstTry_told {gone queue : List (ImportRow ρ)} {row : ImportRow ρ} {r : Run ρ σ}
    (hnew : row.line ∉ gone.map (·.line)) (hstands : r.progress.Stands gone queue)
    (htold : r.Told rows) :
    (firstTry submit maxAttempts row r).2.progress.Stands (gone ++ [row])
        (if (firstTry submit maxAttempts row r).1 then queue ++ [row] else queue) ∧
      (firstTry submit maxAttempts row r).2.progress.current = r.progress.current ∧
      (firstTry submit maxAttempts row r).2.Told rows := by
  obtain ⟨s, message, htry | htry | htry⟩ := firstTry_moves submit maxAttempts row r <;> rw [htry]
  · exact ⟨hstands.accept row, rfl,
      htold.change (Run.published_congr rfl) r.progress.before_accept rfl⟩
  · exact ⟨hstands.fail hnew message, rfl,
      htold.change (r.published_fail row message) (r.progress.before_fail _) rfl⟩
  · exact ⟨hstands.enqueue hnew, rfl,
      htold.change (r.published_note ..) ((Progress.Before.refl _).requeued _) rfl⟩

theorem firstPass_told (hlines : (rows.map (·.line)).Nodup) (gone queue rest : List (ImportRow ρ))
    (hrows : gone ++ rest = rows) (r : Run ρ σ) (hstands : r.progress.Stands gone queue)
    (hcurrent : r.progress.current = gone.length) (htold : r.Told rows) :
    (firstPass submit maxAttempts gone.length queue rest r).2.Told rows ∧
      (((firstPass submit maxAttempts gone.length queue rest r).2.progress.Stands rows
          (firstPass submit maxAttempts gone.length queue rest r).1 ∧
        (firstPass submit maxAttempts gone.length queue rest r).2.progress.current = rows.length) ∨
      ((firstPass submit maxAttempts gone.length queue rest r).1 = [] ∧
        (firstPass submit maxAttempts gone.length queue rest r).2.progress.Settled rows)) := by
  induction rest generalizing gone queue r with
  | nil =>
    obtain rfl : gone = rows := by rw [← hrows, List.append_nil]
    exact ⟨htold, .inl ⟨hstands, hcurrent⟩⟩
  | cons row rest ih =>
    unfold firstPass
    by_cases hc : r.session.canceled = true
    · simp only [hc, if_true]
      refine ⟨htold.failAll _, .inr ⟨trivial, ?_⟩⟩
      have hbalance := hstands.balance
      rw [failAll_progress, ← hrows]
      refine ⟨?_, ?_, ?_⟩
      · simp only [List.length_append, List.length_cons]
        omega
      · simp only [List.length_append, List.length_map, hstands.failures_length]
      · simp only [hcurrent, List.length_append]
        omega
    · simp only [hc]
      have hnew : row.line ∉ gone.map (·.line) := by
        rw [← hrows, List.map_append, List.nodup_append] at hlines
        exact fun hgone => hlines.2.2 _ hgone row.line (by simp) rfl
      obtain ⟨hnext, hkept, hchanged⟩ :=
        firstTry_told submit maxAttempts hnew hstands htold
      have hlength : (gone ++ [row]).length = gone.length + 1 := List.length_append
      have hreached := hnext.reach (gone.length + 1 : Nat)
      -- the rows up to this one have been gone through when the progress is published
      have hprogress : (firstTry submit maxAttempts row r).2.progress.Before
          { (firstTry submit maxAttempts row r).2.progress with
            current := (gone.length + 1 : Nat) } :=
        (Progress.Before.refl _).reach (by rw [hkept, hcurrent]; omega)
      have hmoved : ({ (firstTry submit maxAttempts row r).2 with
          progress := { (firstTry submit maxAttempts row r).2.progress with
            current := (gone.length + 1 : Nat) } } : Run ρ σ).Told rows :=
        hchanged.change (Run.published_congr rfl) hprogress rfl
      have hgone : (gone ++ [row]).Sublist rows := by
        rw [← hrows]
        exact (List.singleton_sublist.mpr List.mem_cons_self).append_left gone
      have hpublished := hmoved.publish
        (hreached.balanced (by rw [hlength]) hgone hmoved.total)
      have hstep := ih (gone ++ [row]) _ (by rw [List.append_assoc, List.singleton_append, hrows])
        ((firstTry submit maxAttempts row r).2.reach (gone.length + 1)) hreached
        (by rw [hlength]; rfl) hpublished
      rw [hlength] at hstep
      exact hstep

theorem secondPass_told (hlines : (rows.map (·.line)).Nodup) (queue : List (ImportRow ρ))
    (r : Run ρ σ) (hstands : r.progress.Stands rows queue)
    (hcurrent : r.progress.current = rows.length) (htold : r.Told rows) :
    (secondPass submit maxAttempts queue r).Told rows ∧
      (secondPass submit maxAttempts queue r).progress.Settled rows := by
  induction queue generalizing r with
  | nil =>
    have hbalance := hstands.balance
    exact ⟨htold, hbalance, hstands.failures_length, Int.le_of_eq hcurrent⟩
  | cons row rest ih =>
    unfold secondPass
    by_cases hc : r.session.canceled = true
    · simp only [hc, if_true]
      refine ⟨htold.failAll _, ?_⟩
      have hbalance := hstands.balance
      rw [failAll_progress]
      refine ⟨?_, ?_, Int.le_of_eq hcurrent⟩
      · rw [← hbalance]
        exact (Nat.add_assoc ..).symm
      · simp only [List.length_append, List.length_map, hstands.failures_length]
    · simp only [hc]
      have hstep : (secondTry submit maxAttempts row r).progress.Stands rows rest ∧
          (secondTry submit maxAttempts row r).progress.current = rows.length ∧
          (secondTry submit maxAttempts row r).Told rows := by
        have hunqueued := (Progress.Before.refl r.progress).requeued
          (r.progress.unqueue row.line).queued
        obtain ⟨s, message, htry | htry⟩ := secondTry_moves submit maxAttempts row r <;> rw [htry]
        · exact ⟨hstands.acceptQueued hlines, hcurrent, htold.change (Run.published_congr rfl)
            (hunqueued.trans (Progress.before_accept _)) rfl⟩
        · exact ⟨hstands.failQueued hlines message, hcurrent, htold.change (r.published_note ..)
            (hunqueued.trans (Progress.before_fail ..)) rfl⟩
      obtain ⟨hnext, hkept, hchanged⟩ := hstep
      exact ih _ hnext hkept
        (hchanged.publish (hnext.balanced hkept (List.Sublist.refl rows) hchanged.total))

/-! ## Whole imports -/

/-- What an import publishes. Every progress adds up; from one to a later one the counts do not
decrease and failures are only added behind the others; and the last one, which is the result, is the
only one that is done. -/
theorem runImport_published (hlines : (rows.map (·.line)).Nodup) (batch file : Text)
    (s : Session ρ σ) :
    let r := runImport submit maxAttempts batch file rows.length rows s
    (∀ p ∈ r.published, p.Balanced rows) ∧
      r.published.Pairwise Progress.Before ∧
      ∃ earlier, r.published = earlier ++ [r.progress] ∧ r.progress.done = true ∧
        ∀ p ∈ earlier, p.done = false := by
  intro r
  let start : Run ρ σ := { progress := { batch, file, total := rows.length }, session := s }
  have hstart : start.progress.Stands [] [] :=
    ⟨rfl, rfl, rfl, fun _ hf => absurd hf List.not_mem_nil,
      fun _ hf => absurd hf List.not_mem_nil, List.Sublist.refl _⟩
  have htold : start.Told rows :=
    ⟨fun _ hp => absurd hp List.not_mem_nil, List.pairwise_singleton .., rfl, rfl⟩
  obtain ⟨hfirst, hrest⟩ :=
    firstPass_told submit maxAttempts hlines [] [] rows rfl start hstart rfl htold
  obtain ⟨hsecond, hsettled⟩ : (secondPass submit maxAttempts
        (firstPass submit maxAttempts 0 [] rows start).1
        (firstPass submit maxAttempts 0 [] rows start).2).Told rows ∧
      (secondPass submit maxAttempts (firstPass submit maxAttempts 0 [] rows start).1
        (firstPass submit maxAttempts 0 [] rows start).2).progress.Settled rows := by
    obtain ⟨hstands, hcurrent⟩ | ⟨hnone, hsettled⟩ := hrest
    · exact secondPass_told submit maxAttempts hlines _ _ hstands hcurrent hfirst
    · rw [List.length_nil] at hfirst hnone hsettled
      rw [hnone]
      exact ⟨hfirst, hsettled⟩
  generalize hpasses : secondPass submit maxAttempts
    (firstPass submit maxAttempts 0 [] rows start).1
    (firstPass submit maxAttempts 0 [] rows start).2 = passes at hsecond hsettled
  have hr : r = passes.finish := by rw [← hpasses]; rfl
  have hpublished : r.published = passes.published ++ [r.progress] := by
    rw [hr]
    refine (Run.published_note ..).trans ((Run.published_publish _).trans ?_)
    rw [Run.published_congr (r := passes) rfl]
    rfl
  have hprogress : r.progress = passes.progress.finish := by rw [hr]; rfl
  have hlast : passes.progress.Before passes.progress.finish := by
    refine { Progress.Before.refl _ with current := ?_ }
    rw [Progress.finish, hsecond.total]
    exact hsettled.current_le
  refine ⟨?_, ?_, passes.published, hpublished, by rw [hprogress]; rfl,
    fun p hp => (hsecond.shown p hp).2⟩
  · intro p hp
    rw [hpublished] at hp
    rcases List.mem_append.mp hp with hp | hp
    · exact (hsecond.shown p hp).1
    · rw [List.mem_singleton.mp hp, hprogress]
      exact hsettled.balanced hsecond.total
  · rw [hpublished, hprogress]
    exact hsecond.grown_to hlast

end

/-- Three rows, the second of them with a fault. -/
def rowsOfThree : List (ImportRow Text) :=
  [{ line := 2, record := "a" }, { line := 3, record := "b", fault := some "missing brand" },
    { line := 4, record := "c" }]

/-- The rows without a fault are queued, and the import is canceled when the first of them is
accepted in the second pass. -/
theorem rowsOfThree_published :
    let r := runImport Script.submitter 1 "1" "in.csv" rowsOfThree.length rowsOfThree
      { state := { answers := [some "busy", some "busy", none], cancelAt := 3 } }
    r.published.map (fun p => (p.current, p.accepted, p.failed, p.queued)) =
        [(1, 0, 0, [2]), (2, 0, 1, [2]), (3, 0, 1, [2, 4]), (3, 1, 1, [4]), (3, 1, 2, [])] ∧
      (∀ p ∈ r.published, p.Balanced rowsOfThree) ∧
      r.published.Pairwise Progress.Before := by
  have hlines : (rowsOfThree.map (·.line)).Nodup := by decide
  obtain ⟨hbalanced, hgrown, -⟩ := runImport_published Script.submitter 1 hlines "1" "in.csv"
    { state := { answers := [some "busy", some "busy", none], cancelAt := 3 } }
  exact ⟨by decide +kernel, hbalanced, hgrown⟩

end Stockroom

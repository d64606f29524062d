import Stockroom.Import.Job

/-!
What an import lets others see of its progress. What every change to the progress keeps holds of the
progress at the end and of every progress on the way.

Main definitions and statements:
* `Progress.Kept`: a property that no row changes;
* `Run.Shows`: it holds of what an import has shown so far;
* `ImportJob.run_shows`: it holds of all that an import shows;
* `kept_total`, `kept_failures`: how many rows an import is of, and which rows may fail.
-/
namespace Stockroom
set_option autoImplicit false

section
variable {ρ σ : Type}

/-- Whatever becomes of rows, the progress keeps a property. -/
structure Progress.Kept (rows : List (ImportRow ρ)) (P : Progress ρ → Prop) : Prop where
  accept {p : Progress ρ} : P p → P p.accept
  fail {p : Progress ρ} {row : ImportRow ρ} (message : Text) :
    row ∈ rows → P p → P (p.fail ⟨row.line, row.record, message⟩)
  queue {p : Progress ρ} (line : Int) : P p → P (p.queue line)
  unqueue {p : Progress ρ} (line : Int) : P p → P (p.unqueue line)
  reach {p : Progress ρ} (current : Int) : P p → P { p with current }
  finish {p : Progress ρ} : P p → P p.finish

theorem kept_total (rows : List (ImportRow ρ)) (total : Int) :
    Progress.Kept rows fun p => p.total = total := by
  constructor <;> intros <;> assumption

theorem kept_failures (rows : List (ImportRow ρ)) :
    Progress.Kept rows fun p => ∀ f ∈ p.failures, ∃ row ∈ rows, f.line = row.line where
  accept h := h
  fail {p row} message hrow h f hf := by
    obtain hf | hf := List.mem_append.mp hf
    · exact h f hf
    · obtain rfl := List.mem_singleton.mp hf
      exact ⟨row, hrow, rfl⟩
  queue _ h := h
  unqueue _ h := h
  reach _ h := h
  finish h := h

/-- The progress of an import, and every progress it has shown, has a property. -/
structure Run.Shows (P : Progress ρ → Prop) (r : Run ρ σ) : Prop where
  own : P r.progress
  shown : ∀ p, .published p ∈ r.history → P p

namespace Run.Shows

variable {rows : List (ImportRow ρ)} {P : Progress ρ → Prop} {r r' : Run ρ σ}

theorem step (h : r.Shows P) (hown : P r'.progress)
    (hshown : ∀ p, .published p ∈ r'.history → .published p ∈ r.history ∨ p = r'.progress) :
    r'.Shows P where
  own := hown
  shown p hp := by
    obtain hold | rfl := hshown p hp
    · exact h.shown p hold
    · exact hown

theorem publish (h : r.Shows P) : r.publish.Shows P := by
  refine h.step h.own fun p hp => ?_
  obtain heq | hp := List.mem_cons.mp hp
  · exact .inr (RunEvent.published.inj heq)
  · exact .inl hp

theorem note (h : r.Shows P) (level : LogLevel) (message : Text)
    (attributes : List (Text × Text)) : (r.note level message attributes).Shows P := by
  refine h.step h.own fun p hp => .inl ?_
  obtain heq | hp := List.mem_cons.mp hp
  · cases heq
  · exact hp

/-- A change that is not shown yet. -/
theorem change (h : r.Shows P) (hown : P r'.progress) (hhistory : r'.history = r.history) :
    r'.Shows P :=
  h.step hown fun _ hp => .inl (hhistory ▸ hp)

variable (hkept : Progress.Kept rows P)

include hkept

theorem fail (h : r.Shows P) {row : ImportRow ρ} (hrow : row ∈ rows) (message : Text) :
    (r.fail row message).Shows P :=
  (h.note _ _ _).change (hkept.fail message hrow h.own) rfl

theorem queue (h : r.Shows P) (row : ImportRow ρ) (message : Text) :
    (r.queue row message).Shows P :=
  (h.note _ _ _).change (hkept.queue row.line h.own) rfl

theorem failAll (h : r.Shows P) {left : List (ImportRow ρ)} (hleft : left ⊆ rows) :
    (r.failAll left).Shows P := by
  induction left generalizing r with
  | nil => exact h
  | cons row rest ih =>
    obtain ⟨hrow, hrest⟩ := List.cons_subset.mp hleft
    exact ih (h.fail hkept hrow canceledMessage) hrest

variable (submit : Submitter ρ σ) (maxAttempts : Int)

theorem firstTry (h : r.Shows P) {row : ImportRow ρ} (hrow : row ∈ rows) :
    (firstTry submit maxAttempts row r).2.Shows P := by
  unfold Stockroom.firstTry
  split
  · exact h.fail hkept hrow _
  split
  · exact h.change (hkept.accept h.own) rfl
  · next s _ _ =>
    have hsession : ({ r with session := s } : Run ρ σ).Shows P := h.change h.own rfl
    dsimp only
    split
    · exact hsession.fail hkept hrow _
    · exact hsession.queue hkept row _

/-- The first pass, and what it leaves for the second one. -/
theorem firstPass (h : r.Shows P) (count : Nat) {queue left : List (ImportRow ρ)}
    (hqueue : queue ⊆ rows) (hleft : left ⊆ rows) :
    (firstPass submit maxAttempts count queue left r).1 ⊆ rows ∧
      (firstPass submit maxAttempts count queue left r).2.Shows P := by
  induction left generalizing count queue r with
  | nil => exact ⟨hqueue, h⟩
  | cons row rest ih =>
    obtain ⟨hrow, hrest⟩ := List.cons_subset.mp hleft
    unfold Stockroom.firstPass
    split
    · exact ⟨List.nil_subset rows, h.failAll hkept (List.append_subset.mpr ⟨hqueue, hleft⟩)⟩
    · have htry := h.firstTry hkept submit maxAttempts hrow
      have hreach : ((Stockroom.firstTry submit maxAttempts row r).2.reach (count + 1)).Shows P :=
        publish (htry.change (hkept.reach _ htry.own) rfl)
      have hnext : (if (Stockroom.firstTry submit maxAttempts row r).1 then queue ++ [row] else queue)
          ⊆ rows := by
        cases (Stockroom.firstTry submit maxAttempts row r).1 with
        | false => exact hqueue
        | true =>
          exact List.append_subset.mpr ⟨hqueue, List.cons_subset.mpr ⟨hrow, List.nil_subset rows⟩⟩
      exact ih hreach _ hnext hrest

theorem secondTry (h : r.Shows P) {row : ImportRow ρ} (hrow : row ∈ rows) :
    (secondTry submit maxAttempts row r).Shows P := by
  have hback (s : Session ρ σ) : ({ r with session := s }.unqueue row : Run ρ σ).Shows P :=
    h.change (hkept.unqueue row.line h.own) rfl
  unfold Stockroom.secondTry
  split
  · next s _ => exact (hback s).change (hkept.accept (hback s).own) rfl
  · next s _ _ => exact (hback s).fail hkept hrow _

theorem secondPass (h : r.Shows P) {left : List (ImportRow ρ)} (hleft : left ⊆ rows) :
    (secondPass submit maxAttempts left r).Shows P := by
  induction left generalizing r with
  | nil => exact h
  | cons row rest ih =>
    obtain ⟨hrow, hrest⟩ := List.cons_subset.mp hleft
    unfold Stockroom.secondPass
    split
    · exact h.failAll hkept hleft
    · exact ih (h.secondTry hkept submit maxAttempts hrow).publish hrest

theorem finish (h : r.Shows P) : r.finish.Shows P := by
  have hdone : ({ r with progress := r.progress.finish } : Run ρ σ).Shows P :=
    h.change (hkept.finish h.own) rfl
  exact hdone.publish.note _ _ _

theorem runImport {batch file : Text} {total : Int} (hstart : P { batch, file, total })
    (s : Session ρ σ) : (runImport submit maxAttempts batch file total rows s).Shows P := by
  have hfresh : (⟨{ batch, file, total }, [], s⟩ : Run ρ σ).Shows P :=
    ⟨hstart, fun p hp => absurd hp List.not_mem_nil⟩
  obtain ⟨hqueue, hfirst⟩ :=
    hfresh.firstPass hkept submit maxAttempts 0 (List.nil_subset rows) (List.Subset.refl rows)
  exact (hfirst.secondPass hkept submit maxAttempts hqueue).finish hkept

end Run.Shows

theorem mem_published {r : Run ρ σ} {p : Progress ρ} :
    p ∈ r.published ↔ .published p ∈ r.history := by
  simp only [Run.published, Run.events, List.mem_filterMap, List.mem_reverse]
  constructor
  · rintro ⟨event, hevent, heq⟩
    cases event with
    | logged e => cases heq
    | published q =>
      cases heq
      exact hevent
  · exact fun hp => ⟨_, hp, rfl⟩

/-- The import of a file whose rows are known. -/
theorem ImportJob.run_shows [Inhabited ρ] {job : ImportJob ρ} {content : FileContent}
    {rows : List (ImportRow ρ)} {notices : List LogEntry} {P : Progress ρ → Prop}
    (hstart : job.start content = .ok (rows, notices)) (hkept : Progress.Kept rows P)
    (hfresh : P { batch := job.batch, file := job.file, total := rows.length })
    (submit : Submitter ρ σ) (maxAttempts : Int) (s : Session ρ σ) :
    ∃ r, job.run submit maxAttempts content s = .ok r ∧ P r.progress ∧ ∀ p ∈ r.published, P p := by
  have hshows := Run.Shows.runImport hkept submit maxAttempts hfresh s
  have hrun : job.run submit maxAttempts content s = .ok
      { runImport submit maxAttempts job.batch job.file rows.length rows s with
        history := (runImport submit maxAttempts job.batch job.file rows.length rows s).history ++
          (notices.map .logged).reverse } := by
    rw [run, hstart]
    rfl
  refine ⟨_, hrun, hshows.own, fun p hp => ?_⟩
  -- what is said about the rows stands in front of the history
  obtain hp | hp := List.mem_append.mp (mem_published.mp hp)
  · exact hshows.shown p hp
  · obtain ⟨entry, -, heq⟩ := List.mem_map.mp (List.mem_reverse.mp hp)
    cases heq

end
end Stockroom

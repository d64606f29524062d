import Mathlib.Data.List.Forall2
import Mathlib.Data.List.Perm.Subperm
import Stockroom.Import.Job
import Stockroom.Proofs.Import.Discipline
import Stockroom.Proofs.Import.Tally

/-!
What an import leaves behind. Suppose that whatever is submitted is either refused and changes
nothing, or accepted and adds one row that holds it. Then an import adds one row for each row of the
file that was accepted, and nothing for those that failed, however often they were submitted: a row
that was accepted is not submitted again.

A table has room for so many rows only. There is room as long as no more rows are added than the
file has, and this is so because the row being submitted was not accepted before.

Main definitions and statements:
* `Appends`: what one submission does;
* `Orderly`, `submissions_orderly`: no row is submitted after it was accepted;
* `send_appends`: what the submissions so far have added;
* `ImportJob.run_prepared`: the rows of a file are what is submitted;
* `Inserted`, `ImportJob.run_inserts`: what a whole import has added.
-/
namespace Stockroom
set_option autoImplicit false

section
variable {ρ σ κ : Type}

/-- What one submission does to a table to which some rows have been added: a refusal adds nothing,
an acceptance adds one row that holds the record. -/
def Appends (submit : Submitter ρ σ) (good : ρ → Prop) (holds : ρ → κ → Prop)
    (added : σ → List κ → Prop) (room : Nat) : Prop :=
  ∀ record state new, good record → added state new → new.length < room →
    ((submit record state).1.error ≠ none ∧ added (submit record state).2 new) ∨
    ((submit record state).1.error = none ∧
      ∃ row, holds record row ∧ added (submit record state).2 (new ++ [row]))

/-! ## Submissions in order -/

/-- The submissions that were answered without error. -/
def acceptances (log : List (Submission ρ)) : List (Submission ρ) :=
  log.filter (·.reply.error.isNone)

/-- Every submission is for a row without a fault, and none is for a row that was accepted. -/
structure Orderly (rows : List (ImportRow ρ)) (log : List (Submission ρ)) : Prop where
  known : ∀ x ∈ log, ∃ line, rows[x.row]? = some { line, record := x.record }
  once : log.Pairwise fun x y => x.row = y.row → x.reply.error ≠ none

namespace Orderly

variable {rows : List (ImportRow ρ)} {log : List (Submission ρ)} {x : Submission ρ}

theorem earlier (h : Orderly rows (log ++ [x])) : Orderly rows log where
  known y hy := h.known y (List.mem_append_left _ hy)
  once := (List.pairwise_append.mp h.once).1

theorem row_lt (h : Orderly rows log) (hx : x ∈ log) : x.row < rows.length := by
  obtain ⟨line, hrow⟩ := h.known x hx
  exact (List.getElem?_eq_some_iff.mp hrow).1

theorem accepted_differ (h : Orderly rows log) :
    ((acceptances log).map (·.row)).Nodup := by
  have hpairs := h.once.sublist (List.filter_sublist (p := (·.reply.error.isNone)))
  refine List.pairwise_map.mpr (hpairs.imp_of_mem ?_)
  intro x y hx _ hrefused hrow
  have haccepted := (List.mem_filter.mp hx).2
  exact hrefused hrow (Option.isNone_iff_eq_none.mp haccepted)

/-- Fewer rows than there are were accepted before a submission. -/
theorem room (h : Orderly rows (log ++ [x])) : (acceptances log).length < rows.length := by
  have hlast : ∀ y ∈ acceptances log, y.row ≠ x.row := by
    intro y hy hrow
    obtain ⟨hy, haccepted⟩ := List.mem_filter.mp hy
    have hrefused := (List.pairwise_append.mp h.once).2.2 y hy x (List.mem_singleton_self x) hrow
    exact hrefused (Option.isNone_iff_eq_none.mp haccepted)
  have hnodup : (x.row :: (acceptances log).map (·.row)).Nodup := by
    refine List.nodup_cons.mpr ⟨?_, h.earlier.accepted_differ⟩
    intro hmem
    obtain ⟨y, hy, hrow⟩ := List.mem_map.mp hmem
    exact hlast y hy hrow
  have hbound : x.row :: (acceptances log).map (·.row) ⊆ List.range rows.length := by
    intro i hi
    rw [List.mem_range]
    rcases List.mem_cons.mp hi with rfl | hi
    · exact h.row_lt (List.mem_append_right _ (List.mem_singleton_self x))
    · obtain ⟨y, hy, rfl⟩ := List.mem_map.mp hi
      exact h.earlier.row_lt (List.mem_of_mem_filter hy)
  have hlength := (hnodup.subperm hbound).length_le
  rw [List.length_cons, List.length_map, List.length_range] at hlength
  exact hlength

end Orderly

/-- An import submits in order. -/
theorem submissions_orderly (submit : Submitter ρ σ) (maxAttempts : Int) (batch file : Text)
    (total : Int) (rows : List (ImportRow ρ)) (state : σ) (canceled : Bool) :
    Orderly rows (submissions submit maxAttempts batch file total rows state canceled) := by
  obtain ⟨first, second, queue, between, after, hlog, hfirst, hsecond, hqueue⟩ :=
    watchedImport_passes submit maxAttempts batch file total rows state canceled
  have hsublist := refusedRows_sublist hfirst hqueue
  rw [hlog]
  refine ⟨?_, passes_never_after_accepted hfirst hsecond hqueue (numbered_differ rows)⟩
  intro x hx
  obtain ⟨b, hb, hmem⟩ : ∃ b ∈ first ++ second, x ∈ b.log := by
    rw [← List.flatMap_append] at hx
    exact List.mem_flatMap.mp hx
  obtain ⟨hrow, hrecord, -⟩ := mem_log.mp hmem
  have hblock : b.row ∈ numbered rows ∧ b.row.fault = none := by
    rcases List.mem_append.mp hb with hb | hb
    · exact ⟨hfirst.rows_sublist.subset (List.mem_map_of_mem hb), (hfirst.block_fits b hb).1⟩
    · exact ⟨hsublist.subset (hsecond.rows_sublist.subset (List.mem_map_of_mem hb)),
        (hsecond.block_fits b hb).1⟩
  refine ⟨b.row.line, ?_⟩
  rw [hrow, hrecord, mem_numbered hblock.1, ImportRow.map, hblock.2]

/-! ## What the submissions so far have added -/

/-- The rows that were added hold the records that were accepted, one each and in order. -/
def AddedBy (holds : ρ → κ → Prop) (added : σ → List κ → Prop) (state : σ)
    (log : List (Submission ρ)) : Prop :=
  ∃ new, added state new ∧ List.Forall₂ (fun x row => holds x.record row) (acceptances log) new

variable {submit : Submitter ρ σ} {good : ρ → Prop} {holds : ρ → κ → Prop}
  {added : σ → List κ → Prop} {rows : List (ImportRow ρ)}

/-- One more submission, in order. -/
theorem send_appends (happends : Appends submit good holds added rows.length)
    (hgood : ∀ row ∈ rows, row.fault = none → good row.record) {record : Nat × ρ} {state : σ}
    {log : List (Submission ρ)}
    (horderly : Orderly rows (log ++ [⟨record.1, record.2, (submit record.2 state).1⟩]))
    (hadded : AddedBy holds added state log) :
    AddedBy holds added (submit record.2 state).2
      (log ++ [⟨record.1, record.2, (submit record.2 state).1⟩]) := by
  obtain ⟨new, hnew, hholds⟩ := hadded
  have hroom : new.length < rows.length := hholds.length_eq ▸ horderly.room
  obtain ⟨line, hrow⟩ := horderly.known _ (List.mem_append_right _ (List.mem_singleton_self _))
  have hrecord : good record.2 := hgood _ (List.mem_of_getElem? hrow) rfl
  unfold AddedBy acceptances at *
  rw [List.filter_append]
  obtain ⟨hrefused, hsame⟩ | ⟨haccepted, row, hrow, hmore⟩ :=
    happends record.2 state new hrecord hnew hroom
  · refine ⟨new, hsame, ?_⟩
    rw [List.filter_singleton, Option.isNone_eq_false_iff.mpr (Option.ne_none_iff_isSome.mp hrefused)]
    simpa using hholds
  · refine ⟨new ++ [row], hmore, ?_⟩
    rw [List.filter_singleton, Option.isNone_iff_eq_none.mpr haccepted]
    exact List.rel_append hholds (.cons hrow .nil)

theorem submissions_added (happends : Appends submit good holds added rows.length)
    (hgood : ∀ row ∈ rows, row.fault = none → good row.record) (maxAttempts : Int)
    (batch file : Text) (total : Int) (state : σ) (canceled : Bool) (hstart : added state []) :
    AddedBy holds added
      (runImport submit maxAttempts batch file total rows { state, canceled }).session.state
      (submissions submit maxAttempts batch file total rows state canceled) := by
  let P (s : Session (Nat × ρ) (σ × List (Submission ρ))) : Prop :=
    Orderly rows s.state.2 → AddedBy holds added s.state.1 s.state.2
  have hsend (record : Nat × ρ) (s : Session (Nat × ρ) (σ × List (Submission ρ))) (hs : P s) :
      P (s.send submit.watched record).2 := by
    intro horderly
    exact send_appends happends hgood horderly (hs horderly.earlier)
  have hrun : P (watchedImport submit maxAttempts batch file total rows state canceled).session :=
    runImport_session hsend maxAttempts batch file total (numbered rows) _
      fun _ => ⟨[], hstart, .nil⟩
  have hstate : (runImport submit maxAttempts batch file total rows { state, canceled }).session.state =
      (watchedImport submit maxAttempts batch file total rows state canceled).session.state.1 :=
    congrArg (fun r => r.session.state)
      (watchedImport_map submit maxAttempts batch file total rows state canceled).symm
  rw [hstate]
  exact hrun (submissions_orderly submit maxAttempts batch file total rows state canceled)

end

/-! ## Whole imports -/

section
variable {ρ σ κ : Type}

theorem acceptedIn_eq_contains (log : List (Submission ρ)) (i : Nat) :
    acceptedIn log i = ((acceptances log).map (·.row)).contains i := by
  rw [Bool.eq_iff_iff, acceptedIn, List.any_eq_true, List.contains_iff_mem, List.mem_map]
  simp only [acceptances, List.mem_filter, Bool.and_eq_true, beq_iff_eq]
  constructor
  · rintro ⟨x, hx, hrow, haccepted⟩
    exact ⟨x, ⟨hx, haccepted⟩, hrow⟩
  · rintro ⟨x, ⟨hx, haccepted⟩, hrow⟩
    exact ⟨x, hx, hrow, haccepted⟩

theorem numbered_of_lt {rows : List (ImportRow ρ)} {i : Nat} (h : i < rows.length) :
    ∃ row ∈ numbered rows, row.record.1 = i := by
  have hmem : (rows[i], i) ∈ rows.zipIdx :=
    List.mem_zipIdx_iff_getElem?.mpr (List.getElem?_eq_getElem h)
  exact ⟨_, List.mem_map_of_mem hmem, rfl⟩

/-- As many rows are accepted as there are acceptances. -/
theorem Orderly.count_accepted {rows : List (ImportRow ρ)} {log : List (Submission ρ)}
    (h : Orderly rows log) :
    ((numbered rows).filter fun row => acceptedIn log row.record.1).length =
      (acceptances log).length := by
  have hnodup : (((numbered rows).filter fun row => acceptedIn log row.record.1).map
      (·.record.1)).Nodup := (numbered_nodup rows).sublist (List.filter_sublist.map _)
  have hperm : (((numbered rows).filter fun row => acceptedIn log row.record.1).map
      (·.record.1)).Perm ((acceptances log).map (·.row)) := by
    refine (List.perm_ext_iff_of_nodup hnodup h.accepted_differ).mpr fun i => ?_
    have hplace : i ∈ (acceptances log).map (·.row) ↔ acceptedIn log i = true := by
      rw [acceptedIn_eq_contains, List.contains_iff_mem]
    rw [hplace]
    constructor
    · intro hi
      obtain ⟨row, hrow, rfl⟩ := List.mem_map.mp hi
      exact (List.mem_filter.mp hrow).2
    · intro hi
      obtain ⟨x, hx, hsame⟩ := List.any_eq_true.mp hi
      simp only [Bool.and_eq_true, beq_iff_eq] at hsame
      obtain ⟨row, hrow, hnumber⟩ := numbered_of_lt (h.row_lt hx)
      rw [hsame.1] at hnumber
      exact List.mem_map.mpr ⟨row, List.mem_filter.mpr ⟨hrow, hnumber ▸ hi⟩, hnumber⟩
  have hlength := hperm.length_eq
  rwa [List.length_map, List.length_map] at hlength

variable [Inhabited ρ]

/-- What has become of the rows of a file: the new rows of a table hold the records of the rows that
were accepted, one for each, and the failures are the other rows. -/
structure Inserted (prepared : List (PreparedRow ρ)) (holds : ρ → κ → Prop) (p : Progress ρ)
    (new : List κ) : Prop where
  done : p.done = true
  count : p.accepted = new.length
  rows : ∃ places : List Nat, places.Nodup ∧
    List.Forall₂ (fun i row => ∃ line record, prepared[i]? = some ⟨line, .ok record⟩ ∧
      holds record row) places new ∧
    (p.failures.map fun e => (e.line, e.record)).Perm
      ((prepared.zipIdx.filter fun q => !places.contains q.2).map fun q =>
        (q.1.toImportRow.line, q.1.toImportRow.record))

/-- What is so of every row that holds a record is so of the new rows. -/
theorem Inserted.forall_mem {prepared : List (PreparedRow ρ)} {holds : ρ → κ → Prop} {P : κ → Prop}
    {p : Progress ρ} {new : List κ} (h : Inserted prepared holds p new)
    (hholds : ∀ record row, holds record row → P row) : ∀ row ∈ new, P row := by
  obtain ⟨places, -, hrows, -⟩ := h.rows
  clear h
  induction hrows with
  | nil => exact List.forall_mem_nil _
  | cons hfirst _ ih =>
    obtain ⟨_, record, -, hrow⟩ := hfirst
    exact List.forall_mem_cons.mpr ⟨hholds record _ hrow, ih⟩

theorem PreparedRow.eq_of_toImportRow {prepared : PreparedRow ρ}
    (h : prepared.toImportRow.fault = none) :
    prepared = ⟨prepared.line, .ok prepared.toImportRow.record⟩ := by
  obtain ⟨line, record⟩ := prepared
  cases record with
  | ok record => rfl
  | error e => cases h

variable {submit : Submitter ρ σ} {good : ρ → Prop} {holds : ρ → κ → Prop}
  {added : σ → List κ → Prop}

/-- An import adds a row for each row that was accepted, and no other. -/
theorem runImport_inserts {prepared : List (PreparedRow ρ)}
    (happends : Appends submit good holds added prepared.length)
    (hgood : ∀ row ∈ prepared, ∀ record, row.record = .ok record → good record) (maxAttempts : Int)
    (batch file : Text) (total : Int) (state : σ) (canceled : Bool) (hstart : added state []) :
    ∃ new, added (runImport submit maxAttempts batch file total
        (prepared.map PreparedRow.toImportRow) { state, canceled }).session.state new ∧
      Inserted prepared holds (runImport submit maxAttempts batch file total
        (prepared.map PreparedRow.toImportRow) { state, canceled }).progress new := by
  generalize hrows : prepared.map PreparedRow.toImportRow = rows
  have hrecords : ∀ row ∈ rows, row.fault = none → good row.record := by
    rw [← hrows]
    intro row hrow hfault
    obtain ⟨source, hsource, rfl⟩ := List.mem_map.mp hrow
    exact hgood source hsource _ (congrArg PreparedRow.record (source.eq_of_toImportRow hfault))
  have hlength : rows.length = prepared.length := by rw [← hrows, List.length_map]
  rw [← hlength] at happends
  obtain ⟨new, hadded, hholds⟩ :=
    submissions_added happends hrecords maxAttempts batch file total state canceled hstart
  have horderly := submissions_orderly submit maxAttempts batch file total rows state canceled
  obtain ⟨accepted, failed, htally⟩ :=
    watchedImport_tally submit maxAttempts batch file total rows state canceled
  obtain ⟨hyes, hno⟩ := htally.settled
  have hprogress := congrArg Run.progress
    (watchedImport_map submit maxAttempts batch file total rows state canceled).symm
  refine ⟨new, hadded, rfl, ?_, (acceptances (submissions submit maxAttempts batch file total rows
    state canceled)).map (·.row), horderly.accepted_differ, ?_, ?_⟩
  · rw [hprogress]
    have hcount := horderly.count_accepted
    rw [← hyes.length_eq, hholds.length_eq, ← htally.accepted_count] at hcount
    exact hcount
  · have hsource : ∀ x ∈ acceptances (submissions submit maxAttempts batch file total rows state
        canceled), ∃ line, prepared[x.row]? = some ⟨line, .ok x.record⟩ := by
      intro x hx
      obtain ⟨line, hrow⟩ := horderly.known x (List.mem_of_mem_filter hx)
      rw [← hrows, List.getElem?_map, Option.map_eq_some_iff] at hrow
      obtain ⟨source, hsource, hsent⟩ := hrow
      have hfound := source.eq_of_toImportRow (hsent ▸ rfl)
      rw [hsent] at hfound
      exact ⟨source.line, hsource.trans (congrArg some hfound)⟩
    rw [List.forall₂_map_left_iff]
    refine ((List.forall₂_and_left ..).mpr ⟨hsource, hholds⟩).imp ?_
    rintro x row ⟨⟨line, hfound⟩, hrow⟩
    exact ⟨line, x.record, hfound, hrow⟩
  · have hfailures := congrArg (List.map fun e : Int × Nat × ρ => (e.1, e.2.2)) htally.failures
    rw [List.map_map, List.map_map] at hfailures
    have hzip : rows.zipIdx = prepared.zipIdx.map fun q => (q.1.toImportRow, q.2) := by
      rw [← hrows]
      exact List.zipIdx_map ..
    have hplaces := hno.map fun row => (row.line, row.record.2)
    rw [filter_numbered rows fun i => !acceptedIn _ i, hzip, List.filter_map, List.map_map,
      List.map_map] at hplaces
    rw [hprogress, Run.map, Progress.map, List.map_map]
    refine (List.Perm.of_eq hfailures).trans (hplaces.trans (.of_eq ?_))
    simp only [acceptedIn_eq_contains]
    rfl

/-- A file that can be read and has rows is imported by submitting its rows. -/
theorem ImportJob.run_prepared (job : ImportJob ρ) {content : FileContent} {grid : List Row}
    (hread : readSheet job.file content = .ok grid)
    (hsome : (prepare grid job.schema job.branch job.normalizer).1 ≠ []) {rows : List (ImportRow ρ)}
    (hrows : (prepare grid job.schema job.branch job.normalizer).1.map PreparedRow.toImportRow = rows)
    (submit : Submitter ρ σ) (maxAttempts : Int) (state : σ) :
    ∃ r, job.run submit maxAttempts content { state } = .ok r ∧
      r.session =
        (runImport submit maxAttempts job.batch job.file rows.length rows { state }).session ∧
      r.progress =
        (runImport submit maxAttempts job.batch job.file rows.length rows { state }).progress := by
  have hnone : (prepare grid job.schema job.branch job.normalizer).1.isEmpty = false := by
    simpa using hsome
  -- what is said about the rows is added to the history only
  simp only [ImportJob.run, ImportJob.start, hread, hnone, hrows, Bool.false_eq_true, if_false]
  exact ⟨_, rfl, rfl, rfl⟩

/-- A file that can be read and has rows is imported, and a row is added for each row that was
accepted. -/
theorem ImportJob.run_inserts (job : ImportJob ρ) {content : FileContent} {grid : List Row}
    (hread : readSheet job.file content = .ok grid)
    (hsome : (prepare grid job.schema job.branch job.normalizer).1 ≠ [])
    (happends : Appends submit good holds added
      (prepare grid job.schema job.branch job.normalizer).1.length)
    (hgood : ∀ row ∈ (prepare grid job.schema job.branch job.normalizer).1, ∀ record,
      row.record = .ok record → good record)
    (maxAttempts : Int) (state : σ) (hstart : added state []) :
    ∃ r new, job.run submit maxAttempts content { state } = .ok r ∧ added r.session.state new ∧
      Inserted (prepare grid job.schema job.branch job.normalizer).1 holds r.progress new := by
  obtain ⟨r, hrun, hsession, hprogress⟩ := job.run_prepared hread hsome rfl submit maxAttempts state
  obtain ⟨new, hadded, hinserted⟩ :=
    runImport_inserts happends hgood maxAttempts job.batch job.file _ state false hstart
  exact ⟨r, new, hrun, hsession ▸ hadded, hprogress ▸ hinserted⟩

end
end Stockroom

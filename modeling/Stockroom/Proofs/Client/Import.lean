import Stockroom.Proofs.Client.RoundTrip
import Stockroom.Proofs.Import.Insertion
import Stockroom.Proofs.Intake.Columns
import Stockroom.Proofs.Intake.Legible
import Stockroom.Proofs.Store.Keys

/-!
Importing a file into a server. Each row that is accepted is stored once, as what its record says,
and each row that is listed as failed has left nothing behind, however often it was sent.

What the client is answered must be read back, so the ids have to fit sixty-four bits and the clock
of the server has to show a year of four digits: with a longer one a record would be stored and its
answer not be understood. The branch that is imported into is the only text that may hold stray bytes;
it is stored as it comes through the wire.

Main definitions and statements:
* `HasRoom`: ids are left for so many new rows;
* `HoldsItem`, `HoldsConsumable`: a row holds a record;
* `itemSubmitter_appends`, `consumableSubmitter_appends`: one submission;
* `prepare_items`, `prepare_consumables`: what the rows of a file become;
* `import_once`: a whole import.
-/
namespace Stockroom
set_option autoImplicit false

/-! ## Ids -/

/-- There are ids left for so many new rows. -/
def HasRoom (ids : List Int) (count : Nat) : Prop := nextId ids + count ≤ maxInt64 + 1

instance (ids : List Int) (count : Nat) : Decidable (HasRoom ids count) :=
  inferInstanceAs (Decidable (_ ≤ _))

theorem nextId_concat (ids : List Int) : nextId (ids ++ [nextId ids]) = nextId ids + 1 := by
  have hmax : max (ids.foldl max 0) (nextId ids) = nextId ids := by
    unfold nextId
    omega
  rw [nextId, List.foldl_append, List.foldl_cons, List.foldl_nil, hmax]

theorem fits_nextId {ids : List Int} {count used : Nat} (h : HasRoom ids count)
    (hused : used < count) : fitsInt64 (nextId ids + used) = true := by
  have hpos : 0 ≤ ids.foldl max 0 := (le_foldl_max ids 0).1
  unfold HasRoom maxInt64 nextId at h
  rw [fitsInt64, Bool.and_eq_true, minInt64, maxInt64, nextId]
  exact ⟨decide_eq_true (by omega), decide_eq_true (by omega)⟩

/-! ## Submissions -/

/-- A row holds the record of an item that was sent for a branch: what the record says, with an id and
the time of the server. The branch has U+FFFD in place of each of its stray bytes, so it is the branch of
the record only where that has none. -/
def HoldsItem (branch : Text) (record row : Item) : Prop :=
  record.branch = branch ∧ ∃ id now, row = { record.entered id now with branch := branch.mended }

/-- A row holds the record of a consumable that was sent for a branch, in the same way. -/
def HoldsConsumable (branch : Text) (record : Consumable) (row : ConsumableRow) : Prop :=
  record.branch = branch ∧ ∃ id now,
    ConsumableRow.ofConsumable { record.entered id now with branch := branch.mended } = .ok row

theorem HoldsItem.branch_eq {branch : Text} {record row : Item} (h : HoldsItem branch record row) :
    row.branch = branch.mended := by
  obtain ⟨-, id, now, rfl⟩ := h
  rfl

theorem HoldsConsumable.branch_eq {branch : Text} {record : Consumable} {row : ConsumableRow}
    (h : HoldsConsumable branch record row) : row.branch = branch.mended := by
  obtain ⟨-, id, now, hrow⟩ := h
  exact Store.ofConsumable_branch hrow

section
variable {c : Client} {ctx : Nat → Api.Context} {s : Store} {branch : Text} {count : Nat}

/-- The rows that were added to the items of a store. -/
def AddedItems (s : Store) (state : Nat × Store) (new : List Item) : Prop :=
  state.2 = { s with items := s.items ++ new } ∧
    nextId (state.2.items.map (·.id)) = nextId (s.items.map (·.id)) + new.length

/-- The rows that were added to the consumables of a store. -/
def AddedConsumables (s : Store) (state : Nat × Store) (new : List ConsumableRow) : Prop :=
  state.2 = { s with consumables := s.consumables ++ new } ∧
    nextId (state.2.consumables.map (·.id)) = nextId (s.consumables.map (·.id)) + new.length

theorem itemSubmitter_appends (hreach : c.Reaches "/api/inventory-items")
    (hclock : ∀ n, (ctx n).now.FourDigitYear) (hbranch : branch ≠ [])
    (hroom : HasRoom (s.items.map (·.id)) count) :
    Appends (c.itemSubmitter (servedTransport ctx c.base))
      (fun r => r.Legible ∧ r.branch = branch) (HoldsItem branch) (AddedItems s) count := by
  rintro r ⟨n, now⟩ new ⟨hr, rfl⟩ ⟨hstore, hnext⟩ hlength
  have hid : fitsInt64 (nextId (now.items.map (·.id))) = true := hnext ▸ fits_nextId hroom hlength
  obtain ⟨hrefused, hsame⟩ | ⟨haccepted, hstored⟩ := Client.itemSubmitter_creates ctx
    (n := n) hreach (hclock n) hr hbranch hid
  · refine .inl ⟨hrefused, ?_⟩
    rw [AddedItems, hsame]
    exact ⟨hstore, hnext⟩
  · refine .inr ⟨haccepted, r.received.entered (nextId (now.items.map (·.id))) (ctx n).now.stored,
      ⟨rfl, _, _, rfl⟩, ?_, ?_⟩
    · have hstore : now = { s with items := s.items ++ new } := hstore
      rw [hstored, hstore, List.append_assoc]
    · have hnext : nextId (now.items.map (·.id)) = nextId (s.items.map (·.id)) + new.length := hnext
      rw [hstored, List.map_append, List.map_singleton]
      have hentered : (r.received.entered (nextId (now.items.map (·.id))) (ctx n).now.stored).id =
          nextId (now.items.map (·.id)) := rfl
      rw [hentered, nextId_concat, hnext, List.length_append, List.length_singleton]
      omega

theorem consumableSubmitter_appends (hreach : c.Reaches "/api/consumables")
    (hclock : ∀ n, (ctx n).now.FourDigitYear) (hbranch : branch ≠ [])
    (hroom : HasRoom (s.consumables.map (·.id)) count) :
    Appends (c.consumableSubmitter (servedTransport ctx c.base))
      (fun r => r.Legible ∧ r.branch = branch ∧ r.tonerTag ≠ [] ∧ r.state ≠ [])
      (HoldsConsumable branch) (AddedConsumables s) count := by
  rintro r ⟨n, now⟩ new ⟨hr, rfl, htag, hstate⟩ ⟨hstore, hnext⟩ hlength
  have hid : fitsInt64 (nextId (now.consumables.map (·.id))) = true :=
    hnext ▸ fits_nextId hroom hlength
  obtain ⟨hrefused, hsame⟩ | ⟨haccepted, row, hrow, hstored⟩ := Client.consumableSubmitter_creates
    ctx (n := n) hreach (hclock n) hr hbranch htag hstate hid
  · refine .inl ⟨hrefused, ?_⟩
    rw [AddedConsumables, hsame]
    exact ⟨hstore, hnext⟩
  · refine .inr ⟨haccepted, row, ⟨rfl, _, _, hrow⟩, ?_, ?_⟩
    · have hstore : now = { s with consumables := s.consumables ++ new } := hstore
      rw [hstored, hstore, List.append_assoc]
    · have hnext : nextId (now.consumables.map (·.id)) =
          nextId (s.consumables.map (·.id)) + new.length := hnext
      have hentered : row.id = nextId (now.consumables.map (·.id)) :=
        ConsumableRow.ofConsumable_id hrow
      rw [hstored, List.map_append, List.map_singleton, hentered, nextId_concat, hnext,
        List.length_append, List.length_singleton]
      omega

end

/-! ## Rows of a file -/

section
variable {grid : List Row} {schema : Schema} {branch : Text}

theorem mem_prepare {ρ : Type} {normalizer : Normalizer ρ} {row : PreparedRow ρ}
    (h : row ∈ (prepare grid schema branch normalizer).1) :
    ∃ cells ∈ grid, ∃ line m, row.record = normalizer.record line cells m branch := by
  obtain ⟨source, hsource, rfl⟩ := List.mem_map.mp h
  have hfilled : source ∈ filledRows grid := by
    unfold bodyRows at hsource
    split at hsource
    · exact List.mem_of_mem_drop hsource
    · exact hsource
  obtain ⟨⟨cells, line⟩, hcells, hkept⟩ := List.mem_filterMap.mp hfilled
  have hgrid : cells ∈ grid := List.fst_mem_of_mem_zipIdx hcells
  dsimp only at hkept
  split at hkept
  · cases hkept
  · cases hkept
    exact ⟨cells, hgrid, _, _, rfl⟩

/-- A normaliser of workstations or of printers. -/
def ForItems (normalizer : Normalizer Item) : Prop :=
  normalizer = .printer ∨
    ∃ draw : Nat → Nat, normalizer = .pc fun line => placeholderName (draw line)

theorem prepare_items (hgrid : ∀ row ∈ grid, row.Legible) {normalizer : Normalizer Item}
    (hnormalizer : ForItems normalizer) :
    ∀ row ∈ (prepare grid schema branch normalizer).1, ∀ record, row.record = .ok record →
      record.Legible ∧ record.branch = branch := by
  intro row hrow record hrecord
  obtain ⟨cells, hcells, line, m, hprepared⟩ := mem_prepare hrow
  rw [hprepared] at hrecord
  obtain rfl | ⟨draw, rfl⟩ := hnormalizer
  · exact printerRecord_legible (hgrid cells hcells) m branch hrecord
  · cases hrecord
    exact ⟨pcRecord_legible (hgrid cells hcells) m branch (draw line), rfl⟩

theorem prepare_consumables (hgrid : ∀ row ∈ grid, row.Legible) :
    ∀ row ∈ (prepare grid schema branch .consumable).1, ∀ record, row.record = .ok record →
      record.Legible ∧ record.branch = branch ∧ record.tonerTag ≠ [] ∧ record.state ≠ [] := by
  intro row hrow record hrecord
  obtain ⟨cells, hcells, line, m, hprepared⟩ := mem_prepare hrow
  rw [hprepared] at hrecord
  exact consumableRecord_legible (hgrid cells hcells) hrecord

end

/-! ## Whole imports -/

/-- A file without stray bytes is imported into a branch, whatever the store holds and whatever the
server thinks of the client: the store changes by new rows of one table only, one for each row that
was accepted, and each holds the record of its row, with the branch that was imported into if this has
no stray bytes either. The other rows are the failures. -/
theorem import_once (ctx : Nat → Api.Context) (hclock : ∀ n, (ctx n).now.FourDigitYear)
    (c : Client) (hitems : c.Reaches "/api/inventory-items")
    (hconsumables : c.Reaches "/api/consumables") (s : Store) (maxAttempts : Int)
    (batch file branch : Text) (schema : Schema) (content : FileContent) (grid : List Row)
    (hbranch : branch ≠ []) (hread : readSheet file content = .ok grid)
    (hgrid : ∀ row ∈ grid, row.Legible) :
    (∀ normalizer, ForItems normalizer →
      (prepare grid schema branch normalizer).1 ≠ [] →
      HasRoom (s.items.map (·.id)) (prepare grid schema branch normalizer).1.length →
      ∃ r new, ImportJob.run ⟨batch, file, schema, branch, normalizer⟩
          (c.itemSubmitter (servedTransport ctx c.base)) maxAttempts content
          { state := (0, s) } = .ok r ∧
        r.session.state.2 = { s with items := s.items ++ new } ∧
        Inserted (prepare grid schema branch normalizer).1 (HoldsItem branch) r.progress new ∧
        (branch.wellFormed = true → ∀ row ∈ new, row.branch = branch)) ∧
    ((prepare grid schema branch .consumable).1 ≠ [] →
      HasRoom (s.consumables.map (·.id)) (prepare grid schema branch .consumable).1.length →
      ∃ r new, ImportJob.run ⟨batch, file, schema, branch, .consumable⟩
          (c.consumableSubmitter (servedTransport ctx c.base)) maxAttempts content
          { state := (0, s) } = .ok r ∧
        r.session.state.2 = { s with consumables := s.consumables ++ new } ∧
        Inserted (prepare grid schema branch .consumable).1 (HoldsConsumable branch) r.progress
          new ∧
        (branch.wellFormed = true → ∀ row ∈ new, row.branch = branch)) := by
  constructor
  · intro normalizer hnormalizer hsome hroom
    obtain ⟨r, new, hrun, hadded, hinserted⟩ := ImportJob.run_inserts
      ⟨batch, file, schema, branch, normalizer⟩ hread hsome
      (itemSubmitter_appends hitems hclock hbranch hroom) (prepare_items hgrid hnormalizer)
      maxAttempts (0, s) ⟨by rw [List.append_nil], (Int.add_zero _).symm⟩
    exact ⟨r, new, hrun, hadded.1, hinserted, fun hformed => hinserted.forall_mem fun _ _ hholds =>
      hholds.branch_eq.trans (Text.mended_of_wellFormed hformed)⟩
  · intro hsome hroom
    obtain ⟨r, new, hrun, hadded, hinserted⟩ := ImportJob.run_inserts
      ⟨batch, file, schema, branch, .consumable⟩ hread hsome
      (consumableSubmitter_appends hconsumables hclock hbranch hroom) (prepare_consumables hgrid)
      maxAttempts (0, s) ⟨by rw [List.append_nil], (Int.add_zero _).symm⟩
    exact ⟨r, new, hrun, hadded.1, hinserted, fun hformed => hinserted.forall_mem fun _ _ hholds =>
      hholds.branch_eq.trans (Text.mended_of_wellFormed hformed)⟩

/-! ## A sheet of three toners -/

/-- The toner of a row that names HP and a reference. -/
def tonerInFile (reference : Text) : Consumable :=
  { brand := "HP", reference, branch := "B", tonerTag := "unicolor", black := .counted 0
    state := "disponible" }

/-- The last of the toners has no reference. -/
def sheetOfToners : List Row :=
  [["Marque", "Ref"], ["HP", "CF410A"], ["HP", "CF411A"], ["HP", ""]].map fun row =>
    row.map fun t => Cell.ofText (Text.ofString t)

def fileOfToners : FileContent :=
  .bytes (Text.bytes "Marque;Ref\nHP;CF410A\nHP;CF411A\nHP;\n")

theorem fileOfToners_read : readSheet "toners.csv" fileOfToners = .ok sheetOfToners := by
  decide +kernel

theorem sheetOfToners_legible : ∀ row ∈ sheetOfToners, row.Legible := by decide

theorem sheetOfToners_prepared : (prepare sheetOfToners .consumable "B" .consumable).1 =
    [⟨2, .ok (tonerInFile "CF410A")⟩, ⟨3, .ok (tonerInFile "CF411A")⟩,
      ⟨4, .error ⟨FieldName.reference, .missing⟩⟩] := by
  rw [prepare_of_infer (show topRow sheetOfToners = _ from rfl) Mapping.infer_reference]
  rfl

theorem sheetOfToners_filled : (prepare sheetOfToners .consumable "B" .consumable).1 ≠ [] := by
  rw [sheetOfToners_prepared]
  exact List.cons_ne_nil _ _

theorem sheetOfToners_rows :
    (prepare sheetOfToners .consumable "B" .consumable).1.map PreparedRow.toImportRow =
      [⟨2, tonerInFile "CF410A", none⟩, ⟨3, tonerInFile "CF411A", none⟩,
        ⟨4, default, some (FieldError.message ⟨FieldName.reference, .missing⟩)⟩] := by
  rw [sheetOfToners_prepared]
  rfl

theorem tonersInFile_sendable :
    (tonerInFile "CF410A").Sendable ∧ (tonerInFile "CF411A").Sendable := by
  have hsendable : ∀ row ∈ (prepare sheetOfToners .consumable "B" .consumable).1, ∀ record,
      row.record = .ok record → record.Sendable := fun row hrow record hrecord =>
    (prepare_consumables sheetOfToners_legible row hrow record hrecord).1.sendable
  rw [sheetOfToners_prepared] at hsendable
  simp only [List.forall_mem_cons] at hsendable
  exact ⟨hsendable.1 _ rfl, hsendable.2.1 _ rfl⟩

/-- The clock of the server is right when the second request arrives. At all other times it is past the
expiry of the token. -/
def onlySecond (n : Nat) : Api.Context :=
  if n = 1 then Api.earlyContext else { Api.earlyContext with now := { unix := 604801 } }

/-- The first administrator submits toners to that server. -/
def tonerSubmitter : Submitter Consumable (Nat × Store) :=
  clientOfFirst.consumableSubmitter (servedTransport onlySecond clientOfFirst.base)

theorem onlySecond_refuses {n : Nat} (hn : n ≠ 1) {r : Consumable} (hr : r.Sendable) (s : Store) :
    ∃ message, tonerSubmitter r (n, s) = ({ error := some message }, n + 1, s) := by
  obtain ⟨v, hbody, -⟩ := Client.sentConsumable_posted hr
  have hcontext : onlySecond n = { Api.earlyContext with now := { unix := 604801 } } := if_neg hn
  have hexpired : Api.authenticate (onlySecond n) s
      (Client.posted (Client.bearing clientOfFirst.token) "/api/consumables" v) =
        Api.refuse 401 "invalid token" := by
    rw [hcontext]
    exact Api.authenticate_faulty rfl Api.asFirst_content (e := .expired) (by decide)
  obtain ⟨e, he⟩ := Client.ask_unknown "creating consumable"
    (oneOf Consumable.wireFields) clientOfFirst_consumables clientOfFirst_address rfl
    Client.consumables_posted (by decide) (by decide) hexpired
  refine ⟨e.message, ?_⟩
  rw [tonerSubmitter, Client.consumableSubmitter, Client.createConsumable, hbody, he]
  rfl

/-- Of three rows the first is accepted when it is submitted again, the second is refused throughout, and
the third has a fault. -/
theorem runImport_ofThree {ρ σ : Type} {submit : Submitter ρ σ} {a b c : ρ} {fault : Text}
    {start next : σ} {first : Text} {message : Nat → Text} (late : Nat → σ)
    (hfirst : submit a start = ({ error := some first }, next))
    (hagain : submit a next = ({}, late 0))
    (hrefused : ∀ i, submit b (late i) = ({ error := some (message i) }, late (i + 1)))
    {batch file : Text} {total : Int} {r : Run ρ σ}
    (hsession : r.session = (runImport submit 2 batch file total
      [⟨2, a, none⟩, ⟨3, b, none⟩, ⟨4, c, some fault⟩] { state := start }).session)
    (hprogress : r.progress = (runImport submit 2 batch file total
      [⟨2, a, none⟩, ⟨3, b, none⟩, ⟨4, c, some fault⟩] { state := start }).progress) :
    r.session.state = late 4 ∧ r.progress.accepted = 1 ∧
      r.progress.failures.map (·.line) = [4, 3] := by
  have hbound : attemptBound 2 - 1 = 1 := by decide
  simp [hsession, hprogress, runImport, firstPass, secondPass, firstTry, secondTry,
    submitUntilAccepted, hbound, attempt, Session.send, hfirst, hagain, hrefused, Run.accept, Run.fail,
    Run.note, Run.queue, Run.unqueue, Run.reach, Run.publish, Run.finish, Progress.accept,
    Progress.fail, Progress.queue, Progress.unqueue, Progress.finish]

theorem onlySecond_fourDigitYear (n : Nat) : (onlySecond n).now.FourDigitYear := by
  unfold onlySecond
  split <;> decide

/-- The first toner is accepted when it is submitted again. Then the second is refused four times. -/
theorem fileOfToners_run :
    ∃ r after, ImportJob.run ⟨"1", "toners.csv", .consumable, "B", .consumable⟩ tonerSubmitter 2
        fileOfToners { state := (0, Api.branchOfManager) } = .ok r ∧
      r.session.state = (6, after) ∧
      Api.Stocked after ((tonerInFile "CF410A").entered 1 Api.earlyContext.now.stored) ∧
      r.progress.accepted = 1 ∧ r.progress.failures.map (·.line) = [4, 3] := by
  obtain ⟨hfirst, hsecond⟩ := tonersInFile_sendable
  obtain ⟨after, hstocked, hanswer⟩ := Client.createConsumable_answer (n := 1)
    hfirst (by decide) (by rfl) clientOfFirst_submits Api.branchOfManager_sound
    Api.branchOfManager_keyed (onlySecond_fourDigitYear 1) (by decide)
  have haccepted : tonerSubmitter (tonerInFile "CF410A") (1, Api.branchOfManager) =
      ({}, 2, after) := by
    rw [tonerSubmitter, Client.consumableSubmitter, hanswer]
    rfl
  obtain ⟨early, hearly⟩ := onlySecond_refuses (n := 0) (by decide) hfirst Api.branchOfManager
  choose message hlate using fun i => onlySecond_refuses (n := i + 2) (by omega) hsecond after
  obtain ⟨r, hrun, hsession, hprogress⟩ := ImportJob.run_prepared
    ⟨"1", "toners.csv", .consumable, "B", .consumable⟩ fileOfToners_read sheetOfToners_filled
    sheetOfToners_rows tonerSubmitter 2 (0, Api.branchOfManager)
  obtain ⟨hstate, hcount, hfailures⟩ := runImport_ofThree
    (fun i => (i + 2, after)) hearly haccepted hlate hsession hprogress
  exact ⟨r, after, hrun, hstate, hstocked, hcount, hfailures⟩

/-- The first toner is stored once, as its row says, though it was refused before. Nothing is stored of
the other rows. -/
theorem fileOfToners_once :
    ∃ r new, ImportJob.run ⟨"1", "toners.csv", .consumable, "B", .consumable⟩ tonerSubmitter 2
        fileOfToners { state := (0, Api.branchOfManager) } = .ok r ∧
      r.session.state.1 = 6 ∧
      r.session.state.2 = { Api.branchOfManager with
        consumables := Api.branchOfManager.consumables ++ new } ∧
      Inserted (prepare sheetOfToners .consumable "B" .consumable).1 (HoldsConsumable "B") r.progress
        new ∧
      (∃ row, new = [row] ∧ row.branch = "B" ∧
        row.load = .ok ((tonerInFile "CF410A").entered 1 Api.earlyContext.now.stored)) ∧
      r.progress.accepted = 1 ∧ r.progress.failures.map (·.line) = [4, 3] := by
  obtain ⟨r, new, hrun, hstore, hinserted, hbranch⟩ := (import_once onlySecond
    onlySecond_fourDigitYear clientOfFirst clientOfFirst_items clientOfFirst_consumables
    Api.branchOfManager 2 "1" "toners.csv" "B" .consumable fileOfToners sheetOfToners (by decide)
    fileOfToners_read sheetOfToners_legible).2 sheetOfToners_filled
    (by rw [sheetOfToners_prepared]; decide)
  obtain ⟨r', after, hrun', hstate, hstocked, hcount, hfailures⟩ := fileOfToners_run
  obtain rfl : r = r' := Except.ok.inj (hrun.symm.trans hrun')
  obtain ⟨row, rfl⟩ : ∃ row, new = [row] :=
    List.length_eq_one_iff.mp (hinserted.count.symm.trans hcount)
  have hafter : after = { Api.branchOfManager with consumables := [row] } := by
    rw [hstate] at hstore
    exact hstore
  obtain ⟨held, hheld, hload⟩ := hstocked.held
  rw [hafter] at hheld
  obtain rfl := List.mem_singleton.mp hheld
  exact ⟨r, _, hrun, congrArg Prod.fst hstate, hstore, hinserted,
    ⟨held, rfl, hbranch (by decide) held hheld, hload⟩, hcount, hfailures⟩

end Stockroom

import Stockroom.Proofs.Record.Configuration
import Stockroom.Proofs.Store.Readback

/-!
Replacing a consumable. A body whose toner type is valid and new is configured for it, so that counts of
the old type are gone; any other body must be well formed as it stands, once it is filled in. What is
stored is that record with the id and the creation time of the one it replaces.

Main definitions and statements:
* `Consumable.Supersedes`: what a body makes of the consumable that it replaces;
* `Consumable.supersedes_iff`: the store asks exactly this;
* `StoreCall.updateConsumable_verdict`: what becomes of every replacement.
-/
namespace Stockroom
set_option autoImplicit false

/-! ## Bodies -/

/-- What a body makes of the consumable that it replaces, if it is not refused. -/
inductive Consumable.Supersedes (body existing : Consumable) : Consumable → Prop where
  | retyped (t : TonerType) (htag : body.tonerTag = t.tag)
      (hnew : body.tonerTag ≠ existing.tonerTag) (hcounts : body.Countable)
      (hpresentable : body.stated.Presentable) :
      Supersedes body existing (body.stated.configured t body.hasDrum)
  | checked (ready : Consumable)
      (hkept : ∀ t : TonerType, body.tonerTag = t.tag → body.tonerTag = existing.tonerTag)
      (hready : readyConsumable body = .ok ready) : Supersedes body existing ready

namespace Store

variable {existing body typed : Consumable} {t : TonerType}

theorem retyped_kept
    (hkept : ∀ t : TonerType, body.tonerTag = t.tag → body.tonerTag = existing.tonerTag) :
    retyped existing body = .ok body := by
  unfold retyped
  split
  · next hnew =>
    obtain ⟨htyped, hdiffers⟩ := Bool.and_eq_true_iff.mp hnew
    obtain ⟨t, ht⟩ := Option.isSome_iff_exists.mp htyped
    exact absurd (hkept t (TonerType.ofTag_eq_some.mp ht)) (by simpa using hdiffers)
  · rfl

theorem retyped_new (htag : body.tonerTag = t.tag) (hnew : body.tonerTag ≠ existing.tonerTag) :
    retyped existing body = .ok typed ↔
      body.Countable ∧ body.configured t body.hasDrum = typed := by
  have htyped : body.taggedType = some t := TonerType.ofTag_eq_some.mpr htag
  have hasked : (body.taggedType.isSome && body.tonerTag != existing.tonerTag) = true := by
    rw [htyped]
    simpa using hnew
  rw [retyped, if_pos hasked]
  have hconfigured : body.configure body.tonerTag body.hasDrum = .ok typed ↔
      body.Countable ∧ body.configured t body.hasDrum = typed := by
    rw [Consumable.configure_eq_ok]
    constructor
    · rintro ⟨other, hother, hboth⟩
      obtain rfl : t = other := TonerType.tag_injective (htag.symm.trans hother)
      exact hboth
    · exact fun hboth => ⟨t, htag, hboth⟩
  rw [← hconfigured]
  cases body.configure body.tonerTag body.hasDrum with
  | ok c => simp only [Except.ok.injEq]
  | error e => exact iff_of_false nofun nofun

end Store

namespace Consumable

variable {body existing ready : Consumable} {t : TonerType} {drum : Bool}

theorem readyConsumable_configured (hcounts : body.Countable) :
    readyConsumable (body.configured t drum) = .ok ready ↔
      body.stated.Presentable ∧ body.stated.configured t drum = ready := by
  have hfilled : (body.configured t drum).filledIn = body.stated.configured t drum :=
    filledIn_tagged rfl
  have hstated : body.stated.Countable := fun name => hcounts name
  rw [readyConsumable_eq_ok_iff, hfilled]
  constructor
  · rintro ⟨rfl, hvalid⟩
    exact ⟨(validate_configured hstated).mp hvalid, rfl⟩
  · rintro ⟨hpresentable, rfl⟩
    exact ⟨rfl, (validate_configured hstated).mpr hpresentable⟩

theorem supersedes_iff : body.Supersedes existing ready ↔
    (Store.retyped existing body >>= readyConsumable) = .ok ready := by
  rw [bind_eq_ok]
  constructor
  · rintro (⟨t, htag, hnew, hcounts, hpresentable⟩ | ⟨ready, hkept, hready⟩)
    · exact ⟨_, (Store.retyped_new htag hnew).mpr ⟨hcounts, rfl⟩,
        (readyConsumable_configured hcounts).mpr ⟨hpresentable, rfl⟩⟩
    · exact ⟨body, Store.retyped_kept hkept, hready⟩
  · rintro ⟨typed, htyped, hready⟩
    by_cases hkept : ∀ t : TonerType, body.tonerTag = t.tag → body.tonerTag = existing.tonerTag
    · rw [Store.retyped_kept hkept] at htyped
      obtain rfl := Except.ok.inj htyped
      exact .checked ready hkept hready
    · obtain ⟨t, hdiffers⟩ := Classical.not_forall.mp hkept
      obtain ⟨htag, hnew⟩ := Classical.not_imp.mp hdiffers
      obtain ⟨hcounts, rfl⟩ := (Store.retyped_new htag hnew).mp htyped
      obtain ⟨hpresentable, rfl⟩ := (readyConsumable_configured hcounts).mp hready
      exact .retyped t htag hnew hcounts hpresentable

theorem Supersedes.validate_eq_ok (h : body.Supersedes existing ready) :
    ready.validate = .ok () := by
  obtain ⟨_, -, hready⟩ := bind_eq_ok.mp (supersedes_iff.mp h)
  exact (readyConsumable_eq_ok_iff.mp hready).2

end Consumable

/-! ## Replacing -/

namespace Store

variable {s : Store} {now : Instant} {id : Int} {body existing ready : Consumable}

theorem consumable?_unknown (hreadable : s.readable [.consumables] "getting consumable" = .ok ())
    (h : id ∉ s.ids .consumables) : s.consumable? id = .ok none := by
  have hnone : s.consumables.find? (·.id == id) = none := by
    rw [List.find?_eq_none]
    intro r hr heq
    exact h (beq_iff_eq.mp heq ▸ List.mem_map_of_mem hr)
  rw [consumable?, hreadable, hnone]
  rfl

theorem consumable?_failsOnly (id : Int) :
    FailsOnly (· = .database "getting consumable") (s.consumable? id) := by
  refine .bind (readable_failsOnly _ _) fun _ _ => ?_
  split
  · exact .ok _
  · exact .bind (loadConsumable_failsOnly _ _) fun _ _ => .ok _

theorem updateConsumable_eq (hfound : s.consumable? id = .ok (some existing)) :
    s.updateConsumable now id body = (retyped existing body >>= readyConsumable) >>= fun ready =>
      (s.replaceConsumable now existing ready).map fun (after, s') => (some after, s') := by
  rw [updateConsumable, hfound]
  cases htyped : retyped existing body with
  | error e => simp only [bind, Except.bind, htyped]
  | ok typed =>
    cases hready : readyConsumable typed with
    | error e => simp only [bind, Except.bind, htyped, hready]
    | ok ready =>
      simp only [bind, Except.bind, htyped, hready]
      cases s.replaceConsumable now existing ready with
      | error e => rfl
      | ok pair => rfl

/-- A well formed record replaces one that was found, unless the table takes no writes. -/
theorem replaceConsumable_ready (now : Instant) (hvalid : ready.validate = .ok ())
    (hfound : s.consumable? id = .ok (some existing)) :
    ∃ row, ConsumableRow.ofConsumable
        (stamped ready existing.id existing.createdAt now.stored) = .ok row ∧
      s.replaceConsumable now existing ready =
        s.writable .consumables true "updating consumable" >>= fun _ =>
          .ok (stamped ready existing.id existing.createdAt now.stored, { s with
            consumables := s.consumables.map fun old =>
              if old.id == existing.id then row else old }) := by
  obtain ⟨row, loaded, hwritten, hload, hid, -⟩ := consumableRow_loads hvalid existing.id
    existing.createdAt now.stored "updating consumable"
  have hrow := consumableRow_eq_ok hwritten
  obtain rfl := Except.ok.inj (hload.symm.trans (ConsumableRow.load_ofConsumable hrow))
  refine ⟨row, hrow, ?_⟩
  have hread : loadConsumable { s with consumables := s.consumables.map fun old =>
      if old.id == existing.id then row else old } "getting consumable" row = .ok _ :=
    loadConsumable_whole hload (hid ▸ consumable?_whole hfound)
  unfold replaceConsumable
  cases s.writable .consumables true "updating consumable" with
  | error e => rfl
  | ok _ => simp only [bind, Except.bind, hwritten, hread, pure, Except.pure]

end Store

namespace StoreCall

variable {s : Store} {now : Instant} {id : Int} {body existing ready : Consumable}

theorem run_of_eq_ok {call : StoreCall} {answer : StoreAnswer} {s' : Store}
    (h : call.attempt now s = .ok (answer, s')) : call.run now s = (.ok answer, s') := by
  rw [run, h]

theorem run_of_eq_error {call : StoreCall} {e : StoreError} (h : call.attempt now s = .error e) :
    call.run now s = (.error e, s) := by
  rw [run, h]

theorem updateConsumable_refused (hfound : s.consumable? id = .ok (some existing))
    (h : ¬ ∃ ready, body.Supersedes existing ready) :
    ∃ e : StoreError, e.IsInvalid ∧ (updateConsumable id body).run now s = (.error e, s) := by
  have hinvalid : FailsOnly StoreError.IsInvalid (Store.retyped existing body >>= readyConsumable) :=
    .bind (Store.retyped_failsOnly existing body) fun typed _ => readyConsumable_failsOnly typed
  cases hmade : Store.retyped existing body >>= readyConsumable with
  | ok ready => exact absurd ⟨ready, Consumable.supersedes_iff.mpr hmade⟩ h
  | error e =>
    refine ⟨e, hinvalid e hmade, run_of_eq_error ?_⟩
    rw [attempt, Store.updateConsumable_eq hfound, hmade]
    rfl

theorem updateConsumable_taken (now : Instant) (hfound : s.consumable? id = .ok (some existing))
    (h : body.Supersedes existing ready) :
    (updateConsumable id body).attempt now s =
      gives (s.replaceConsumable now existing ready) fun c => .consumable (some c) := by
  rw [attempt, Store.updateConsumable_eq hfound, Consumable.supersedes_iff.mp h]
  simp only [bind, Except.bind]
  cases s.replaceConsumable now existing ready with
  | error e => rfl
  | ok pair => rfl

/-- What becomes of a replacement. An unknown id gives nothing. Otherwise the body is refused, or it
replaces the record, which keeps its id and its creation time and is shown as it is stored. Nothing else
in the store changes, and nothing at all if the database fails. -/
theorem updateConsumable_verdict (s : Store) (now : Instant) (id : Int) (body : Consumable) :
    let outcome := (updateConsumable id body).run now s
    (s.readable [.consumables] "getting consumable" = .ok () → id ∉ s.ids .consumables →
      outcome = (.ok (.consumable none), s)) ∧
    (∀ e, s.consumable? id = .error e →
      e = .database "getting consumable" ∧ outcome = (.error e, s)) ∧
    ∀ existing, s.consumable? id = .ok (some existing) →
      ((¬ ∃ ready, body.Supersedes existing ready) →
        ∃ e : StoreError, e.IsInvalid ∧ outcome = (.error e, s)) ∧
      ∀ ready, body.Supersedes existing ready →
        (∀ e, s.writable .consumables true "updating consumable" = .error e →
          e = .database "updating consumable" ∧ outcome = (.error e, s)) ∧
        (s.writable .consumables true "updating consumable" = .ok () →
          ∃ row after s', after = Store.stamped ready id existing.createdAt now.stored ∧
            ConsumableRow.ofConsumable after = .ok row ∧
            s' = { s with
              consumables := s.consumables.map fun old => if old.id == id then row else old } ∧
            outcome = (.ok (.consumable (some after)), s') ∧
            s'.consumable? id = .ok (some after)) := by
  refine ⟨fun hreadable hunknown => ?_, fun e hunread => ⟨Store.consumable?_failsOnly id e hunread, ?_⟩,
    fun existing hfound => ⟨updateConsumable_refused hfound, fun ready hready => ?_⟩⟩
  · refine run_of_eq_ok ?_
    rw [attempt, Store.updateConsumable, Store.consumable?_unknown hreadable hunknown]
    rfl
  · refine run_of_eq_error ?_
    rw [attempt, Store.updateConsumable, hunread]
    rfl
  · have htaken := updateConsumable_taken now hfound hready
    obtain ⟨row, hrow, hreplaced⟩ :=
      Store.replaceConsumable_ready now hready.validate_eq_ok hfound
    have hid : existing.id = id := by
      obtain ⟨old, hold, hexisting⟩ := Store.consumable?_some hfound
      exact (ConsumableRow.load_id hexisting).trans (by simpa using List.find?_some hold)
    rw [hid] at hrow hreplaced
    refine ⟨fun e hunwritten => ⟨Store.writable_failsOnly _ _ _ e hunwritten, ?_⟩, fun hwritable => ?_⟩
    · refine run_of_eq_error ?_
      rw [htaken, hreplaced, hunwritten]
      rfl
    · rw [hwritable] at hreplaced
      refine ⟨row, _, _, rfl, hrow, rfl, run_of_eq_ok ?_, Store.consumable?_replaced hfound hreplaced⟩
      rw [htaken, hreplaced]
      rfl

/-- A store with one consumable, a colour toner. -/
def storeOfForm : Store := ((createConsumable Consumable.ofForm).run { unix := 0 } {}).2

/-- A body that makes a black toner of it, and leaves the counts of the colours there. -/
def blackBody : Consumable :=
  { Consumable.ofForm with tonerTag := TonerType.unicolor.tag, black := .counted 9 }

theorem storeOfForm_retyped : ∃ after s',
    (updateConsumable 1 blackBody).run { unix := 1 } storeOfForm =
        (.ok (.consumable (some after)), s') ∧
      after.black = .counted 9 ∧ after.cyan = .notApplicable ∧ after.state = inStockState := by
  obtain ⟨existing, hfound, htag⟩ : ∃ existing,
      storeOfForm.consumable? 1 = .ok (some existing) ∧
        existing.tonerTag = TonerType.multicolor.tag := ⟨_, rfl, rfl⟩
  have hnew : blackBody.tonerTag ≠ existing.tonerTag := htag ▸ TonerType.tag_ne
  have hready : blackBody.Supersedes existing _ :=
    .retyped .unicolor rfl hnew (Consumable.checkCounts_quantities.mp rfl)
      ⟨by decide, by decide, by decide, .inl rfl⟩
  obtain ⟨-, -, hknown⟩ := updateConsumable_verdict storeOfForm { unix := 1 } 1 blackBody
  obtain ⟨-, hreplaced⟩ := (hknown existing hfound).2 _ hready
  obtain ⟨_, _, _, rfl, -, -, houtcome, -⟩ := hreplaced rfl
  exact ⟨_, _, houtcome, rfl, rfl, rfl⟩

/-- The store after that consumable was damaged. -/
def storeOfDamaged : Store := storeOfForm.corrupt .consumables 1

/-- A row that cannot be read is not replaced, however well formed the body is. -/
theorem storeOfDamaged_unread :
    1 ∈ storeOfDamaged.ids .consumables ∧
      readyConsumable Consumable.ofForm = .ok (Consumable.ofForm.taggedAs .multicolor) ∧
      (updateConsumable 1 Consumable.ofForm).run { unix := 1 } storeOfDamaged =
        (.error (.database "getting consumable"), storeOfDamaged) ∧
      ¬ (StoreError.database "getting consumable").IsInvalid :=
  ⟨by decide +kernel, rfl, rfl, by rintro ⟨_, ⟨⟩⟩⟩

end StoreCall
end Stockroom

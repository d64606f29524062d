import Stockroom.Proofs.Store.Markings

/-!
Why an operation of the store fails when nothing is wrong with the database. Looking something up
does not fail, but for a search text that is too long; an operation that writes fails because of the
record it was given, before it has written anything.

Main definitions and statements:
* `FailsOnly`: what a computation fails with, with a lemma for each way in which computations are put
  together;
* `Store.createConsumable_early`, `Store.updateConsumable_early`: a consumable is read again after it
  was written, which never fails;
* `Store.Sound`, `Store.Change.keeps_sound`: nothing is wrong with the database, and every stored
  count can be read;
* one lemma for each operation of a sound store.
-/
namespace Stockroom
set_option autoImplicit false

/-! ## What a computation fails with -/

/-- Whatever a computation fails with meets a condition. -/
def FailsOnly {α : Type} (P : StoreError → Prop) (x : Except StoreError α) : Prop :=
  ∀ e, x = .error e → P e

/-- The record was refused. -/
def StoreError.IsInvalid (e : StoreError) : Prop := ∃ cause, e = .invalid cause

namespace FailsOnly

variable {α β : Type} {P : StoreError → Prop} {x : Except StoreError α}

theorem ok (a : α) : FailsOnly P (.ok a : Except StoreError α) := by
  intro e h
  cases h

theorem error {e : StoreError} (h : P e) : FailsOnly P (.error e : Except StoreError α) := by
  rintro _ ⟨⟩
  exact h

theorem of_eq_ok {a : α} (h : x = .ok a) : FailsOnly P x := by
  rw [h]
  exact ok a

theorem never (h : FailsOnly (fun _ => False) x) {e : StoreError} : x ≠ .error e := fun heq => h e heq

theorem succeeds (h : FailsOnly (fun _ => False) x) : ∃ a, x = .ok a := by
  cases x with
  | ok a => exact ⟨a, rfl⟩
  | error e => exact (h e rfl).elim

theorem bind {f : α → Except StoreError β} (hx : FailsOnly P x)
    (hf : ∀ a, x = .ok a → FailsOnly P (f a)) : FailsOnly P (x >>= f) := by
  cases x with
  | ok a => exact hf a rfl
  | error e =>
    rintro _ ⟨⟩
    exact hx e rfl

end FailsOnly

/-! ## Records that are checked -/

/-- The counts of a record that was checked can be written, and read again. -/
theorem ConsumableRow.ofConsumable_of_validate {c : Consumable} (h : c.validate = .ok ()) :
    ∃ row loaded, ofConsumable c = .ok row ∧ row.load = .ok loaded := by
  obtain ⟨-, -, -, -, _, -, hchecked, -⟩ := Consumable.validate_eq_ok.mp h
  have hcounts : ∀ q ∈ c.quantities, q.written = .ok q.encode := by
    intro q hq
    rw [Quantity.written, Consumable.checkCounts_eq_ok.mp hchecked q hq]
    rfl
  simp only [Consumable.quantities, Consumable.colors, List.cons_append, List.nil_append,
    List.forall_mem_cons, List.not_mem_nil, false_implies, implies_true, and_true] at hcounts
  obtain ⟨hcyan, hmagenta, hyellow, hcolorBlack, hblack, hdrum⟩ := hcounts
  have hrow : ∃ row, ofConsumable c = .ok row := by
    rw [ofConsumable, hcyan, hmagenta, hyellow, hcolorBlack, hblack, hdrum]
    exact ⟨_, rfl⟩
  obtain ⟨row, hrow⟩ := hrow
  obtain ⟨loaded, hloaded⟩ := (wellMarked_of_validate h hrow).load
  exact ⟨row, loaded, hrow, hloaded⟩

theorem Store.checkItem_failsOnly (r : Item) : FailsOnly StoreError.IsInvalid (checkItem r) := by
  unfold checkItem
  split
  · exact .ok _
  · exact .error ⟨_, rfl⟩

theorem readyConsumable_failsOnly (c : Consumable) :
    FailsOnly StoreError.IsInvalid (readyConsumable c) := by
  unfold readyConsumable
  split
  · exact .ok _
  · exact .error ⟨_, rfl⟩

theorem Store.retyped_failsOnly (existing c : Consumable) :
    FailsOnly StoreError.IsInvalid (retyped existing c) := by
  unfold retyped
  split
  · split
    · exact .ok _
    · exact .error ⟨_, rfl⟩
  · exact .ok _

theorem Store.checkDelivery_failsOnly (r : Delivery) :
    FailsOnly StoreError.IsInvalid (checkDelivery r) := by
  unfold checkDelivery
  split
  · exact .ok _
  · exact .error ⟨_, rfl⟩

/-! ## Consumables are written last -/

namespace Store

variable {s : Store} {P : StoreError → Prop}

/-- A record that was checked has a row that can be loaded. -/
theorem consumableRow_loads {c : Consumable} (hvalid : c.validate = .ok ()) (id : Int)
    (createdAt updatedAt : Instant) (activity : Text) :
    ∃ row loaded, consumableRow c id createdAt updatedAt activity = .ok row ∧
      row.load = .ok loaded ∧ row.id = id ∧ loaded.id = id := by
  obtain ⟨row, loaded, hrow, hload⟩ :=
    ConsumableRow.ofConsumable_of_validate (c := stamped c id createdAt updatedAt) hvalid
  have hid : row.id = id := ConsumableRow.ofConsumable_id hrow
  refine ⟨row, loaded, ?_, hload, hid, (ConsumableRow.load_id hload).trans hid⟩
  unfold stamped at hrow
  rw [consumableRow, hrow]

theorem loadConsumable_whole {row : ConsumableRow} {c : Consumable} {activity : Text}
    (hload : row.load = .ok c)
    (hwhole : s.faults.unreadable.contains (.consumables, row.id) = false) :
    s.loadConsumable activity row = .ok c := by
  have hloadable : s.loadable .consumables row.id activity = .ok () :=
    if_neg (by rw [hwhole]; decide)
  rw [loadConsumable, hloadable, hload]
  rfl

/-- A record that was checked is read back from the row it is written to. -/
theorem writeConsumable_succeeds {c : Consumable} (hvalid : c.validate = .ok ()) (id : Int)
    (createdAt updatedAt : Instant) (activity : Text) (after : ConsumableRow → Store)
    (hwhole : ∀ row, (after row).faults.unreadable.contains (.consumables, id) = false) :
    FailsOnly P (do
      let row ← consumableRow c id createdAt updatedAt activity
      return (← (after row).loadConsumable "getting consumable" row, after row)) := by
  obtain ⟨row, loaded, hwritten, hload, hid, -⟩ :=
    consumableRow_loads hvalid id createdAt updatedAt activity
  have hloaded : (after row).loadConsumable "getting consumable" row = .ok loaded :=
    loadConsumable_whole hload (hid ▸ hwhole row)
  refine .bind (.of_eq_ok hwritten) fun other hother => ?_
  obtain rfl : row = other := Except.ok.inj (hwritten.symm.trans hother)
  exact .bind (.of_eq_ok hloaded) fun _ _ => .ok _

theorem consumable?_whole {id : Int} {c : Consumable} (h : s.consumable? id = .ok (some c)) :
    s.faults.unreadable.contains (.consumables, c.id) = false := by
  obtain ⟨_, -, h⟩ := bind_eq_ok.mp h
  split at h
  · cases h
  · next row _ =>
    obtain ⟨loaded, hloaded, h⟩ := bind_eq_ok.mp h
    cases h
    obtain ⟨_, hloadable, -⟩ := bind_eq_ok.mp hloaded
    rw [ConsumableRow.load_id (loadConsumable_eq_ok hloaded)]
    unfold loadable at hloadable
    split at hloadable
    · cases hloadable
    · next hwhole => simpa using hwhole

/-- A consumable that is not added was refused before it was written, as long as its id is not that of
a damaged row. -/
theorem createConsumable_early
    (hwhole : s.faults.unreadable.contains (.consumables, nextId (s.ids .consumables)) = false)
    (now : Instant) (c : Consumable) :
    FailsOnly (fun e => e.IsInvalid ∨
      s.writable .consumables true "creating consumable" = .error e) (s.createConsumable now c) := by
  refine .bind (fun e herror => .inl (readyConsumable_failsOnly c e herror)) fun ready hready => ?_
  obtain ⟨-, hvalid⟩ := readyConsumable_eq_ok hready
  refine .bind (fun e herror => .inr herror) fun _ _ => ?_
  exact writeConsumable_succeeds hvalid _ _ _ _ _ fun _ => hwhole

/-- A consumable that is not replaced was not found, or refused before it was written. -/
theorem updateConsumable_early (s : Store) (now : Instant) (id : Int) (c : Consumable) :
    FailsOnly (fun e => e.IsInvalid ∨ s.consumable? id = .error e ∨
      s.writable .consumables true "updating consumable" = .error e)
      (s.updateConsumable now id c) := by
  refine .bind (fun e herror => .inr (.inl herror)) fun found hfound => ?_
  cases found with
  | none => exact .ok _
  | some existing =>
    have hwhole := consumable?_whole hfound
    refine .bind (fun e herror => .inl (retyped_failsOnly existing c e herror)) fun typed _ => ?_
    refine .bind (fun e herror => .inl (readyConsumable_failsOnly typed e herror))
      fun ready hready => ?_
    obtain ⟨-, hvalid⟩ := readyConsumable_eq_ok hready
    refine .bind (.bind (fun e herror => .inr (.inr herror)) fun _ _ => ?_) fun _ _ => .ok _
    exact writeConsumable_succeeds hvalid _ _ _ _ _ fun _ => hwhole

/-! ## Sound stores -/

/-- Nothing keeps the database from answering, and every stored count can be read. -/
structure Sound (s : Store) : Prop where
  faultless : s.faults = {}
  marked : ∀ r ∈ s.consumables, r.WellMarked

theorem sound_empty : Sound {} := ⟨rfl, fun _ h => nomatch h⟩

theorem Change.keeps_sound {s s' : Store} (change : s.Change s') (h : s.Sound) : s'.Sound :=
  ⟨change.sound h.faultless, change.wellMarked h.marked⟩

namespace Sound

variable {s : Store} {P : StoreError → Prop}

theorem readable (hs : s.Sound) (tables : List TableName) (activity : Text) :
    FailsOnly P (s.readable tables activity) := by
  have hthere : tables.any (Faults.dropped {}).contains = false := by simp
  rw [Store.readable, hs.faultless, hthere]
  exact .ok ()

theorem writable (hs : s.Sound) (table : TableName) (touches : Bool) (activity : Text) :
    FailsOnly P (s.writable table touches activity) := by
  refine .bind (hs.readable _ _) fun _ _ => ?_
  have hthawed : (touches && (Faults.frozen {}).contains table) = false := by simp
  rw [hs.faultless, hthawed]
  exact .ok ()

theorem loadable (hs : s.Sound) (table : TableName) (id : Int) (activity : Text) :
    FailsOnly P (s.loadable table id activity) := by
  rw [Store.loadable, hs.faultless]
  exact .ok ()

theorem allLoadable (hs : s.Sound) (table : TableName) (ids : List Int) (activity : Text) :
    FailsOnly P (s.allLoadable table ids activity) := by
  have hwhole : (ids.any fun id => (Faults.unreadable {}).contains (table, id)) = false := by simp
  rw [Store.allLoadable, hs.faultless, hwhole]
  exact .ok ()

/-! ### Looking up -/

theorem loadAccount (hs : s.Sound) (activity : Text) (row : Option Account) :
    FailsOnly P (s.loadAccount activity row) := by
  cases row with
  | none => exact .ok _
  | some r => exact .bind (hs.loadable _ _ _) fun _ _ => .ok _

theorem account? (hs : s.Sound) (id : Int) : FailsOnly P (s.account? id) :=
  .bind (hs.readable _ _) fun _ _ => hs.loadAccount _ _

theorem accountNamed? (hs : s.Sound) (username : Text) : FailsOnly P (s.accountNamed? username) :=
  .bind (hs.readable _ _) fun _ _ => hs.loadAccount _ _

theorem accountList (hs : s.Sound) : FailsOnly P s.accountList :=
  .bind (hs.readable _ _) fun _ _ => .bind (hs.allLoadable _ _ _) fun _ _ => .ok _

theorem showBranch (hs : s.Sound) (activity : Text) (row : Option BranchRow) :
    FailsOnly P (s.showBranch activity row) := by
  cases row with
  | none => exact .ok _
  | some b => exact .bind (hs.loadable _ _ _) fun _ _ => .ok _

theorem branch? (hs : s.Sound) (id : Int) : FailsOnly P (s.branch? id) :=
  .bind (hs.readable _ _) fun _ _ => hs.showBranch _ _

theorem branchNamed? (hs : s.Sound) (name : Text) : FailsOnly P (s.branchNamed? name) :=
  .bind (hs.readable _ _) fun _ _ => hs.showBranch _ _

theorem branchList (hs : s.Sound) : FailsOnly P s.branchList :=
  .bind (hs.readable _ _) fun _ _ => .bind (hs.allLoadable _ _ _) fun _ _ => .ok _

theorem branchPhoto? (hs : s.Sound) (id : Int) : FailsOnly P (s.branchPhoto? id) :=
  .bind (hs.readable _ _) fun _ _ => .ok _

theorem item? (hs : s.Sound) (id : Int) : FailsOnly P (s.item? id) := by
  refine .bind (hs.readable _ _) fun _ _ => ?_
  split
  · exact .ok _
  · exact .bind (hs.loadable _ _ _) fun _ _ => .ok _

theorem itemList (hs : s.Sound) (f : ItemFilter) : FailsOnly P (s.itemList f) :=
  .bind (hs.readable _ _) fun _ _ => .bind (hs.allLoadable _ _ _) fun _ _ => .ok _

theorem delivery? (hs : s.Sound) (id : Int) : FailsOnly P (s.delivery? id) := by
  refine .bind (hs.readable _ _) fun _ _ => ?_
  split
  · exact .ok _
  · exact .bind (hs.loadable _ _ _) fun _ _ => .ok _

theorem deliveryList (hs : s.Sound) (availability : Text) :
    FailsOnly P (s.deliveryList availability) :=
  .bind (hs.readable _ _) fun _ _ => .bind (hs.allLoadable _ _ _) fun _ _ => .ok _

theorem requestList (hs : s.Sound) : FailsOnly P s.requestList :=
  .bind (hs.readable _ _) fun _ _ => .bind (hs.allLoadable _ _ _) fun _ _ => .ok _

theorem loads (hs : s.Sound) : ∀ r ∈ s.consumables, ∃ c, r.load = .ok c :=
  fun r hr => (hs.marked r hr).load

theorem consumable? (hs : s.Sound) (id : Int) : FailsOnly P (s.consumable? id) := by
  obtain ⟨found, hfound, -⟩ := Store.consumable?_sound hs.faultless hs.loads id
  exact .of_eq_ok hfound

/-- Only a search text that is too long keeps the consumables from being listed. -/
theorem consumableList (hs : s.Sound) (f : ConsumableFilter) :
    FailsOnly (fun _ => ConsumableFilter.maxPattern < f.patternLength) (s.consumableList f) := by
  obtain ⟨rows, -, hlisted | hlong⟩ := Store.consumableList_sound hs.faultless hs.loads f
  · exact .of_eq_ok hlisted
  · exact fun _ _ => hlong

theorem branchCounts (hs : s.Sound) (branch : Text) : FailsOnly P (s.branchCounts branch) :=
  .bind (hs.readable _ _) fun _ _ => .ok _

theorem overview (hs : s.Sound) : FailsOnly P s.overview :=
  .bind (hs.readable _ _) fun _ _ => .bind hs.branchList fun _ _ =>
    .bind (hs.readable _ _) fun _ _ => .bind (hs.readable _ _) fun _ _ => .ok _

theorem isRevoked (hs : s.Sound) (id : Text) : FailsOnly P (s.isRevoked id) :=
  .bind (hs.readable _ _) fun _ _ => .ok _

/-! ### Accounts, branches and tokens -/

theorem updateAccount (hs : s.Sound) (id : Int) {role : Text} (branch : Text)
    (hrole : (Role.ofTag role).isSome = true) : FailsOnly P (s.updateAccount id role branch) := by
  refine .bind (hs.writable _ _ _) fun _ _ => ?_
  rw [Option.isNone_eq_false_iff.mpr hrole, Bool.and_false]
  exact .ok _

theorem updatePassword (hs : s.Sound) (id : Int) (hash : PasswordHash) :
    FailsOnly P (s.updatePassword id hash) :=
  .bind (hs.writable _ _ _) fun _ _ => .ok _

/-- Only inventory keeps a branch from being deleted. -/
theorem deleteBranch (hs : s.Sound) (now : Instant) (id : Int) :
    FailsOnly (fun e => ∃ held, e = .branchInUse held) (s.deleteBranch now id) := by
  refine .bind (hs.branch? id) fun found _ => ?_
  cases found with
  | none => exact .ok _
  | some b =>
    refine .bind (.bind (hs.readable _ _) fun _ _ => .ok _) fun held _ => ?_
    dsimp only
    split
    · exact .error ⟨held, rfl⟩
    · exact .bind (hs.writable _ _ _) fun _ _ => .ok _

theorem setBranchPhoto (hs : s.Sound) (id : Int) (photo : BranchPhoto) :
    FailsOnly P (s.setBranchPhoto id photo) :=
  .bind (hs.writable _ _ _) fun _ _ => .ok _

theorem revoke (hs : s.Sound) (tokenId : Text) (expiresAt : Instant) :
    FailsOnly P (s.revoke tokenId expiresAt) := by
  refine .bind (hs.writable _ _ _) fun _ _ => ?_
  split
  · exact .ok _
  · exact .ok _

/-! ### Items -/

theorem createItem (hs : s.Sound) (now : Instant) (r : Item) :
    FailsOnly StoreError.IsInvalid (s.createItem now r) :=
  .bind (checkItem_failsOnly r) fun _ _ => .bind (hs.writable _ _ _) fun _ _ => .ok _

theorem updateItem (hs : s.Sound) (now : Instant) (id : Int) (r : Item) :
    FailsOnly StoreError.IsInvalid (s.updateItem now id r) := by
  refine .bind (hs.item? id) fun found _ => ?_
  cases found with
  | none => exact .ok _
  | some existing =>
    exact .bind (checkItem_failsOnly _) fun _ _ =>
      .bind (.bind (hs.writable _ _ _) fun _ _ => .ok _) fun _ _ => .ok _

theorem deleteItem (hs : s.Sound) (id : Int) : FailsOnly P (s.deleteItem id) :=
  .bind (hs.writable _ _ _) fun _ _ => .ok _

/-! ### Consumables -/

theorem createConsumable (hs : s.Sound) (now : Instant) (c : Consumable) :
    FailsOnly StoreError.IsInvalid (s.createConsumable now c) := by
  intro e herror
  have hwhole : s.faults.unreadable.contains (.consumables, nextId (s.ids .consumables)) = false := by
    rw [hs.faultless]
    rfl
  rcases createConsumable_early hwhole now c e herror with hinvalid | hwritable
  · exact hinvalid
  · exact absurd hwritable (hs.writable _ _ _).never

theorem updateConsumable (hs : s.Sound) (now : Instant) (id : Int) (c : Consumable) :
    FailsOnly StoreError.IsInvalid (s.updateConsumable now id c) := by
  intro e herror
  rcases updateConsumable_early s now id c e herror with hinvalid | hfound | hwritable
  · exact hinvalid
  · exact absurd hfound (hs.consumable? id).never
  · exact absurd hwritable (hs.writable _ _ _).never

theorem deleteConsumable (hs : s.Sound) (id : Int) : FailsOnly P (s.deleteConsumable id) :=
  .bind (hs.writable _ _ _) fun _ _ => .ok _

/-! ### Deliveries and requests for new passwords -/

theorem createDelivery (hs : s.Sound) (now : Instant) (r : Delivery) :
    FailsOnly StoreError.IsInvalid (s.createDelivery now r) := by
  refine .bind (checkDelivery_failsOnly r) fun checked _ => ?_
  dsimp only
  split
  · exact .error ⟨_, rfl⟩
  · exact .bind (hs.writable _ _ _) fun _ _ => .ok _

theorem updateDelivery (hs : s.Sound) (now : Instant) (id : Int) (r : Delivery) :
    FailsOnly StoreError.IsInvalid (s.updateDelivery now id r) := by
  refine .bind (hs.delivery? id) fun found _ => ?_
  cases found with
  | none => exact .ok _
  | some existing =>
    exact .bind (checkDelivery_failsOnly r) fun _ _ => .bind (hs.writable _ _ _) fun _ _ => .ok _

theorem deleteDelivery (hs : s.Sound) (id : Int) : FailsOnly P (s.deleteDelivery id) :=
  .bind (hs.writable _ _ _) fun _ _ => .ok _

theorem createRequest (hs : s.Sound) (now : Instant) (r : ResetRequest) :
    FailsOnly StoreError.IsInvalid (s.createRequest now r) := by
  unfold Store.createRequest
  split
  · exact .error ⟨_, rfl⟩
  · exact .bind (hs.writable _ _ _) fun _ _ => .ok _

theorem deleteRequest (hs : s.Sound) (id : Int) : FailsOnly P (s.deleteRequest id) :=
  .bind (hs.writable _ _ _) fun _ _ => .ok _

theorem deleteAllRequests (hs : s.Sound) : FailsOnly P s.deleteAllRequests :=
  .bind (hs.writable _ _ _) fun _ _ => .ok _

end Sound
end Store
end Stockroom

import Stockroom.Proofs.Store.Effects

/-!
All that a call may do to the store, as one relation. An invariant of the store is proved for each
of its cases, and then holds after every history of calls.

Main definitions and statements:
* `Store.Change`: the ways in which one call may leave the store;
* `StoreCall.run_change`: every call, whether it succeeds or fails, is one of them;
* `StoreCall.runAll_invariant`: what every change keeps, every history keeps.
-/
namespace Stockroom
set_option autoImplicit false

namespace ConsumableRow

theorem ofConsumable_id {c : Consumable} {r : ConsumableRow} (h : ofConsumable c = .ok r) :
    r.id = c.id := by
  simp only [ofConsumable, bind_eq_ok, pure_eq_ok] at h
  obtain ⟨_, -, _, -, _, -, _, -, _, -, _, -, rfl⟩ := h
  rfl

theorem load_id {r : ConsumableRow} {c : Consumable} (h : r.load = .ok c) : c.id = r.id := by
  simp only [load, bind_eq_ok, pure_eq_ok] at h
  obtain ⟨_, -, _, -, _, -, _, -, _, -, _, -, rfl⟩ := h
  rfl

end ConsumableRow

/-- A store and the store after one call. -/
inductive Store.Change (s : Store) : Store → Prop where
  | same : Change s s
  | addBranch (row : BranchRow) (hid : row.id = nextId (s.branches.map (·.id)))
      (hactive : row.isActive = true) (hfree : s.branchNameTaken row.name row.id = false) :
      Change s { s with branches := s.branches ++ [row] }
  | renameBranch (id : Int) (b : BranchRow) (name location : Text)
      (hb : s.activeBranch? id = some b) (hfree : s.branchNameTaken name id = false) :
      Change s (s.withBranch id b.name name location)
  | retireBranch (id : Int) (b : BranchRow) (time : Instant)
      (hb : s.activeBranch? id = some b) (hheld : s.heldBy b.name = 0) :
      Change s (s.mapBranches (fun b => b.id == id && b.isActive) fun b =>
        { b with deletedAt := some time })
  | setPhoto (id : Int) (photo : BranchPhoto) :
      Change s (s.mapBranches (fun b => b.id == id && b.isActive) fun b =>
        { b with photo := some photo })
  | addAccount (row : Account) (hid : row.id = nextId (s.accounts.map (·.id)))
      (hactive : row.isActive = true) (hrole : (Role.ofTag row.role).isSome)
      (hfree : s.usernameTaken row.username = false) :
      Change s { s with accounts := s.accounts ++ [row] }
  | setRole (id : Int) (role branch : Text)
      (hrole : s.hasActiveAccount id = true → (Role.ofTag role).isSome) :
      Change s (s.mapAccount id fun r => { r with role, branch })
  | setPassword (id : Int) (hash : PasswordHash) :
      Change s (s.mapAccount id fun r => { r with passwordHash := hash })
  | retireAccount (id : Int) (time : Instant) :
      Change s (s.mapAccount id fun r => { r with deletedAt := some time })
  | addItem (row : Item) (hid : row.id = nextId (s.items.map (·.id)))
      (hvalid : row.validate = .ok ()) : Change s { s with items := s.items ++ [row] }
  | replaceItem (existing row : Item) (hfound : existing ∈ s.items) (hid : row.id = existing.id)
      (hkind : row.kind = existing.kind) (hvalid : row.validate = .ok ()) :
      Change s { s with items := s.items.map fun old => if old.id == row.id then row else old }
  | removeItem (id : Int) :
      Change s ({ s with items := s.items.filter (·.id != id) }.forget .items (· == id))
  | addConsumable (c : Consumable) (row : ConsumableRow)
      (hrow : ConsumableRow.ofConsumable c = .ok row) (hvalid : c.validate = .ok ())
      (hid : row.id = nextId (s.consumables.map (·.id))) :
      Change s { s with consumables := s.consumables ++ [row] }
  | replaceConsumable (existing : ConsumableRow) (c : Consumable) (row : ConsumableRow)
      (hfound : existing ∈ s.consumables) (hrow : ConsumableRow.ofConsumable c = .ok row)
      (hvalid : c.validate = .ok ()) (hid : row.id = existing.id) :
      Change s { s with consumables := s.consumables.map fun old =>
        if old.id == row.id then row else old }
  | removeConsumable (id : Int) :
      Change s ({ s with consumables := s.consumables.filter (·.id != id) }.forget .consumables
        (· == id))
  | addDelivery (row : Delivery) (hid : row.id = nextId (s.deliveries.map (·.id))) :
      Change s { s with deliveries := s.deliveries ++ [row] }
  | replaceDelivery (row : Delivery) :
      Change s { s with deliveries := s.deliveries.map fun old =>
        if old.id == row.id then row else old }
  | removeDelivery (id : Int) :
      Change s ({ s with deliveries := s.deliveries.filter (·.id != id) }.forget .deliveries
        (· == id))
  | addRequest (row : ResetRequest) (hid : row.id = nextId (s.requests.map (·.id))) :
      Change s { s with requests := s.requests ++ [row] }
  | removeRequest (id : Int) :
      Change s ({ s with requests := s.requests.filter (·.id != id) }.forget .requests (· == id))
  | removeRequests : Change s ({ s with requests := [] }.forget .requests fun _ => true)
  | addSetting (key value : Text) : Change s { s with settings := s.settings ++ [(key, value)] }
  | addRevocation (r : Revocation) : Change s { s with revocations := s.revocations ++ [r] }
  | forgetRevocations (now : Instant) :
      Change s { s with revocations := s.revocations.filter fun r => !r.isOver now }

namespace Store

theorem createBranch_change {s s' : Store} {now : Instant} {name location : Text} {b : Branch}
    (h : s.createBranch now name location = .ok (b, s')) : s.Change s' := by
  obtain ⟨hfree, rfl⟩ := createBranch_effect h
  exact .addBranch _ rfl rfl hfree

theorem updateBranch_change {s s' : Store} {id : Int} {name location : Text}
    (h : s.updateBranch id name location = .ok s') : s.Change s' := by
  obtain ⟨-, rfl⟩ | ⟨b, hb, hfree, rfl⟩ := updateBranch_effect h
  · exact .same
  · exact .renameBranch id b name location hb hfree

theorem deleteBranch_change {s s' : Store} {now : Instant} {id : Int}
    (h : s.deleteBranch now id = .ok s') : s.Change s' := by
  obtain rfl | ⟨b, hb, hheld, rfl⟩ := deleteBranch_effect h
  · exact .same
  · exact .retireBranch id b now.stored hb hheld

theorem createItem_change {s s' : Store} {now : Instant} {r row : Item}
    (h : s.createItem now r = .ok (row, s')) : s.Change s' := by
  obtain ⟨hvalid, rfl, rfl⟩ := createItem_effect h
  exact .addItem _ rfl hvalid

theorem updateItem_change {s s' : Store} {now : Instant} {id : Int} {r : Item}
    {row : Option Item} (h : s.updateItem now id r = .ok (row, s')) : s.Change s' := by
  obtain ⟨-, rfl⟩ | ⟨existing, hfound, hvalid, -, rfl⟩ := updateItem_effect h
  · exact .same
  · exact .replaceItem existing (itemAfter existing r now) (List.mem_of_find?_eq_some hfound) rfl
      rfl hvalid

theorem createConsumable_change {s s' : Store} {now : Instant} {c shown : Consumable}
    (h : s.createConsumable now c = .ok (shown, s')) : s.Change s' := by
  obtain ⟨row, hvalid, hrow, -, rfl⟩ := createConsumable_effect h
  exact .addConsumable _ row hrow hvalid (ConsumableRow.ofConsumable_id hrow)

theorem updateConsumable_change {s s' : Store} {now : Instant} {id : Int} {c : Consumable}
    {shown : Option Consumable} (h : s.updateConsumable now id c = .ok (shown, s')) :
    s.Change s' := by
  obtain ⟨-, rfl⟩ | ⟨old, existing, typed, row, _, hfound, hload, -, hvalid, hrow, -, -, rfl⟩ :=
    updateConsumable_effect h
  · exact .same
  · have hid := ConsumableRow.ofConsumable_id hrow
    change row.id = existing.id at hid
    rw [← hid]
    exact .replaceConsumable old _ row (List.mem_of_find?_eq_some hfound) hrow hvalid
      (hid.trans (ConsumableRow.load_id hload))

end Store

namespace StoreCall

theorem asks_eq_ok {α : Type} {s s' : Store} {r : Except StoreError α} {f : α → StoreAnswer}
    {answer : StoreAnswer} (h : asks s r f = .ok (answer, s')) : s' = s := by
  obtain ⟨_, -, h⟩ := map_eq_ok.mp h
  exact (Prod.mk.inj h).2.symm

theorem does_eq_ok {s' : Store} {r : Except StoreError Store} {answer : StoreAnswer}
    (h : does r = .ok (answer, s')) : r = .ok s' := by
  obtain ⟨s, hr, h⟩ := map_eq_ok.mp h
  rw [hr, (Prod.mk.inj h).2]

theorem gives_eq_ok {α : Type} {s' : Store} {r : Except StoreError (α × Store)}
    {f : α → StoreAnswer} {answer : StoreAnswer} (h : gives r f = .ok (answer, s')) :
    ∃ x, r = .ok (x, s') := by
  obtain ⟨⟨x, s⟩, hr, h⟩ := map_eq_ok.mp h
  exact ⟨x, by rw [hr, (Prod.mk.inj h).2]⟩

theorem attempt_change {now : Instant} {s s' : Store} {call : StoreCall} {answer : StoreAnswer}
    (h : call.attempt now s = .ok (answer, s')) : s.Change s' := by
  cases call <;> simp only [attempt] at h
  case createBranch name location =>
    obtain ⟨_, h⟩ := gives_eq_ok h
    exact Store.createBranch_change h
  case updateBranch => exact Store.updateBranch_change (does_eq_ok h)
  case deleteBranch => exact Store.deleteBranch_change (does_eq_ok h)
  case setBranchPhoto =>
    rw [Store.setBranchPhoto_effect (does_eq_ok h)]
    exact .setPhoto _ _
  case createAccount =>
    obtain ⟨_, h⟩ := gives_eq_ok h
    obtain ⟨hrole, hfree, rfl⟩ := Store.createAccount_effect h
    exact .addAccount _ rfl rfl hrole hfree
  case updateAccount =>
    obtain ⟨hrole, rfl⟩ := Store.updateAccount_effect (does_eq_ok h)
    exact .setRole _ _ _ hrole
  case updatePassword =>
    rw [Store.updatePassword_effect (does_eq_ok h)]
    exact .setPassword _ _
  case deleteAccount =>
    rw [Store.deleteAccount_effect (does_eq_ok h)]
    exact .retireAccount _ _
  case createItem =>
    obtain ⟨_, h⟩ := gives_eq_ok h
    exact Store.createItem_change h
  case updateItem =>
    obtain ⟨_, h⟩ := gives_eq_ok h
    exact Store.updateItem_change h
  case deleteItem =>
    rw [Store.deleteItem_effect (does_eq_ok h)]
    exact .removeItem _
  case createConsumable =>
    obtain ⟨_, h⟩ := gives_eq_ok h
    exact Store.createConsumable_change h
  case updateConsumable =>
    obtain ⟨_, h⟩ := gives_eq_ok h
    exact Store.updateConsumable_change h
  case deleteConsumable =>
    rw [Store.deleteConsumable_effect (does_eq_ok h)]
    exact .removeConsumable _
  case createDelivery =>
    obtain ⟨_, h⟩ := gives_eq_ok h
    obtain ⟨hid, rfl⟩ := Store.createDelivery_effect h
    exact .addDelivery _ hid
  case updateDelivery =>
    obtain ⟨_, h⟩ := gives_eq_ok h
    obtain ⟨-, rfl⟩ | ⟨after, -, rfl⟩ := Store.updateDelivery_effect h
    · exact .same
    · exact .replaceDelivery after
  case deleteDelivery =>
    rw [Store.deleteDelivery_effect (does_eq_ok h)]
    exact .removeDelivery _
  case createRequest =>
    obtain ⟨_, h⟩ := gives_eq_ok h
    obtain ⟨rfl, rfl⟩ := Store.createRequest_effect h
    exact .addRequest _ rfl
  case deleteRequest =>
    obtain ⟨_, h⟩ := gives_eq_ok h
    rw [Store.deleteRequest_effect h]
    exact .removeRequest _
  case deleteAllRequests =>
    obtain ⟨_, h⟩ := gives_eq_ok h
    rw [Store.deleteAllRequests_effect h]
    exact .removeRequests
  case setting =>
    obtain ⟨_, h⟩ := gives_eq_ok h
    obtain rfl | ⟨_, rfl⟩ := Store.ensureSetting_effect h
    · exact .same
    · exact .addSetting _ _
  case revoke =>
    obtain rfl | rfl := Store.revoke_effect (does_eq_ok h)
    · exact .same
    · exact .addRevocation _
  case forgetRevoked =>
    obtain ⟨_, h⟩ := gives_eq_ok h
    rw [Store.forgetRevoked_effect h]
    exact .forgetRevocations _
  -- all other calls only read
  all_goals
    rw [asks_eq_ok h]
    exact .same

theorem run_change (now : Instant) (s : Store) (call : StoreCall) :
    s.Change (call.run now s).2 := by
  unfold run
  split
  · next h => exact attempt_change h
  · exact .same

/-- What every change of the store keeps, a history of calls keeps. -/
theorem runAll_invariant {P : Store → Prop} (step : ∀ s s' : Store, s.Change s' → P s → P s')
    (s : Store) (calls : List (Instant × StoreCall)) (hs : P s) : P (runAll s calls) := by
  induction calls generalizing s with
  | nil => exact hs
  | cons call rest ih =>
    obtain ⟨now, call⟩ := call
    exact ih _ (step s _ (run_change now s call) hs)

end StoreCall
end Stockroom

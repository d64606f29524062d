import Stockroom.Proofs.Outcome
import Stockroom.Store.Call

/-!
The store after each operation that succeeds, in full: which table changes and how. Whatever a
statement about the store needs to know of an operation is read off here, so that no later proof
opens one.

Main statements: one `…_effect` for each operation that writes.
-/
namespace Stockroom
set_option autoImplicit false

namespace Store

/-! ## Branches -/

theorem createBranch_effect {s s' : Store} {now : Instant} {name location : Text} {b : Branch}
    (h : s.createBranch now name location = .ok (b, s')) :
    s.branchNameTaken name (nextId (s.branches.map (·.id))) = false ∧
      s' = { s with branches := s.branches ++
        [{ id := nextId (s.branches.map (·.id)), name, location, createdAt := now.stored }] } := by
  simp only [createBranch, bind_eq_ok, throw_bind] at h
  obtain ⟨_, -, h⟩ := h
  split at h
  · cases h
  · next hfree =>
    simp only [pure_eq_ok, Prod.mk.injEq] at h
    exact ⟨by simpa using hfree, h.2.symm⟩

/-- The store with a new name and location of one branch, and the new name wherever the old one
stood. -/
def withBranch (s : Store) (id : Int) (old name location : Text) : Store :=
  { s with
    branches := s.branches.map fun b => if b.id == id then { b with name, location } else b
    items := s.items.map fun r => if r.branch == old then { r with branch := name } else r
    consumables := s.consumables.map fun r =>
      if r.branch == old then { r with branch := name } else r
    accounts := s.accounts.map fun r => if r.branch == old then { r with branch := name } else r }

theorem map_if_self {ρ : Type} (rows : List ρ) (wanted : ρ → Bool) (change : ρ → ρ)
    (h : ∀ r, wanted r = true → change r = r) :
    rows.map (fun r => if wanted r then change r else r) = rows := by
  induction rows with
  | nil => rfl
  | cons r rest ih =>
    rw [List.map_cons, ih]
    split
    · next hr => rw [h r hr]
    · rfl

/-- Without a new name only the branch itself changes. -/
theorem withBranch_same (s : Store) (id : Int) (name location : Text) :
    s.withBranch id name name location =
      s.mapBranches (·.id == id) fun r => { r with name, location } := by
  have hitems := map_if_self s.items (·.branch == name) (fun r => { r with branch := name })
    (by rintro ⟨⟩ hr; simp_all)
  have hstock := map_if_self s.consumables (·.branch == name) (fun r => { r with branch := name })
    (by rintro ⟨⟩ hr; simp_all)
  have haccounts := map_if_self s.accounts (·.branch == name) (fun r => { r with branch := name })
    (by rintro ⟨⟩ hr; simp_all)
  simp only [withBranch, mapBranches, hitems, hstock, haccounts]

theorem updateBranch_effect {s s' : Store} {id : Int} {name location : Text}
    (h : s.updateBranch id name location = .ok s') :
    s.activeBranch? id = none ∧ s' = s ∨
      ∃ b, s.activeBranch? id = some b ∧ s.branchNameTaken name id = false ∧
        s' = s.withBranch id b.name name location := by
  simp only [updateBranch, throw_bind] at h
  split at h
  · cases h
  simp only [bind_eq_ok] at h
  obtain ⟨_, -, h⟩ := h
  split at h
  · next hnone => exact .inl ⟨hnone, (pure_eq_ok.mp h).symm⟩
  · next b hb =>
    simp only [bind_eq_ok] at h
    obtain ⟨_, -, h⟩ := h
    split at h
    · cases h
    · next hfree =>
      refine .inr ⟨b, hb, by simpa using hfree, ?_⟩
      split at h
      · next hname =>
        have hname : b.name = name := by simpa using hname
        rw [hname, withBranch_same]
        exact (pure_eq_ok.mp h).symm
      · simp only [bind_eq_ok, renameInItems, renameInConsumables, renameInAccounts,
          pure_eq_ok] at h
        obtain ⟨s₁, ⟨_, -, h₁⟩, s₂, ⟨_, -, h₂⟩, _, -, h₃⟩ := h
        subst h₁ h₂ h₃
        rfl

theorem branch?_some {s : Store} {id : Int} {b : Branch} (h : s.branch? id = .ok (some b)) :
    ∃ row, s.activeBranch? id = some row ∧ b = row.shown := by
  simp only [branch?, bind_eq_ok] at h
  obtain ⟨_, -, h⟩ := h
  cases hrow : s.activeBranch? id with
  | none => simp [hrow, showBranch] at h
  | some row =>
    simp only [hrow, showBranch, bind_eq_ok, pure_eq_ok, Option.some.injEq] at h
    obtain ⟨_, -, h⟩ := h
    exact ⟨row, rfl, h.symm⟩

theorem deleteBranch_effect {s s' : Store} {now : Instant} {id : Int}
    (h : s.deleteBranch now id = .ok s') :
    s' = s ∨ ∃ b, s.activeBranch? id = some b ∧ s.heldBy b.name = 0 ∧
      s' = s.mapBranches (fun b => b.id == id && b.isActive) fun b =>
        { b with deletedAt := some now.stored } := by
  simp only [deleteBranch, bind_eq_ok] at h
  obtain ⟨found, hfound, h⟩ := h
  cases found with
  | none => exact .inl (pure_eq_ok.mp h).symm
  | some b =>
    obtain ⟨row, hrow, rfl⟩ := branch?_some hfound
    simp only [countHeld, retireBranch, throw_bind, bind_eq_ok, pure_eq_ok] at h
    obtain ⟨held, ⟨_, -, rfl⟩, h⟩ := h
    split at h
    · cases h
    · next hheld =>
      simp only [bind_eq_ok, pure_eq_ok] at h
      obtain ⟨_, -, h⟩ := h
      exact .inr ⟨row, hrow, Nat.eq_zero_of_not_pos hheld, h.symm⟩

theorem setBranchPhoto_effect {s s' : Store} {id : Int} {photo : BranchPhoto}
    (h : s.setBranchPhoto id photo = .ok s') :
    s' = s.mapBranches (fun b => b.id == id && b.isActive) fun b =>
      { b with photo := some photo } := by
  simp only [setBranchPhoto, bind_eq_ok, pure_eq_ok] at h
  obtain ⟨_, -, h⟩ := h
  exact h.symm

/-! ## Accounts -/

theorem createAccount_effect {s s' : Store} {now : Instant} {username role branch : Text}
    {hash : PasswordHash} {r : Account}
    (h : s.createAccount now username hash role branch = .ok (r, s')) :
    (Role.ofTag role).isSome ∧ s.usernameTaken username = false ∧
      s' = { s with accounts := s.accounts ++
        [{ id := nextId (s.accounts.map (·.id)), username, passwordHash := hash, role, branch
           createdAt := now.stored }] } := by
  simp only [createAccount, bind_eq_ok, throw_bind] at h
  obtain ⟨_, -, h⟩ := h
  split at h
  · cases h
  · next hfree =>
    simp only [Bool.or_eq_true, not_or, Bool.not_eq_true, Option.isNone_eq_false_iff] at hfree
    simp only [pure_eq_ok, Prod.mk.injEq] at h
    exact ⟨hfree.1, hfree.2, h.2.symm⟩

theorem updateAccount_effect {s s' : Store} {id : Int} {role branch : Text}
    (h : s.updateAccount id role branch = .ok s') :
    (s.hasActiveAccount id = true → (Role.ofTag role).isSome) ∧
      s' = s.mapAccount id fun r => { r with role, branch } := by
  simp only [updateAccount, bind_eq_ok, throw_bind] at h
  obtain ⟨_, -, h⟩ := h
  split at h
  · cases h
  · next hrole =>
    refine ⟨fun hactive => ?_, (pure_eq_ok.mp h).symm⟩
    simpa [hactive, ← Option.isSome_iff_ne_none] using hrole

theorem updatePassword_effect {s s' : Store} {id : Int} {hash : PasswordHash}
    (h : s.updatePassword id hash = .ok s') :
    s' = s.mapAccount id fun r => { r with passwordHash := hash } := by
  simp only [updatePassword, bind_eq_ok, pure_eq_ok] at h
  obtain ⟨_, -, h⟩ := h
  exact h.symm

theorem deleteAccount_effect {s s' : Store} {now : Instant} {id : Int}
    (h : s.deleteAccount now id = .ok s') :
    s' = s.mapAccount id fun r => { r with deletedAt := some now.stored } := by
  simp only [deleteAccount, bind_eq_ok, pure_eq_ok] at h
  obtain ⟨_, -, h⟩ := h
  exact h.symm

/-! ## Items -/

theorem item?_some {s : Store} {id : Int} {r : Item} (h : s.item? id = .ok (some r)) :
    s.items.find? (·.id == id) = some r := by
  simp only [item?, bind_eq_ok] at h
  obtain ⟨_, -, h⟩ := h
  split at h
  · cases pure_eq_ok.mp h
  · next row hrow =>
    simp only [bind_eq_ok, pure_eq_ok, Option.some.injEq] at h
    obtain ⟨_, -, rfl⟩ := h
    exact hrow

theorem createItem_effect {s s' : Store} {now : Instant} {r row : Item}
    (h : s.createItem now r = .ok (row, s')) :
    r.validate = .ok () ∧
      row = { r with
        id := nextId (s.items.map (·.id)), createdAt := now.stored, updatedAt := now.stored } ∧
      s' = { s with items := s.items ++ [row] } := by
  simp only [createItem, checkItem, insertItem, bind_eq_ok, pure_eq_ok, Prod.mk.injEq] at h
  obtain ⟨_, hvalid, _, -, rfl, rfl⟩ := h
  refine ⟨?_, rfl, rfl⟩
  split at hvalid
  · assumption
  · cases hvalid

/-- The row that an update leaves of an item. -/
def itemAfter (existing r : Item) (now : Instant) : Item :=
  { r with
    id := existing.id, kind := existing.kind, createdAt := existing.createdAt
    updatedAt := now.stored }

theorem updateItem_effect {s s' : Store} {now : Instant} {id : Int} {r : Item} {row : Option Item}
    (h : s.updateItem now id r = .ok (row, s')) :
    row = none ∧ s' = s ∨
      ∃ existing, s.items.find? (·.id == id) = some existing ∧
        ({ r with kind := existing.kind } : Item).validate = .ok () ∧
        row = some (itemAfter existing r now) ∧
        s' = { s with items := s.items.map fun old =>
          if old.id == existing.id then itemAfter existing r now else old } := by
  simp only [updateItem, bind_eq_ok] at h
  obtain ⟨found, hfound, h⟩ := h
  cases found with
  | none =>
    simp only [pure_eq_ok, Prod.mk.injEq] at h
    exact .inl ⟨h.1.symm, h.2.symm⟩
  | some existing =>
    simp only [checkItem, replaceItem, bind_eq_ok, pure_eq_ok, Prod.mk.injEq] at h
    obtain ⟨_, hvalid, ⟨_, _⟩, ⟨_, -, rfl, rfl⟩, rfl, rfl⟩ := h
    refine .inr ⟨existing, item?_some hfound, ?_, rfl, rfl⟩
    split at hvalid
    · assumption
    · cases hvalid

theorem deleteItem_effect {s s' : Store} {id : Int} (h : s.deleteItem id = .ok s') :
    s' = { s with items := s.items.filter (·.id != id) }.forget .items (· == id) := by
  simp only [deleteItem, bind_eq_ok, pure_eq_ok] at h
  obtain ⟨_, -, h⟩ := h
  exact h.symm

/-! ## Consumables -/

theorem loadConsumable_eq_ok {s : Store} {activity : Text} {r : ConsumableRow} {c : Consumable}
    (h : s.loadConsumable activity r = .ok c) : r.load = .ok c := by
  simp only [loadConsumable, bind_eq_ok] at h
  obtain ⟨_, -, h⟩ := h
  split at h
  · next hload => rw [hload, pure_eq_ok.mp h]
  · cases h

theorem consumable?_some {s : Store} {id : Int} {c : Consumable}
    (h : s.consumable? id = .ok (some c)) :
    ∃ row, s.consumables.find? (·.id == id) = some row ∧ row.load = .ok c := by
  simp only [consumable?, bind_eq_ok] at h
  obtain ⟨_, -, h⟩ := h
  split at h
  · cases pure_eq_ok.mp h
  · next row hrow =>
    simp only [bind_eq_ok, pure_eq_ok, Option.some.injEq] at h
    obtain ⟨_, hload, rfl⟩ := h
    exact ⟨row, hrow, loadConsumable_eq_ok hload⟩

/-- A record with an id and its times. -/
def stamped (c : Consumable) (id : Int) (createdAt updatedAt : Instant) : Consumable :=
  { c with id, createdAt, updatedAt }

theorem consumableRow_eq_ok {c : Consumable} {id : Int} {createdAt updatedAt : Instant}
    {activity : Text} {row : ConsumableRow}
    (h : consumableRow c id createdAt updatedAt activity = .ok row) :
    ConsumableRow.ofConsumable (stamped c id createdAt updatedAt) = .ok row := by
  unfold consumableRow at h
  split at h
  · next hrow =>
    cases h
    exact hrow
  · cases h

theorem readyConsumable_eq_ok {c ready : Consumable} (h : readyConsumable c = .ok ready) :
    ready = c.filledIn ∧ ready.validate = .ok () := by
  unfold readyConsumable at h
  split at h
  · next hvalid =>
    cases h
    exact ⟨rfl, hvalid⟩
  · cases h

theorem createConsumable_effect {s s' : Store} {now : Instant} {c shown : Consumable}
    (h : s.createConsumable now c = .ok (shown, s')) :
    ∃ row, c.filledIn.validate = .ok () ∧
      ConsumableRow.ofConsumable
        (stamped c.filledIn (nextId (s.consumables.map (·.id))) now.stored now.stored) = .ok row ∧
      row.load = .ok shown ∧ s' = { s with consumables := s.consumables ++ [row] } := by
  simp only [createConsumable, insertConsumable, bind_eq_ok, pure_eq_ok, Prod.mk.injEq] at h
  obtain ⟨ready, hready, _, -, row, hrow, _, hload, rfl, rfl⟩ := h
  obtain ⟨rfl, hvalid⟩ := readyConsumable_eq_ok hready
  exact ⟨row, hvalid, consumableRow_eq_ok hrow, loadConsumable_eq_ok hload, rfl⟩

theorem updateConsumable_effect {s s' : Store} {now : Instant} {id : Int} {c : Consumable}
    {shown : Option Consumable} (h : s.updateConsumable now id c = .ok (shown, s')) :
    shown = none ∧ s' = s ∨
      ∃ old existing typed row after, s.consumables.find? (·.id == id) = some old ∧
        old.load = .ok existing ∧ retyped existing c = .ok typed ∧
        typed.filledIn.validate = .ok () ∧
        ConsumableRow.ofConsumable
          (stamped typed.filledIn existing.id existing.createdAt now.stored) = .ok row ∧
        row.load = .ok after ∧ shown = some after ∧
        s' = { s with consumables := s.consumables.map fun old =>
          if old.id == existing.id then row else old } := by
  simp only [updateConsumable, bind_eq_ok] at h
  obtain ⟨found, hfound, h⟩ := h
  cases found with
  | none =>
    simp only [pure_eq_ok, Prod.mk.injEq] at h
    exact .inl ⟨h.1.symm, h.2.symm⟩
  | some existing =>
    obtain ⟨old, hold, hexisting⟩ := consumable?_some hfound
    simp only [replaceConsumable, bind_eq_ok, pure_eq_ok, Prod.mk.injEq] at h
    obtain ⟨typed, htyped, ready, hready, ⟨_, _⟩, ⟨_, -, row, hrow, after, hload, rfl, rfl⟩,
      rfl, rfl⟩ := h
    obtain ⟨rfl, hvalid⟩ := readyConsumable_eq_ok hready
    exact .inr ⟨old, existing, typed, row, _, hold, hexisting, htyped, hvalid,
      consumableRow_eq_ok hrow, loadConsumable_eq_ok hload, rfl, rfl⟩

theorem deleteConsumable_effect {s s' : Store} {id : Int} (h : s.deleteConsumable id = .ok s') :
    s' = { s with consumables := s.consumables.filter (·.id != id) }.forget .consumables
      (· == id) := by
  simp only [deleteConsumable, bind_eq_ok, pure_eq_ok] at h
  obtain ⟨_, -, h⟩ := h
  exact h.symm

/-! ## Deliveries and requests for new passwords -/

theorem createDelivery_effect {s s' : Store} {now : Instant} {r row : Delivery}
    (h : s.createDelivery now r = .ok (row, s')) :
    row.id = nextId (s.deliveries.map (·.id)) ∧
      s' = { s with deliveries := s.deliveries ++ [row] } := by
  simp only [createDelivery, throw_bind, bind_eq_ok] at h
  obtain ⟨checked, -, h⟩ := h
  split at h
  · cases h
  · simp only [bind_eq_ok, pure_eq_ok, Prod.mk.injEq] at h
    obtain ⟨_, -, rfl, rfl⟩ := h
    exact ⟨rfl, rfl⟩

theorem updateDelivery_effect {s s' : Store} {now : Instant} {id : Int} {r : Delivery}
    {row : Option Delivery} (h : s.updateDelivery now id r = .ok (row, s')) :
    row = none ∧ s' = s ∨
      ∃ after, row = some after ∧ s' = { s with deliveries := s.deliveries.map fun old =>
        if old.id == after.id then after else old } := by
  simp only [updateDelivery, bind_eq_ok] at h
  obtain ⟨found, -, h⟩ := h
  cases found with
  | none =>
    simp only [pure_eq_ok, Prod.mk.injEq] at h
    exact .inl ⟨h.1.symm, h.2.symm⟩
  | some existing =>
    simp only [bind_eq_ok, pure_eq_ok, Prod.mk.injEq] at h
    obtain ⟨checked, -, _, -, rfl, rfl⟩ := h
    exact .inr ⟨_, rfl, rfl⟩

theorem deleteDelivery_effect {s s' : Store} {id : Int} (h : s.deleteDelivery id = .ok s') :
    s' = { s with deliveries := s.deliveries.filter (·.id != id) }.forget .deliveries
      (· == id) := by
  simp only [deleteDelivery, bind_eq_ok, pure_eq_ok] at h
  obtain ⟨_, -, h⟩ := h
  exact h.symm

theorem createRequest_effect {s s' : Store} {now : Instant} {r row : ResetRequest}
    (h : s.createRequest now r = .ok (row, s')) :
    row = { r.trimmed with id := nextId (s.requests.map (·.id)), createdAt := now.stored } ∧
      s' = { s with requests := s.requests ++ [row] } := by
  unfold createRequest at h
  split at h
  · cases h
  · simp only [bind_eq_ok, pure_eq_ok, Prod.mk.injEq] at h
    obtain ⟨_, -, rfl, rfl⟩ := h
    exact ⟨rfl, rfl⟩

theorem deleteRequest_effect {s s' : Store} {id : Int} {found : Bool}
    (h : s.deleteRequest id = .ok (found, s')) :
    s' = { s with requests := s.requests.filter (·.id != id) }.forget .requests (· == id) := by
  simp only [deleteRequest, bind_eq_ok, pure_eq_ok, Prod.mk.injEq] at h
  obtain ⟨_, -, -, h⟩ := h
  exact h.symm

theorem deleteAllRequests_effect {s s' : Store} {n : Nat}
    (h : s.deleteAllRequests = .ok (n, s')) :
    s' = { s with requests := [] }.forget .requests fun _ => true := by
  simp only [deleteAllRequests, bind_eq_ok, pure_eq_ok, Prod.mk.injEq] at h
  obtain ⟨_, -, -, h⟩ := h
  exact h.symm

/-! ## Settings and revoked tokens -/

theorem ensureSetting_effect {s s' : Store} {key value : Text} {generated : Except Text Text}
    (h : s.ensureSetting key generated = .ok (value, s')) :
    s' = s ∨ ∃ candidate, s' = { s with settings := s.settings ++ [(key, candidate)] } := by
  unfold ensureSetting at h
  split at h
  · cases h
  · next candidate =>
    simp only [offerSetting, bind_eq_ok, pure_eq_ok, Prod.mk.injEq] at h
    obtain ⟨offered, ⟨_, -, hoffer⟩, _, -, -, rfl⟩ := h
    split at hoffer
    · exact .inl (pure_eq_ok.mp hoffer).symm
    · exact .inr ⟨candidate, (pure_eq_ok.mp hoffer).symm⟩

theorem revoke_effect {s s' : Store} {tokenId : Text} {expiresAt : Instant}
    (h : s.revoke tokenId expiresAt = .ok s') :
    s' = s ∨ s' = { s with revocations := s.revocations ++ [⟨tokenId, expiresAt⟩] } := by
  simp only [revoke, bind_eq_ok] at h
  obtain ⟨_, -, h⟩ := h
  split at h
  · exact .inl (pure_eq_ok.mp h).symm
  · exact .inr (pure_eq_ok.mp h).symm

theorem forgetRevoked_effect {s s' : Store} {now : Instant} {n : Nat}
    (h : s.forgetRevoked now = .ok (n, s')) :
    s' = { s with revocations := s.revocations.filter fun r => !r.isOver now } := by
  simp only [forgetRevoked, bind_eq_ok, pure_eq_ok, Prod.mk.injEq] at h
  obtain ⟨_, -, -, h⟩ := h
  exact h.symm

end Store
end Stockroom

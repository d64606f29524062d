import Stockroom.Proofs.Api.Run

/-!
Branches are referred to by name: by items, by consumables and by the accounts of managers. A new
name is carried over to all of them, but only items and consumables keep a branch from being deleted.

Main definitions and statements:
* `Store.Placed`, `handleAll_placed`: all inventory is in a branch that exists;
* `Store.Staffed`, `handleAll_staffed`: every manager has a branch that exists, as long as no branch
  is deleted under its managers;
* `branchOfManager_unstaffed`: a branch that is deleted under its manager.
-/
namespace Stockroom
set_option autoImplicit false

section
variable {ρ : Type} {rows : List ρ} {wanted : ρ → Bool} {change : ρ → ρ} {r : ρ}

theorem kept_mem_map_if (hr : r ∈ rows) (hkept : wanted r = false) :
    r ∈ rows.map fun r => if wanted r then change r else r := by
  have hmem := List.mem_map_of_mem (f := fun r => if wanted r then change r else r) hr
  rwa [hkept, if_neg Bool.false_ne_true] at hmem

theorem changed_mem_map_if (hr : r ∈ rows) (hwanted : wanted r = true) :
    change r ∈ rows.map fun r => if wanted r then change r else r := by
  have hmem := List.mem_map_of_mem (f := fun r => if wanted r then change r else r) hr
  rwa [hwanted, if_pos rfl] at hmem

theorem forall_mem_map_if {P : ρ → Prop} (hrows : ∀ r ∈ rows, P r)
    (hchange : ∀ r ∈ rows, wanted r = true → P (change r)) :
    ∀ r ∈ rows.map fun r => if wanted r then change r else r, P r := by
  intro r hr
  obtain ⟨old, hold, rfl⟩ := List.mem_map.mp hr
  split
  · next hwanted => exact hchange old hold hwanted
  · exact hrows old hold

end

namespace Store

/-! ## Branches after a change -/

section
variable {s : Store} {name : Text}

instance : Decidable (s.HasBranch name) :=
  inferInstanceAs (Decidable (∃ b ∈ s.branches, b.isActive = true ∧ b.name = name))

theorem HasBranch.add (row : BranchRow) (h : s.HasBranch name) :
    HasBranch { s with branches := s.branches ++ [row] } name := by
  obtain ⟨b, hb, hactive, hname⟩ := h
  exact ⟨b, List.mem_append_left _ hb, hactive, hname⟩

theorem HasBranch.setPhoto (id : Int) (photo : BranchPhoto) (h : s.HasBranch name) :
    (s.mapBranches (fun b => b.id == id && b.isActive) fun b =>
      { b with photo := some photo }).HasBranch name := by
  obtain ⟨b, hb, hactive, hname⟩ := h
  refine ⟨_, List.mem_map_of_mem hb, ?_⟩
  split
  · exact ⟨hactive, hname⟩
  · exact ⟨hactive, hname⟩

theorem branch_eq_of_id {id : Int} {b c : BranchRow} (hs : s.Keyed)
    (hb : s.activeBranch? id = some b) (hc : c ∈ s.branches) (hid : c.id = id) : c = b := by
  obtain ⟨hmem, hbid, -⟩ := activeBranch?_some hb
  exact List.inj_on_of_nodup_map (hs.distinct .branches) hc hmem (hid.trans hbid.symm)

theorem HasBranch.rename {id : Int} {b : BranchRow} {new location : Text} (hs : s.Keyed)
    (hb : s.activeBranch? id = some b) (h : s.HasBranch name) :
    (s.withBranch id b.name new location).HasBranch (if name == b.name then new else name) := by
  obtain ⟨c, hc, hactive, rfl⟩ := h
  obtain ⟨hmem, hid, hbactive⟩ := activeBranch?_some hb
  by_cases hname : c.name = b.name
  · rw [if_pos (beq_iff_eq.mpr hname)]
    exact ⟨_, changed_mem_map_if hmem (beq_iff_eq.mpr hid), hbactive, rfl⟩
  · have hother : c.id ≠ id := fun hid => hname (branch_eq_of_id hs hb hc hid ▸ rfl)
    rw [if_neg (by simpa using hname)]
    exact ⟨c, kept_mem_map_if hc (by simpa using hother), hactive, rfl⟩

theorem HasBranch.retire {id : Int} {b : BranchRow} {time : Instant} (hs : s.Keyed)
    (hb : s.activeBranch? id = some b) (h : s.HasBranch name) (hname : name ≠ b.name) :
    (s.mapBranches (fun b => b.id == id && b.isActive) fun b =>
      { b with deletedAt := some time }).HasBranch name := by
  obtain ⟨c, hc, hactive, rfl⟩ := h
  have hother : c.id ≠ id := fun hid => hname (branch_eq_of_id hs hb hc hid ▸ rfl)
  exact ⟨c, kept_mem_map_if hc (by simp [hother]), hactive, rfl⟩

end

/-! ## Where the inventory is -/

/-- All inventory is in a branch that exists. -/
structure Placed (s : Store) : Prop where
  items : ∀ r ∈ s.items, s.HasBranch r.branch
  consumables : ∀ r ∈ s.consumables, s.HasBranch r.branch

theorem placed_of_empty {s : Store} (hitems : s.items = []) (hconsumables : s.consumables = []) :
    s.Placed where
  items := by simp [hitems]
  consumables := by simp [hconsumables]

theorem Placed.mono {s s' : Store} (h : s.Placed) (hitems : s'.items = s.items)
    (hconsumables : s'.consumables = s.consumables)
    (hbranches : ∀ name, s.HasBranch name → s'.HasBranch name) : s'.Placed where
  items := by
    intro r hr
    rw [hitems] at hr
    exact hbranches _ (h.items r hr)
  consumables := by
    intro r hr
    rw [hconsumables] at hr
    exact hbranches _ (h.consumables r hr)

theorem not_heldBy {s : Store} {name : Text} (h : s.heldBy name = 0) :
    (∀ r ∈ s.items, r.branch ≠ name) ∧ ∀ r ∈ s.consumables, r.branch ≠ name := by
  unfold heldBy at h
  have hitems : s.items.countP (·.branch == name) = 0 := by omega
  have hconsumables : s.consumables.countP (·.branch == name) = 0 := by omega
  rw [List.countP_eq_zero] at hitems hconsumables
  exact ⟨fun r hr => by simpa using hitems r hr, fun r hr => by simpa using hconsumables r hr⟩

theorem Placed.rename {s : Store} {id : Int} {b : BranchRow} {name location : Text} (h : s.Placed)
    (hs : s.Keyed) (hb : s.activeBranch? id = some b) :
    (s.withBranch id b.name name location).Placed where
  items := by
    intro r hr
    obtain ⟨old, hold, rfl⟩ := List.mem_map.mp hr
    rw [apply_ite Item.branch]
    exact (h.items old hold).rename hs hb
  consumables := by
    intro r hr
    obtain ⟨old, hold, rfl⟩ := List.mem_map.mp hr
    rw [apply_ite ConsumableRow.branch]
    exact (h.consumables old hold).rename hs hb

theorem Placed.retire {s : Store} {id : Int} {b : BranchRow} {time : Instant} (h : s.Placed)
    (hs : s.Keyed) (hb : s.activeBranch? id = some b) (hheld : s.heldBy b.name = 0) :
    (s.mapBranches (fun b => b.id == id && b.isActive) fun b =>
      { b with deletedAt := some time }).Placed where
  items := fun r hr => (h.items r hr).retire hs hb ((not_heldBy hheld).1 r hr)
  consumables := fun r hr => (h.consumables r hr).retire hs hb ((not_heldBy hheld).2 r hr)

end Store

namespace Api

section
variable {claims : Claims} {s s' : Store} {endpoint : Endpoint}

theorem Act.placed (act : Act claims s endpoint s') (hs : s.Keyed) (h : s.Placed) : s'.Placed := by
  cases act with
  | createBranch row => exact h.mono rfl rfl fun _ hname => hname.add row
  | updateBranch id b name location hb => exact h.rename hs hb
  | deleteBranch id b time hb hheld => exact h.retire hs hb hheld
  | uploadPhoto id b photo => exact h.mono rfl rfl fun _ hname => hname.setPhoto id photo
  | createItem row hid hvalid hplace hbranch =>
    have hitems := List.forall_mem_append.mpr ⟨h.items, List.forall_mem_singleton.mpr hbranch⟩
    exact ⟨hitems, h.consumables⟩
  | updateItem existing row hfound hid hkind hvalid hreach hplace hbranch =>
    exact ⟨forall_mem_map_if h.items fun _ _ _ => hbranch, h.consumables⟩
  | deleteItem existing =>
    exact ⟨fun r hr => h.items r (List.mem_of_mem_filter hr), h.consumables⟩
  | createConsumable c row hrow hvalid hid hplace hbranch =>
    have hstock := List.forall_mem_append.mpr ⟨h.consumables, List.forall_mem_singleton.mpr hbranch⟩
    exact ⟨h.items, hstock⟩
  | updateConsumable existing c row hfound hrow hvalid hid hreach hplace hbranch =>
    exact ⟨h.items, forall_mem_map_if h.consumables fun _ _ _ => hbranch⟩
  | deleteConsumable existing =>
    exact ⟨h.items, fun r hr => h.consumables r (List.mem_of_mem_filter hr)⟩
  -- neither the inventory nor a branch is touched
  | same | leaveRequest | changePassword | logout | createAccount | updateAccount | resetPassword
  | deleteAccount | createDelivery | updateDelivery | deleteDelivery | deleteRequest
  | deleteAllRequests => exact h.mono rfl rfl fun _ hname => hname

end

/-- In a store that had no inventory at first, all inventory is in a branch that exists, whatever is
asked for by whomever. -/
theorem handleAll_placed (s : Store) (run : List (Context × Request)) (hs : s.Keyed)
    (hitems : s.items = []) (hconsumables : s.consumables = []) : (handleAll s run).Placed := by
  have hstart : s.Keyed ∧ s.Placed := ⟨hs, Store.placed_of_empty hitems hconsumables⟩
  refine (handleAll_invariant (P := fun s => s.Keyed ∧ s.Placed) ?_ s run hstart).2
  rintro ctx req s ⟨hkeyed, hplaced⟩
  obtain ⟨claims, endpoint, act⟩ := (handle_step ctx s req).act
  exact ⟨handle_keyed ctx req hkeyed, act.placed hkeyed hplaced⟩

/-! ## A branch with a new name -/

def branchB : BranchRow := { id := 1, name := "B", location := [], createdAt := { unix := 0 } }

def managerAccount : Account :=
  { id := 2, username := "second", role := Role.manager.tag, branch := "B" }

/-- Branch B with its manager. -/
def branchOfManager : Store := { accounts := [firstAdmin, managerAccount], branches := [branchB] }

theorem branchOfManager_keyed : branchOfManager.Keyed where
  distinct := by rintro ⟨⟩ <;> decide
  damaged := fun _ _ hmark => nomatch hmark

/-- The manager of B adds an item. -/
def additionByB : Request :=
  signed managerOfB "POST" "/api/inventory-items"
    "\x7b\"kind\":\"pc\",\"asset_name\":\"PC-B\"\x7d".toList

def itemInB : Item :=
  { id := 1, kind := "pc", branch := "B", assetName := "PC-B", createdAt := { unix := 0 }
    updatedAt := { unix := 0 } }

theorem additionByB_adds :
    (handle earlyContext branchOfManager additionByB).2 =
      { branchOfManager with items := [itemInB] } := by
  have hasks : asksFor additionByB = some (Endpoint.createItem, []) := by decide +kernel
  have hcaller : caller earlyContext branchOfManager additionByB = some managerOfB :=
    signed_caller managerOfB_valid rfl
  exact handle_admitted (by decide +kernel) (by decide +kernel) hasks (by decide) hcaller (by decide)
    (by decide +kernel)

/-- The first administrator gives the branch the name C. -/
def renamingToC : Request :=
  signed asFirst "PUT" "/api/branches/1" "\x7b\"name\":\"C\"\x7d".toList

theorem renamingToC_served {s s' : Store} (hrevoked : s.isRevoked = Store.isRevoked {})
    (hserve : (serve earlyContext asFirst s renamingToC "1" .updateBranch).toOption.map (·.2) =
      some s') :
    (handle earlyContext s renamingToC).2 = s' := by
  have hasks : asksFor renamingToC = some (Endpoint.updateBranch, Text.ofString "1") := by
    decide +kernel
  have hcaller : caller earlyContext s renamingToC = some asFirst :=
    signed_caller asFirst_valid hrevoked
  exact handle_admitted (by decide +kernel) (by decide +kernel) hasks (by decide) hcaller (by decide)
    hserve

/-- The item of branch B is in branch C in the end. -/
theorem branchOfManager_placed :
    branchOfManager.Keyed ∧ branchOfManager.items = [] ∧ branchOfManager.consumables = [] ∧
      (handleAll branchOfManager
        [(earlyContext, additionByB), (earlyContext, renamingToC)]).items.map (·.branch) = ["C"] ∧
      (handleAll branchOfManager
        [(earlyContext, additionByB), (earlyContext, renamingToC)]).Placed := by
  refine ⟨branchOfManager_keyed, rfl, rfl, ?_,
    handleAll_placed branchOfManager _ branchOfManager_keyed rfl rfl⟩
  have hrenamed : (handle earlyContext { branchOfManager with items := [itemInB] } renamingToC).2 =
      { branchOfManager with items := [itemInB] }.withBranch 1 "B" "C" [] :=
    renamingToC_served rfl (by decide +kernel)
  rw [handleAll, additionByB_adds, handleAll, hrenamed, handleAll]
  decide

end Api

/-! ## Where the managers are -/

namespace Store

/-- Every active manager has a branch that exists. -/
def Staffed (s : Store) : Prop :=
  ∀ r ∈ s.accounts, r.isActive = true → r.role = Role.manager.tag →
    r.branch ≠ [] ∧ s.HasBranch r.branch

instance (s : Store) : Decidable s.Staffed :=
  inferInstanceAs (Decidable (∀ r ∈ s.accounts, r.isActive = true → r.role = Role.manager.tag →
    r.branch ≠ [] ∧ s.HasBranch r.branch))

/-- A branch with an active manager is not deleted. -/
def KeepsStaffed (s s' : Store) : Prop :=
  ∀ b ∈ s.branches, b.isActive = true →
    (∃ r ∈ s.accounts, r.isActive = true ∧ r.role = Role.manager.tag ∧ r.branch = b.name) →
    ∃ after ∈ s'.branches, after.id = b.id ∧ after.isActive = true

instance (s s' : Store) : Decidable (s.KeepsStaffed s') :=
  inferInstanceAs (Decidable (∀ b ∈ s.branches, b.isActive = true →
    (∃ r ∈ s.accounts, r.isActive = true ∧ r.role = Role.manager.tag ∧ r.branch = b.name) →
    ∃ after ∈ s'.branches, after.id = b.id ∧ after.isActive = true))

section
variable {s s' : Store}

theorem Assigned.of_manager {role branch : Text} (h : s.Assigned role branch)
    (hrole : role = Role.manager.tag) : branch ≠ [] ∧ s.HasBranch branch := by
  rcases h with ⟨hadmin, -⟩ | ⟨-, hnamed, hbranch⟩
  · have hdistinct : Role.admin.tag ≠ Role.manager.tag := by decide
    exact absurd (hadmin.symm.trans hrole) hdistinct
  · exact ⟨hnamed, hbranch⟩

theorem Staffed.mono (h : s.Staffed) (haccounts : s'.accounts = s.accounts)
    (hbranches : ∀ name, s.HasBranch name → s'.HasBranch name) : s'.Staffed := by
  intro r hr hactive hrole
  rw [haccounts] at hr
  obtain ⟨hnamed, hbranch⟩ := h r hr hactive hrole
  exact ⟨hnamed, hbranches _ hbranch⟩

theorem Staffed.mapAccount {id : Int} {change : Account → Account} (h : s.Staffed)
    (hchange : ∀ r ∈ s.accounts, r.isActive = true → (change r).isActive = true →
      (change r).role = Role.manager.tag → (change r).branch ≠ [] ∧ s.HasBranch (change r).branch) :
    (s.mapAccount id change).Staffed := by
  refine forall_mem_map_if h ?_
  intro r hr hwanted
  have hactive : r.isActive = true := by
    rw [Bool.and_eq_true] at hwanted
    exact hwanted.2
  exact hchange r hr hactive

theorem Staffed.rename {id : Int} {b : BranchRow} {name location : Text} (h : s.Staffed)
    (hs : s.Keyed) (hb : s.activeBranch? id = some b) (hname : name ≠ []) :
    (s.withBranch id b.name name location).Staffed := by
  intro r hr hactive hrole
  obtain ⟨old, hold, rfl⟩ := List.mem_map.mp hr
  have hwas : old.isActive = true := by
    split at hactive
    · exact hactive
    · exact hactive
  rw [apply_ite Account.role, ite_self] at hrole
  obtain ⟨hnamed, hbranch⟩ := h old hold hwas hrole
  rw [apply_ite Account.branch]
  refine ⟨?_, hbranch.rename hs hb⟩
  split
  · exact hname
  · exact hnamed

theorem Staffed.retire {id : Int} {b : BranchRow} {time : Instant} (h : s.Staffed) (hs : s.Keyed)
    (hb : s.activeBranch? id = some b)
    (hkept : s.KeepsStaffed (s.mapBranches (fun b => b.id == id && b.isActive) fun b =>
      { b with deletedAt := some time })) :
    (s.mapBranches (fun b => b.id == id && b.isActive) fun b =>
      { b with deletedAt := some time }).Staffed := by
  intro r hr hactive hrole
  obtain ⟨hnamed, hbranch⟩ := h r hr hactive hrole
  refine ⟨hnamed, hbranch.retire hs hb ?_⟩
  intro hname
  obtain ⟨hmem, hid, hbactive⟩ := activeBranch?_some hb
  obtain ⟨after, hafter, hsame, hstill⟩ := hkept b hmem hbactive ⟨r, hr, hactive, hrole, hname⟩
  -- the row with the id of the branch is the one that was deleted
  obtain ⟨c, hc, rfl⟩ := List.mem_map.mp hafter
  rw [apply_ite BranchRow.id, ite_self, hid] at hsame
  obtain rfl : c = b := branch_eq_of_id hs hb hc hsame
  rw [if_pos (by simp [hid, hbactive])] at hstill
  cases hstill

end

end Store

namespace Api

section
variable {claims : Claims} {s s' : Store} {endpoint : Endpoint}

theorem Act.staffed (act : Act claims s endpoint s') (hs : s.Keyed) (h : s.Staffed)
    (hkept : s.KeepsStaffed s') : s'.Staffed := by
  cases act with
  | createAccount row hid hactive hfree hassigned =>
    refine List.forall_mem_append.mpr ⟨h, List.forall_mem_singleton.mpr ?_⟩
    exact fun _ hrole => hassigned.of_manager hrole
  | updateAccount id role branch hassigned =>
    exact h.mapAccount fun _ _ _ _ hrole => hassigned.of_manager hrole
  | changePassword hash => exact h.mapAccount fun r hr hactive _ => h r hr hactive
  | resetPassword id hash => exact h.mapAccount fun r hr hactive _ => h r hr hactive
  | deleteAccount id time => exact h.mapAccount fun r hr _ hgone => by cases hgone
  | createBranch row => exact h.mono rfl fun _ hname => hname.add row
  | updateBranch id b name location hb hname => exact h.rename hs hb hname
  | deleteBranch id b time hb => exact h.retire hs hb hkept
  | uploadPhoto id b photo => exact h.mono rfl fun _ hname => hname.setPhoto id photo
  -- neither an account nor a branch is touched
  | same | leaveRequest | logout | createItem | updateItem | deleteItem | createConsumable
  | updateConsumable | deleteConsumable | createDelivery | updateDelivery | deleteDelivery
  | deleteRequest | deleteAllRequests => exact h.mono rfl fun _ hname => hname

end

/-- Every active manager goes on having a branch that exists, as long as no branch is deleted that
has one. -/
theorem handleAll_staffed (s : Store) (run : List (Context × Request)) (hs : s.Keyed)
    (hstaffed : s.Staffed) (hrun : Throughout (fun _ _ s s' => s.KeepsStaffed s') s run) :
    (handleAll s run).Staffed := by
  have hstart : s.Keyed ∧ s.Staffed := ⟨hs, hstaffed⟩
  refine (handleAll_keeps (P := fun s => s.Keyed ∧ s.Staffed) _ ?_ s run hrun hstart).2
  rintro ctx req s ⟨hkeyed, hstaffed⟩ hkept
  obtain ⟨claims, endpoint, act⟩ := (handle_step ctx s req).act
  exact ⟨handle_keyed ctx req hkeyed, act.staffed hkeyed hstaffed hkept⟩

/-- The manager of B is the manager of C in the end. -/
theorem branchOfManager_staffed :
    branchOfManager.Staffed ∧
      (handleAll branchOfManager [(earlyContext, renamingToC)]).accounts.map (·.branch) =
        [[], "C"] ∧
      (handleAll branchOfManager [(earlyContext, renamingToC)]).Staffed := by
  have hrenamed : (handle earlyContext branchOfManager renamingToC).2 =
      branchOfManager.withBranch 1 "B" "C" [] := renamingToC_served rfl (by decide +kernel)
  have hstaffed : branchOfManager.Staffed := by decide
  refine ⟨hstaffed, ?_, ?_⟩
  · rw [handleAll, hrenamed, handleAll]
    decide
  · refine handleAll_staffed branchOfManager _ branchOfManager_keyed hstaffed ⟨?_, trivial⟩
    rw [hrenamed]
    decide

/-! ## A branch that is deleted under its manager -/

/-- The first administrator deletes the branch. -/
def deletionOfB : Request := signed asFirst "DELETE" "/api/branches/1" []

theorem deletionOfB_caller : caller earlyContext branchOfManager deletionOfB = some asFirst :=
  signed_caller asFirst_valid rfl

theorem deletionOfB_deletes :
    (handle earlyContext branchOfManager deletionOfB).2 =
      { branchOfManager with branches := [{ branchB with deletedAt := some { unix := 0 } }] } := by
  have hasks : asksFor deletionOfB = some (Endpoint.deleteBranch, Text.ofString "1") := by
    decide +kernel
  exact handle_admitted (by decide +kernel) (by decide +kernel) hasks (by decide)
    deletionOfB_caller (by decide) (by decide +kernel)

/-- Nothing keeps a branch from being deleted under its manager, who then has none. -/
theorem branchOfManager_unstaffed :
    branchOfManager.Keyed ∧ branchOfManager.Staffed ∧
      caller earlyContext branchOfManager deletionOfB = some asFirst ∧
      ¬(handleAll branchOfManager [(earlyContext, deletionOfB)]).Staffed := by
  refine ⟨branchOfManager_keyed, by decide, deletionOfB_caller, ?_⟩
  rw [handleAll, deletionOfB_deletes, handleAll]
  decide

end Api
end Stockroom

import Mathlib.Data.List.Nodup
import Stockroom.Proofs.Store.Keys

/-!
What the store shows of one branch. Two stores agree on a branch when they have the same items and
consumables there and are otherwise the same, but for the items and consumables of other branches.
Whatever is read or written for the branch alone is then the same in both, and leaves stores that
agree again; only the id of a new row may differ.

Main definitions and statements:
* `Store.AgreeOn`: two stores that agree on a branch;
* `Store.LoadsElsewhere`: a row of another branch is not damaged;
* `AgreeOn.item?_paired`, `AgreeOn.consumable?_paired`: what an id stands for;
* one lemma for each operation that reads or writes for a branch.
-/
namespace Stockroom
set_option autoImplicit false

/-! ## Rows of one branch -/

section
variable {ρ : Type} (idOf : ρ → Int) (mine : ρ → Bool)

/-- Among rows with distinct ids it does not matter whether a row is looked for before or after the
others are left out. -/
theorem find_filter (rows : List ρ) (hnodup : (rows.map idOf).Nodup) (id : Int) :
    (rows.filter mine).find? (idOf · == id) = (rows.find? (idOf · == id)).filter mine := by
  induction rows with
  | nil => rfl
  | cons r rest ih =>
    rw [List.map_cons, List.nodup_cons] at hnodup
    -- no later row has the id of this one
    by_cases hid : idOf r = id
    · have hrest : (rest.filter mine).find? (idOf · == id) = none := by
        rw [List.find?_eq_none]
        intro other hother heq
        rw [beq_iff_eq, ← hid] at heq
        exact hnodup.1 (heq ▸ List.mem_map_of_mem (List.mem_filter.mp hother).1)
      by_cases hmine : mine r = true
      · simp [hid, hmine, Option.filter]
      · simp [hid, hmine, hrest, Option.filter]
    · by_cases hmine : mine r = true
      · simp [hid, hmine, ih hnodup.2]
      · simp [hid, hmine, ih hnodup.2]

/-- Tables with the same rows of a branch: an id stands for the same row of the branch in both, or
for none of the branch in either. -/
theorem find_same {rows others : List ρ} (hrows : (rows.map idOf).Nodup)
    (hothers : (others.map idOf).Nodup) (hsame : rows.filter mine = others.filter mine) (id : Int) :
    (∃ r ∈ rows.filter mine, rows.find? (idOf · == id) = some r ∧
        others.find? (idOf · == id) = some r) ∨
      (rows.find? (idOf · == id)).filter mine = none ∧
        (others.find? (idOf · == id)).filter mine = none := by
  have hfind := find_filter idOf mine rows hrows id
  have hfind' := find_filter idOf mine others hothers id
  rw [← hsame] at hfind'
  cases hown : (rows.filter mine).find? (idOf · == id) with
  | none => exact .inr ⟨hfind.symm.trans hown, hfind'.symm.trans hown⟩
  | some r =>
    obtain ⟨hrow, -⟩ := Option.filter_eq_some_iff.mp (hfind.symm.trans hown)
    obtain ⟨hother, -⟩ := Option.filter_eq_some_iff.mp (hfind'.symm.trans hown)
    exact .inl ⟨r, List.mem_of_find?_eq_some hown, hrow, hother⟩

theorem eq_of_find {rows : List ρ} (hnodup : (rows.map idOf).Nodup) {id : Int} {r : ρ}
    (hfind : rows.find? (idOf · == id) = some r) : ∀ old ∈ rows, idOf old = idOf r → old = r :=
  fun _ hold hid => List.inj_on_of_nodup_map hnodup hold (List.mem_of_find?_eq_some hfind) hid

theorem any_congr_of_mem {rows : List ρ} {p q : ρ → Bool} (h : ∀ r ∈ rows, p r = q r) :
    rows.any p = rows.any q := by
  rw [Bool.eq_iff_iff, List.any_eq_true, List.any_eq_true]
  exact exists_congr fun r => and_congr_right fun hr => by rw [h r hr]

theorem mapM_congr_of_mem {ε β : Type} {rows : List ρ} {f g : ρ → Except ε β}
    (h : ∀ r ∈ rows, f r = g r) : rows.mapM f = rows.mapM g := by
  induction rows with
  | nil => rfl
  | cons r rest ih =>
    obtain ⟨hr, hrest⟩ := List.forall_mem_cons.mp h
    rw [List.mapM_cons, List.mapM_cons, hr, ih hrest]

/-- A row that replaces one of the branch and stays in it. -/
theorem filter_replace (rows : List ρ) (row : ρ) (hrow : mine row = true)
    (hold : ∀ old ∈ rows, idOf old = idOf row → mine old = true) :
    (rows.map fun old => if idOf old == idOf row then row else old).filter mine =
      (rows.filter mine).map fun old => if idOf old == idOf row then row else old := by
  rw [List.filter_map]
  congr 1
  apply List.filter_congr
  intro old hmem
  rw [Function.comp_apply]
  split
  · next hid => rw [hrow, hold old hmem (beq_iff_eq.mp hid)]
  · rfl

/-- The rows of the branch have the same ids after a replacement. -/
theorem mem_filter_replace {rows : List ρ} {row after : ρ} (hrow : mine row = true)
    (hold : ∀ old ∈ rows, idOf old = idOf row → mine old = true)
    (hafter : after ∈
      (rows.map fun old => if idOf old == idOf row then row else old).filter mine) :
    ∃ old ∈ rows.filter mine, idOf after = idOf old := by
  rw [filter_replace idOf mine rows row hrow hold] at hafter
  obtain ⟨old, hold, rfl⟩ := List.mem_map.mp hafter
  exact ⟨old, hold, replaced_id idOf old row⟩

theorem filter_swap (rows : List ρ) (keep : ρ → Bool) :
    (rows.filter keep).filter mine = (rows.filter mine).filter keep := by
  rw [List.filter_filter, List.filter_filter]
  apply List.filter_congr
  intro r _
  exact Bool.and_comm ..

theorem countP_filter_and (rows : List ρ) (counted : ρ → Bool) :
    rows.countP (fun r => mine r && counted r) = (rows.filter mine).countP counted := by
  rw [List.countP_filter]
  apply List.countP_congr
  intro r _
  rw [Bool.and_comm]

end

/-- Whether the rows of a table belong to one branch each. -/
def TableName.byBranch : TableName → Bool
  | .items | .consumables => true
  | _ => false

namespace Store

/-- Two stores that show the same of a branch. They may differ in the items and consumables of
other branches and in the damage to those. -/
structure AgreeOn (branch : Text) (s t : Store) : Prop where
  accounts : s.accounts = t.accounts
  branches : s.branches = t.branches
  requests : s.requests = t.requests
  deliveries : s.deliveries = t.deliveries
  settings : s.settings = t.settings
  revocations : s.revocations = t.revocations
  items : s.items.filter (·.branch == branch) = t.items.filter (·.branch == branch)
  consumables : s.consumables.filter (·.branch == branch) =
    t.consumables.filter (·.branch == branch)
  closed : s.faults.closed = t.faults.closed
  dropped : s.faults.dropped = t.faults.dropped
  frozen : s.faults.frozen = t.faults.frozen
  damage : ∀ table, table.byBranch = false → ∀ id,
    s.faults.unreadable.contains (table, id) = t.faults.unreadable.contains (table, id)
  itemDamage : ∀ r ∈ s.items.filter (·.branch == branch),
    s.faults.unreadable.contains (.items, r.id) = t.faults.unreadable.contains (.items, r.id)
  consumableDamage : ∀ r ∈ s.consumables.filter (·.branch == branch),
    s.faults.unreadable.contains (.consumables, r.id) =
      t.faults.unreadable.contains (.consumables, r.id)

namespace AgreeOn

variable {branch : Text} {s t : Store}

/-! ## Whether a statement may run -/

theorem readable (h : AgreeOn branch s t) : s.readable = t.readable := by
  funext tables activity
  simp only [Store.readable, h.closed, h.dropped]

theorem writable (h : AgreeOn branch s t) : s.writable = t.writable := by
  funext table touches activity
  simp only [Store.writable, h.readable, h.frozen]

theorem loadable (h : AgreeOn branch s t) (table : TableName)
    (htable : table.byBranch = false) : s.loadable table = t.loadable table := by
  funext id activity
  simp only [Store.loadable, h.damage table htable]

theorem allLoadable (h : AgreeOn branch s t) (table : TableName)
    (htable : table.byBranch = false) : s.allLoadable table = t.allLoadable table := by
  funext ids activity
  simp only [Store.allLoadable, h.damage table htable]

/-! ## Branches, accounts and what else all may see -/

theorem branch? (h : AgreeOn branch s t) (id : Int) : s.branch? id = t.branch? id := by
  have hfound : s.activeBranch? id = t.activeBranch? id := by
    rw [activeBranch?, activeBranch?, h.branches]
  rw [Store.branch?, Store.branch?, h.readable, hfound]
  cases t.activeBranch? id with
  | none => rfl
  | some b => simp only [showBranch, h.loadable .branches rfl]

theorem branchNamed? (h : AgreeOn branch s t) (name : Text) :
    s.branchNamed? name = t.branchNamed? name := by
  have hfound : s.activeBranchNamed? name = t.activeBranchNamed? name := by
    rw [activeBranchNamed?, activeBranchNamed?, h.branches]
  rw [Store.branchNamed?, Store.branchNamed?, h.readable, hfound]
  cases t.activeBranchNamed? name with
  | none => rfl
  | some b => simp only [showBranch, h.loadable .branches rfl]

theorem branchList (h : AgreeOn branch s t) : s.branchList = t.branchList := by
  have hactive : s.activeBranches = t.activeBranches := by
    rw [activeBranches, activeBranches, h.branches]
  simp only [Store.branchList, h.readable, hactive,
    h.allLoadable .branches rfl]

theorem branchPhoto? (h : AgreeOn branch s t) (id : Int) :
    s.branchPhoto? id = t.branchPhoto? id := by
  simp only [Store.branchPhoto?, h.readable, activeBranch?, h.branches]

/-- The damage of a row goes in both. -/
theorem forget (h : AgreeOn branch s t) (table : TableName) (gone : Int → Bool) :
    AgreeOn branch (s.forget table gone) (t.forget table gone) := by
  have hmarks : ∀ (u : Store) (other : TableName) (id : Int),
      (u.forget table gone).faults.unreadable.contains (other, id) =
        (u.faults.unreadable.contains (other, id) && !(other == table && gone id)) := by
    intro u other id
    rw [Bool.eq_iff_iff, Bool.and_eq_true, List.contains_iff_mem, List.contains_iff_mem]
    exact List.mem_filter
  refine { h with damage := ?_, itemDamage := ?_, consumableDamage := ?_ }
  · intro other hother id
    rw [hmarks, hmarks, h.damage other hother]
  · intro r hr
    rw [hmarks, hmarks, h.itemDamage r hr]
  · intro r hr
    rw [hmarks, hmarks, h.consumableDamage r hr]

theorem loadAccount (h : AgreeOn branch s t) : s.loadAccount = t.loadAccount := by
  funext activity found
  cases found with
  | none => rfl
  | some r => simp only [Store.loadAccount, h.loadable .accounts rfl]

theorem account? (h : AgreeOn branch s t) (id : Int) : s.account? id = t.account? id := by
  simp only [Store.account?, h.readable, h.loadAccount, h.accounts]

theorem accountNamed? (h : AgreeOn branch s t) (username : Text) :
    s.accountNamed? username = t.accountNamed? username := by
  simp only [Store.accountNamed?, h.readable, h.loadAccount, accountOf?, h.accounts]

theorem delivery? (h : AgreeOn branch s t) (id : Int) : s.delivery? id = t.delivery? id := by
  simp only [Store.delivery?, h.readable, h.deliveries,
    h.loadable .deliveries rfl]

theorem deliveryList (h : AgreeOn branch s t) (availability : Text) :
    s.deliveryList availability = t.deliveryList availability := by
  simp only [Store.deliveryList, h.readable, h.deliveries,
    h.allLoadable .deliveries rfl]

theorem isRevoked (h : AgreeOn branch s t) (tokenId : Text) :
    s.isRevoked tokenId = t.isRevoked tokenId := by
  simp only [Store.isRevoked, h.readable, h.revocations]

theorem setBranchPhoto (h : AgreeOn branch s t) (id : Int) (photo : BranchPhoto) :
    Paired (AgreeOn branch) (s.setBranchPhoto id photo) (t.setBranchPhoto id photo) := by
  simp only [Store.setBranchPhoto, mapBranches, h.writable, activeBranch?, h.branches]
  exact .bind_same fun _ _ => .ok { h with branches := rfl }

theorem updatePassword (h : AgreeOn branch s t) (id : Int) (hash : PasswordHash) :
    Paired (AgreeOn branch) (s.updatePassword id hash) (t.updatePassword id hash) := by
  simp only [Store.updatePassword, mapAccount, hasActiveAccount, h.writable, h.accounts]
  exact .bind_same fun _ _ => .ok { h with accounts := rfl }

theorem revoke (h : AgreeOn branch s t) (tokenId : Text) (expiresAt : Instant) :
    Paired (AgreeOn branch) (s.revoke tokenId expiresAt) (t.revoke tokenId expiresAt) := by
  simp only [Store.revoke, h.writable, h.revocations]
  refine .bind_same fun _ _ => ?_
  split
  · exact .ok h
  · exact .ok { h with revocations := rfl }

theorem createRequest (h : AgreeOn branch s t) (now : Instant) (r : ResetRequest) :
    Paired (fun a b => a.1 = b.1 ∧ AgreeOn branch a.2 b.2) (s.createRequest now r)
      (t.createRequest now r) := by
  simp only [Store.createRequest, h.writable, h.requests]
  split
  · exact .error _
  · exact .bind_same fun _ _ => .ok ⟨rfl, { h with requests := rfl }⟩

end AgreeOn

/-! ## Items -/

/-- The row of another branch that an id stands for, if there is one, can be loaded. -/
def LoadsElsewhere (s : Store) (branch : Text) : TableName → Int → Prop
  | .items, id => ∀ r ∈ s.items, r.id = id → r.branch ≠ branch →
    s.faults.unreadable.contains (.items, id) = false
  | .consumables, id => ∀ r ∈ s.consumables, r.id = id → r.branch ≠ branch →
    s.faults.unreadable.contains (.consumables, id) = false ∧ ∃ c, r.load = .ok c
  | _, _ => True

/-- What is found for an id is the same record of the branch, or nothing of the branch at all. -/
def SameOwn {ρ : Type} (branchOf : ρ → Text) (branch : Text) (x y : Option ρ) : Prop :=
  (∃ r, branchOf r = branch ∧ x = some r ∧ y = some r) ∨
    (x.filter fun r => branchOf r == branch) = none ∧
      (y.filter fun r => branchOf r == branch) = none

section
variable {branch : Text} {s t : Store} {id : Int}

/-- An id that stands for nothing of the branch. -/
theorem item?_elsewhere (hread : s.readable [.items] "getting inventory item" = .ok ())
    (hloads : s.LoadsElsewhere branch .items id)
    (hother : (s.items.find? (·.id == id)).filter (·.branch == branch) = none) :
    s.item? id = .ok (s.items.find? (·.id == id)) := by
  cases hfind : s.items.find? (·.id == id) with
  | none => simp only [item?, hread, hfind]; rfl
  | some r =>
    have hid : r.id = id := by simpa using List.find?_some hfind
    have hbranch : r.branch ≠ branch := by
      intro heq
      rw [hfind, Option.filter_some_pos (by simp [heq])] at hother
      cases hother
    have hdamage := hloads r (List.mem_of_find?_eq_some hfind) hid hbranch
    simp only [item?, hread, hfind, Store.loadable, hid, hdamage]
    rfl

theorem AgreeOn.item?_paired (h : AgreeOn branch s t) (hs : s.Keyed) (ht : t.Keyed)
    (hsloads : s.LoadsElsewhere branch .items id) (htloads : t.LoadsElsewhere branch .items id) :
    Paired (SameOwn Item.branch branch) (s.item? id) (t.item? id) := by
  cases hread : t.readable [.items] "getting inventory item" with
  | error e =>
    simp only [item?, h.readable, hread]
    exact .error e
  | ok =>
    have hsread : s.readable [.items] "getting inventory item" = .ok () := by rw [h.readable, hread]
    obtain ⟨r, hmine, hsrow, htrow⟩ | ⟨hsother, htother⟩ := find_same Item.id
      (·.branch == branch) (hs.distinct .items) (ht.distinct .items) h.items id
    · have hbranch : r.branch = branch := by simpa using (List.mem_filter.mp hmine).2
      simp only [item?, hsread, hread, hsrow, htrow, Store.loadable, h.itemDamage r hmine]
      refine .bind_same fun _ _ => .bind_same fun _ _ => .ok ?_
      exact .inl ⟨r, hbranch, rfl, rfl⟩
    · rw [item?_elsewhere hsread hsloads hsother, item?_elsewhere hread htloads htother]
      exact .ok (.inr ⟨hsother, htother⟩)

theorem AgreeOn.itemList (h : AgreeOn branch s t) (hbranch : branch.isEmpty = false) (kind : Text) :
    s.itemList { branch, kind } = t.itemList { branch, kind } := by
  have hkeeps : ∀ rows : List Item, rows.filter ({ branch, kind } : ItemFilter).keeps =
      (rows.filter (·.branch == branch)).filter fun r => kind.isEmpty || r.kind == kind := by
    intro rows
    rw [List.filter_filter]
    apply List.filter_congr
    intro r _
    simp only [ItemFilter.keeps, hbranch, Bool.false_or, Bool.and_comm]
  have hkept : s.itemsKept { branch, kind } = t.itemsKept { branch, kind } := by
    rw [itemsKept, itemsKept, hkeeps, hkeeps, h.items]
  have hloads : ∀ activity,
      s.allLoadable .items ((t.itemsKept { branch, kind }).map (·.id)) activity =
        t.allLoadable .items ((t.itemsKept { branch, kind }).map (·.id)) activity := by
    intro activity
    have hany : ∀ r ∈ t.itemsKept { branch, kind },
        s.faults.unreadable.contains (.items, r.id) =
          t.faults.unreadable.contains (.items, r.id) := by
      intro r hr
      rw [← hkept, itemsKept, sortedBy, List.mem_mergeSort, hkeeps] at hr
      exact h.itemDamage r (List.mem_filter.mp hr).1
    simp only [Store.allLoadable, List.any_map, Function.comp_def, any_congr_of_mem hany]
  simp only [Store.itemList, h.readable, hkept, hloads]

/-- A new item gets an id that may differ. -/
theorem AgreeOn.createItem (h : AgreeOn branch s t) (now : Instant) (r : Item) :
    Paired (fun a b => ∃ i j, ∃ row : Item, row.branch = r.branch ∧
        a = ({ row with id := i }, { s with items := s.items ++ [{ row with id := i }] }) ∧
        b = ({ row with id := j }, { t with items := t.items ++ [{ row with id := j }] }))
      (s.createItem now r) (t.createItem now r) := by
  simp only [Store.createItem, insertItem, h.writable]
  refine .bind_same fun _ _ => .bind_same fun _ _ => .ok ?_
  exact ⟨_, _, { r with createdAt := now.stored, updatedAt := now.stored }, rfl, rfl, rfl⟩

theorem AgreeOn.replaceItem (h : AgreeOn branch s t) (now : Instant) {existing r : Item}
    (hs : ∀ old ∈ s.items, old.id = existing.id → (old.branch == branch) = true)
    (ht : ∀ old ∈ t.items, old.id = existing.id → (old.branch == branch) = true)
    (hr : r.branch = branch) :
    Paired (fun a b => a.1 = b.1 ∧ AgreeOn branch a.2 b.2) (s.replaceItem now existing r)
      (t.replaceItem now existing r) := by
  have hrow : ((itemAfter existing r now).branch == branch) = true := by
    simpa [itemAfter] using hr
  simp only [Store.replaceItem, h.writable]
  refine .bind_same fun _ _ => .ok ⟨rfl, { h with items := ?_, itemDamage := ?_ }⟩
  · have hsrows := filter_replace Item.id (·.branch == branch) s.items _ hrow hs
    have htrows := filter_replace Item.id (·.branch == branch) t.items _ hrow ht
    rw [h.items, ← htrows] at hsrows
    exact hsrows
  · intro after hafter
    obtain ⟨old, hold, hid⟩ := mem_filter_replace Item.id (·.branch == branch) hrow hs hafter
    rw [hid]
    exact h.itemDamage old hold

theorem AgreeOn.updateItem (h : AgreeOn branch s t) (hs : s.Keyed) (ht : t.Keyed) (now : Instant)
    {existing r : Item} (hsfound : s.item? id = .ok (some existing))
    (htfound : t.item? id = .ok (some existing)) (hexisting : existing.branch = branch)
    (hr : r.branch = branch) :
    Paired (fun a b => a.1 = b.1 ∧ AgreeOn branch a.2 b.2) (s.updateItem now id r)
      (t.updateItem now id r) := by
  have hsold := eq_of_find Item.id (hs.distinct .items) (item?_some hsfound)
  have htold := eq_of_find Item.id (ht.distinct .items) (item?_some htfound)
  simp only [Store.updateItem, hsfound, htfound]
  refine .bind_same fun found hfound => ?_
  cases hfound
  refine .bind_same fun _ _ => .bind (h.replaceItem now ?_ ?_ hr) ?_
  · intro old hold hid
    rw [hsold old hold hid, hexisting, beq_self_eq_true]
  · intro old hold hid
    rw [htold old hold hid, hexisting, beq_self_eq_true]
  · rintro ⟨row, s'⟩ ⟨_, t'⟩ ⟨rfl, hagree⟩
    exact .ok ⟨rfl, hagree⟩

theorem AgreeOn.deleteItem (h : AgreeOn branch s t) {r : Item}
    (hsfound : s.item? r.id = .ok (some r)) (htfound : t.item? r.id = .ok (some r)) :
    Paired (AgreeOn branch) (s.deleteItem r.id) (t.deleteItem r.id) := by
  have htouches : ∀ u : Store, u.item? r.id = .ok (some r) →
      u.items.any (·.id == r.id) = true := by
    intro u hfound
    have hfind := item?_some hfound
    have hid := List.find?_some hfind
    exact List.any_eq_true.mpr ⟨r, List.mem_of_find?_eq_some hfind, hid⟩
  simp only [Store.deleteItem, h.writable, htouches s hsfound, htouches t htfound]
  refine .bind_same fun _ _ => .ok (AgreeOn.forget ?_ _ _)
  refine { h with items := ?_, itemDamage := ?_ }
  · simp only [filter_swap, h.items]
  · intro old hold
    rw [filter_swap] at hold
    exact h.itemDamage old (List.mem_filter.mp hold).1

/-! ## Consumables -/

theorem load_branch {r : ConsumableRow} {c : Consumable} (h : r.load = .ok c) :
    c.branch = r.branch := by
  simp only [ConsumableRow.load, bind_eq_ok, pure_eq_ok] at h
  obtain ⟨_, -, _, -, _, -, _, -, _, -, _, -, rfl⟩ := h
  rfl

theorem load_withId (r : ConsumableRow) (i : Int) :
    ({ r with id := i } : ConsumableRow).load = r.load.map fun c => { c with id := i } := by
  simp only [ConsumableRow.load, map_bind]
  rfl

theorem ofConsumable_branch {c : Consumable} {r : ConsumableRow}
    (h : ConsumableRow.ofConsumable c = .ok r) : r.branch = c.branch := by
  simp only [ConsumableRow.ofConsumable, bind_eq_ok, pure_eq_ok] at h
  obtain ⟨_, -, _, -, _, -, _, -, _, -, _, -, rfl⟩ := h
  rfl

theorem ofConsumable_withId (c : Consumable) (i : Int) :
    ConsumableRow.ofConsumable { c with id := i } =
      (ConsumableRow.ofConsumable c).map fun r => { r with id := i } := by
  simp only [ConsumableRow.ofConsumable, map_bind]
  rfl

theorem loadConsumable_congr {r : ConsumableRow} (activity : Text)
    (hdamage : s.faults.unreadable.contains (.consumables, r.id) =
      t.faults.unreadable.contains (.consumables, r.id)) :
    s.loadConsumable activity r = t.loadConsumable activity r := by
  simp only [loadConsumable, Store.loadable, hdamage]

/-- An id that stands for nothing of the branch. -/
theorem consumable?_elsewhere (hread : s.readable [.consumables] "getting consumable" = .ok ())
    (hloads : s.LoadsElsewhere branch .consumables id)
    (hother : (s.consumables.find? (·.id == id)).filter (·.branch == branch) = none) :
    ∃ found, s.consumable? id = .ok found ∧ (found.filter (·.branch == branch)) = none := by
  cases hfind : s.consumables.find? (·.id == id) with
  | none =>
    refine ⟨none, ?_, rfl⟩
    simp only [consumable?, hread, hfind]
    rfl
  | some r =>
    have hid : r.id = id := by simpa using List.find?_some hfind
    have hbranch : r.branch ≠ branch := by
      intro heq
      rw [hfind, Option.filter_some_pos (by simp [heq])] at hother
      cases hother
    obtain ⟨hdamage, c, hload⟩ := hloads r (List.mem_of_find?_eq_some hfind) hid hbranch
    refine ⟨some c, ?_, ?_⟩
    · simp only [consumable?, hread, hfind, loadConsumable, Store.loadable, hid, hdamage, hload]
      rfl
    · rw [Option.filter_some_neg (by simp [load_branch hload, hbranch])]

theorem AgreeOn.consumable?_paired (h : AgreeOn branch s t) (hs : s.Keyed) (ht : t.Keyed)
    (hsloads : s.LoadsElsewhere branch .consumables id)
    (htloads : t.LoadsElsewhere branch .consumables id) :
    Paired (SameOwn Consumable.branch branch) (s.consumable? id) (t.consumable? id) := by
  cases hread : t.readable [.consumables] "getting consumable" with
  | error e =>
    simp only [consumable?, h.readable, hread]
    exact .error e
  | ok =>
    have hsread : s.readable [.consumables] "getting consumable" = .ok () := by
      rw [h.readable, hread]
    obtain ⟨r, hmine, hsrow, htrow⟩ | ⟨hsother, htother⟩ := find_same ConsumableRow.id
      (·.branch == branch) (hs.distinct .consumables) (ht.distinct .consumables) h.consumables id
    · have hbranch : r.branch = branch := by simpa using (List.mem_filter.mp hmine).2
      simp only [consumable?, hsread, hread, hsrow, htrow,
        loadConsumable_congr _ (h.consumableDamage r hmine)]
      refine .bind_same fun _ _ => .bind_same fun c hc => .ok (.inl ⟨c, ?_, rfl, rfl⟩)
      rw [load_branch (loadConsumable_eq_ok hc), hbranch]
    · obtain ⟨x, hx, hxother⟩ := consumable?_elsewhere hsread hsloads hsother
      obtain ⟨y, hy, hyother⟩ := consumable?_elsewhere hread htloads htother
      rw [hx, hy]
      exact .ok (.inr ⟨hxother, hyother⟩)

theorem AgreeOn.consumableList (h : AgreeOn branch s t) (hbranch : branch.isEmpty = false)
    (state search : Text) :
    s.consumableList { branch, state, search } = t.consumableList { branch, state, search } := by
  let f : ConsumableFilter := { branch, state, search }
  have hplace : ∀ rows : List ConsumableRow, rows.any f.inPlace =
      (rows.filter (·.branch == branch)).any fun r => state.isEmpty || r.state == state := by
    intro rows
    rw [List.any_filter]
    apply any_congr_of_mem
    intro r _
    simp only [f, ConsumableFilter.inPlace, hbranch, Bool.false_or]
  have hkeeps : ∀ rows : List ConsumableRow, rows.filter f.keeps =
      (rows.filter (·.branch == branch)).filter f.keeps := by
    intro rows
    rw [List.filter_filter]
    apply List.filter_congr
    intro r _
    simp only [f, ConsumableFilter.keeps, ConsumableFilter.inPlace, hbranch, Bool.false_or]
    cases r.branch == branch <;> simp
  have hkept : s.consumablesKept f = t.consumablesKept f := by
    rw [consumablesKept, consumablesKept, hkeeps, hkeeps t.consumables, h.consumables]
  have hloads : (t.consumablesKept f).mapM (s.loadConsumable "scanning consumable") =
      (t.consumablesKept f).mapM (t.loadConsumable "scanning consumable") := by
    apply mapM_congr_of_mem
    intro r hr
    rw [← hkept, consumablesKept, sortedBy, List.mem_mergeSort, hkeeps] at hr
    exact loadConsumable_congr _ (h.consumableDamage r (List.mem_filter.mp hr).1)
  change s.consumableList f = t.consumableList f
  simp only [Store.consumableList, h.readable, hplace, h.consumables, hkept, hloads]

/-- The columns of a record but for its id do not depend on the id. -/
theorem consumableRow_paired (c : Consumable) (i j : Int) (createdAt updatedAt : Instant)
    (activity : Text) :
    Paired (fun a b => ∃ row : ConsumableRow, row.branch = c.branch ∧
        a = { row with id := i } ∧ b = { row with id := j })
      (consumableRow c i createdAt updatedAt activity)
      (consumableRow c j createdAt updatedAt activity) := by
  have hi := ofConsumable_withId (stamped c 0 createdAt updatedAt) i
  have hj := ofConsumable_withId (stamped c 0 createdAt updatedAt) j
  simp only [stamped] at hi hj
  cases hzero : ConsumableRow.ofConsumable { c with id := 0, createdAt, updatedAt } with
  | error e =>
    simp only [consumableRow, hi, hj, hzero]
    exact .error _
  | ok row =>
    have hbranch := ofConsumable_branch hzero
    simp only [consumableRow, hi, hj, hzero]
    exact .ok ⟨row, hbranch, rfl, rfl⟩

theorem filledIn_branch (c : Consumable) : c.filledIn.branch = c.branch := by
  simp only [Consumable.filledIn]
  split <;> split <;> rfl

theorem retyped_branch {existing c typed : Consumable} (h : retyped existing c = .ok typed) :
    typed.branch = c.branch := by
  unfold retyped at h
  split at h
  · split at h
    · next configured hconfigure =>
      cases h
      unfold Consumable.configure at hconfigure
      split at hconfigure
      · cases hconfigure
      · simp only [bind_eq_ok, pure_eq_ok] at hconfigure
        obtain ⟨_, -, rfl⟩ := hconfigure
        rfl
    · cases h
  · cases h
    rfl

theorem loadConsumable_withId {k : Int} (activity : Text) (row : ConsumableRow)
    (hdamage : s.faults.unreadable.contains (.consumables, k) = false) :
    s.loadConsumable activity { row with id := k } =
      (row.load.map fun c => { c with id := k }).mapError fun _ => .database activity := by
  simp only [loadConsumable, Store.loadable, hdamage, load_withId]
  cases row.load <;> rfl

/-- A new consumable gets an id that may differ. -/
theorem AgreeOn.createConsumable (h : AgreeOn branch s t) (hs : s.Keyed) (ht : t.Keyed)
    (now : Instant) (c : Consumable) :
    Paired (fun a b => ∃ i j, ∃ shown : Consumable, ∃ row : ConsumableRow, row.branch = c.branch ∧
        row.load = .ok shown ∧
        a = ({ shown with id := i },
          { s with consumables := s.consumables ++ [{ row with id := i }] }) ∧
        b = ({ shown with id := j },
          { t with consumables := t.consumables ++ [{ row with id := j }] }))
      (s.createConsumable now c) (t.createConsumable now c) := by
  simp only [Store.createConsumable, insertConsumable, h.writable]
  refine .bind_same fun ready hready => .bind_same fun _ _ =>
    .bind (consumableRow_paired ..) ?_
  rintro _ _ ⟨row, hrow, rfl, rfl⟩
  have hsload := fun rows => loadConsumable_withId (s := { s with consumables := rows })
    "getting consumable" row (hs.fresh .consumables)
  have htload := fun rows => loadConsumable_withId (s := { t with consumables := rows })
    "getting consumable" row (ht.fresh .consumables)
  simp only [ids] at hsload htload
  rw [hsload, htload]
  cases hload : row.load with
  | error e => exact .error _
  | ok shown =>
    refine .ok ⟨_, _, shown, row, ?_, hload, rfl, rfl⟩
    rw [hrow, (readyConsumable_eq_ok hready).1, filledIn_branch]

theorem AgreeOn.replaceConsumable (h : AgreeOn branch s t) (now : Instant)
    {existing c : Consumable} {old : ConsumableRow}
    (hmine : old ∈ s.consumables.filter (·.branch == branch)) (hid : old.id = existing.id)
    (hs : ∀ other ∈ s.consumables, other.id = existing.id → (other.branch == branch) = true)
    (ht : ∀ other ∈ t.consumables, other.id = existing.id → (other.branch == branch) = true)
    (hc : c.branch = branch) :
    Paired (fun a b => a.1 = b.1 ∧ AgreeOn branch a.2 b.2) (s.replaceConsumable now existing c)
      (t.replaceConsumable now existing c) := by
  simp only [Store.replaceConsumable, h.writable]
  refine .bind_same fun _ _ => .bind_same fun row hstored => ?_
  have hstored := consumableRow_eq_ok hstored
  have hrowid := ConsumableRow.ofConsumable_id hstored
  have hrowbranch := ofConsumable_branch hstored
  change row.id = existing.id at hrowid
  change row.branch = c.branch at hrowbranch
  have hrow : (row.branch == branch) = true := by simpa using hrowbranch.trans hc
  have hdamage := h.consumableDamage old hmine
  rw [hid, ← hrowid] at hdamage
  simp only [← hrowid] at hs ht ⊢
  refine .bind (.of_eq (loadConsumable_congr _ hdamage)) ?_
  rintro shown _ rfl
  refine .ok ⟨rfl, { h with consumables := ?_, consumableDamage := ?_ }⟩
  · have hsrows := filter_replace ConsumableRow.id (·.branch == branch) s.consumables row hrow hs
    have htrows := filter_replace ConsumableRow.id (·.branch == branch) t.consumables row hrow ht
    rw [h.consumables, ← htrows] at hsrows
    exact hsrows
  · intro after hafter
    obtain ⟨old, hold, hid⟩ :=
      mem_filter_replace ConsumableRow.id (·.branch == branch) hrow hs hafter
    rw [hid]
    exact h.consumableDamage old hold

theorem AgreeOn.updateConsumable (h : AgreeOn branch s t) (hs : s.Keyed) (ht : t.Keyed)
    (now : Instant) {existing c : Consumable} (hsfound : s.consumable? id = .ok (some existing))
    (htfound : t.consumable? id = .ok (some existing)) (hexisting : existing.branch = branch)
    (hc : c.branch = branch) :
    Paired (fun a b => a.1 = b.1 ∧ AgreeOn branch a.2 b.2) (s.updateConsumable now id c)
      (t.updateConsumable now id c) := by
  obtain ⟨old, hsold, hload⟩ := consumable?_some hsfound
  obtain ⟨told, htold, htload⟩ := consumable?_some htfound
  have hid := ConsumableRow.load_id hload
  have htid := ConsumableRow.load_id htload
  have hsother := eq_of_find ConsumableRow.id (hs.distinct .consumables) hsold
  have htother := eq_of_find ConsumableRow.id (ht.distinct .consumables) htold
  have hbranch : old.branch = branch := (load_branch hload).symm.trans hexisting
  have htbranch : told.branch = branch := (load_branch htload).symm.trans hexisting
  have hmine : old ∈ s.consumables.filter (·.branch == branch) :=
    List.mem_filter.mpr ⟨List.mem_of_find?_eq_some hsold, by simpa using hbranch⟩
  simp only [Store.updateConsumable, hsfound, htfound]
  refine .bind_same fun found hfound => ?_
  cases hfound
  refine .bind_same fun typed htyped => .bind_same fun ready hready => ?_
  have hready : ready.branch = branch := by
    rw [(readyConsumable_eq_ok hready).1, filledIn_branch, retyped_branch htyped, hc]
  refine .bind (h.replaceConsumable now hmine hid.symm ?_ ?_ hready) ?_
  · intro other hother heq
    rw [hsother other hother (heq.trans hid), hbranch, beq_self_eq_true]
  · intro other hother heq
    rw [htother other hother (heq.trans htid), htbranch, beq_self_eq_true]
  · rintro ⟨row, s'⟩ ⟨_, t'⟩ ⟨rfl, hagree⟩
    exact .ok ⟨rfl, hagree⟩

theorem AgreeOn.deleteConsumable (h : AgreeOn branch s t) {c : Consumable}
    (hsfound : s.consumable? c.id = .ok (some c)) (htfound : t.consumable? c.id = .ok (some c)) :
    Paired (AgreeOn branch) (s.deleteConsumable c.id) (t.deleteConsumable c.id) := by
  have htouches : ∀ u : Store, u.consumable? c.id = .ok (some c) →
      u.consumables.any (·.id == c.id) = true := by
    intro u hfound
    obtain ⟨row, hfind, -⟩ := consumable?_some hfound
    have hid := List.find?_some hfind
    exact List.any_eq_true.mpr ⟨row, List.mem_of_find?_eq_some hfind, hid⟩
  simp only [Store.deleteConsumable, h.writable, htouches s hsfound, htouches t htfound]
  refine .bind_same fun _ _ => .ok (AgreeOn.forget ?_ _ _)
  refine { h with consumables := ?_, consumableDamage := ?_ }
  · simp only [filter_swap, h.consumables]
  · intro old hold
    rw [filter_swap] at hold
    exact h.consumableDamage old (List.mem_filter.mp hold).1

/-! ## Numbers -/

theorem AgreeOn.branchCounts (h : AgreeOn branch s t) :
    s.branchCounts branch = t.branchCounts branch := by
  have hitems (counted : Item → Bool) : s.items.countP (fun r => r.branch == branch && counted r) =
      t.items.countP fun r => r.branch == branch && counted r := by
    rw [countP_filter_and (fun r : Item => r.branch == branch),
      countP_filter_and (fun r : Item => r.branch == branch), h.items]
  have hconsumables (counted : ConsumableRow → Bool) :
      s.consumables.countP (fun r => r.branch == branch && counted r) =
        t.consumables.countP fun r => r.branch == branch && counted r := by
    rw [countP_filter_and (fun r : ConsumableRow => r.branch == branch),
      countP_filter_and (fun r : ConsumableRow => r.branch == branch), h.consumables]
  have hcounts : s.countsOf branch = t.countsOf branch := by
    rw [countsOf, countsOf, hitems (·.kind == ItemKind.pc.tag),
      hitems (·.kind == ItemKind.printer.tag), hconsumables (·.state == inStockState)]
  rw [Store.branchCounts, Store.branchCounts, h.readable, hcounts]

end

end Store
end Stockroom

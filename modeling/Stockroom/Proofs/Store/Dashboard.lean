import Mathlib.Algebra.BigOperators.Group.List.Basic
import Mathlib.Algebra.GroupWithZero.Nat
import Mathlib.Data.List.Nodup
import Stockroom.Proofs.Store.Soundness
import Stockroom.Proofs.Text.Order
import Stockroom.Store.Dashboard

/-!
The numbers on the dashboards, counted in three ways. One branch is counted by itself; for all
branches the rows are counted in groups, and the groups are entered by the places of their branches;
and the listings of a branch are as long as its numbers say. The first two agree when no two names are
the same.

Main definitions and statements:
* `counted?`, `counted?_groupCounts`: the group of a branch and a second column has all rows of both;
* `groupCounts_nodup`: no two groups are of the same branch and column;
* `enterGroups_eq`: what is entered for a branch is what the groups of the branch say;
* `Store.countsOfAll_eq`: counted in groups, every branch has the numbers it has by itself;
* `sum_countP`: rows that are all in some branch are as many as in all branches together;
* `Store.Sound.itemList_length`, `Store.Sound.consumableList_length`: how long the listings are.
-/
namespace Stockroom
set_option autoImplicit false

/-! ## Groups -/

def GroupCount.key (g : GroupCount) : Text × Text := (g.branch, g.column)

/-- The count of the group of a branch and a second column. -/
def counted? (groups : List GroupCount) (branch column : Text) : Option Nat :=
  (groups.find? fun g => g.branch == branch && g.column == column).map (·.count)

section
variable {groups : List GroupCount} {branch column : Text}

@[simp] theorem counted?_nil : counted? [] branch column = none := rfl

theorem counted?_cons (g : GroupCount) : counted? (g :: groups) branch column =
    if g.key = (branch, column) then some g.count else counted? groups branch column := by
  rw [counted?, List.find?_cons]
  by_cases h : g.key = (branch, column)
  · obtain ⟨rfl, rfl⟩ := Prod.mk.inj h
    simp [GroupCount.key]
  · have hother : (g.branch == branch && g.column == column) = false := by
      simpa [GroupCount.key] using h
    rw [hother, if_neg h]
    rfl

theorem counted?_eq_none (h : (branch, column) ∉ groups.map (·.key)) :
    counted? groups branch column = none := by
  induction groups with
  | nil => rfl
  | cons g rest ih =>
    rw [List.map_cons, List.mem_cons, not_or] at h
    rw [counted?_cons, if_neg (Ne.symm h.1), ih h.2]

/-- A row adds one to its group, which it starts if it is not there. -/
theorem counted?_add (b c : Text) : counted? (GroupCount.add b c groups) branch column =
    if (b, c) = (branch, column) then some ((counted? groups branch column).getD 0 + 1)
    else counted? groups branch column := by
  induction groups with
  | nil => simp [GroupCount.add, counted?_cons, GroupCount.key]
  | cons g rest ih =>
    rw [GroupCount.add]
    split
    · next hsame =>
      have hkey : g.key = (b, c) := by simpa [GroupCount.key] using hsame
      rw [counted?_cons, counted?_cons, hkey]
      change (if g.key = _ then _ else _) = _
      rw [hkey]
      split
      · rfl
      · rfl
    · next hother =>
      have hkey : g.key ≠ (b, c) := by simpa [GroupCount.key] using hother
      rw [counted?_cons, counted?_cons, ih]
      by_cases h : g.key = (branch, column)
      · rw [if_pos h, if_pos h, if_neg fun heq => hkey (h.trans heq.symm)]
      · rw [if_neg h, if_neg h]

/-- The keys after a row was counted. -/
theorem keys_add (b c : Text) : (GroupCount.add b c groups).map (·.key) =
    if (b, c) ∈ groups.map (·.key) then groups.map (·.key) else groups.map (·.key) ++ [(b, c)] := by
  induction groups with
  | nil => rfl
  | cons g rest ih =>
    rw [GroupCount.add]
    split
    · next hsame =>
      have hkey : g.key = (b, c) := by simpa [GroupCount.key] using hsame
      rw [if_pos (by rw [List.map_cons, hkey]; exact List.mem_cons_self)]
      rfl
    · next hother =>
      have hkey : g.key ≠ (b, c) := by simpa [GroupCount.key] using hother
      rw [List.map_cons, ih, List.map_cons]
      by_cases h : (b, c) ∈ rest.map (·.key)
      · rw [if_pos h, if_pos (List.mem_cons_of_mem _ h)]
      · have hnew : (b, c) ∉ g.key :: rest.map (·.key) := by
          rw [List.mem_cons, not_or]
          exact ⟨hkey.symm, h⟩
        rw [if_neg h, if_neg hnew]
        rfl

variable {ρ : Type} (branchOf columnOf : ρ → Text)

theorem counted?_foldl_add (rows : List ρ) (groups : List GroupCount) :
    (counted? (rows.foldl (fun groups r => GroupCount.add (branchOf r) (columnOf r) groups) groups)
      branch column).getD 0 =
      (counted? groups branch column).getD 0 +
        rows.countP fun r => branchOf r == branch && columnOf r == column := by
  induction rows generalizing groups with
  | nil => rfl
  | cons r rest ih =>
    rw [List.foldl_cons, ih, counted?_add, List.countP_cons]
    by_cases h : (branchOf r, columnOf r) = (branch, column)
    · obtain ⟨rfl, rfl⟩ := Prod.mk.inj h
      simp only [beq_self_eq_true, Bool.and_self, if_true, Option.getD_some]
      omega
    · have hother : (branchOf r == branch && columnOf r == column) = false := by simpa using h
      rw [if_neg h, hother]
      rfl

/-- The group of a branch and a second column counts all rows of both. -/
theorem counted?_groupCounts (rows : List ρ) :
    (counted? (groupCounts branchOf columnOf rows) branch column).getD 0 =
      rows.countP fun r => branchOf r == branch && columnOf r == column := by
  rw [groupCounts, counted?_foldl_add, counted?_nil, Option.getD_none, Nat.zero_add]

theorem groupCounts_nodup (rows : List ρ) :
    ((groupCounts branchOf columnOf rows).map (·.key)).Nodup := by
  have hfold (groups : List GroupCount) (h : (groups.map (·.key)).Nodup) :
      ((rows.foldl (fun groups r => GroupCount.add (branchOf r) (columnOf r) groups) groups).map
        (·.key)).Nodup := by
    induction rows generalizing groups with
    | nil => exact h
    | cons r rest ih =>
      refine ih _ ?_
      rw [keys_add]
      split
      · exact h
      · next hnew =>
        exact List.nodup_append.mpr ⟨h, List.nodup_singleton _, fun key hkey other hother =>
          fun heq => hnew (by rw [← List.mem_singleton.mp hother, ← heq]; exact hkey)⟩
  exact hfold [] List.nodup_nil

end

/-! ## Places -/

section
variable {names : List Text} {name : Text} {i : Nat}

theorem placeOf?_eq_some (hnodup : names.Nodup) :
    placeOf? names name = some i ↔ names[i]? = some name := by
  have hkeys : (names.zipIdx.reverse.map (·.1)).Nodup := by
    rw [List.map_reverse, List.nodup_reverse, List.zipIdx_map_fst]
    exact hnodup
  rw [placeOf?, lookup_eq_some_iff_mem hkeys, List.mem_reverse, List.mem_zipIdx_iff_getElem?]

theorem not_mem_of_placeOf?_eq_none (hnodup : names.Nodup) (h : placeOf? names name = none) :
    name ∉ names := by
  intro hmem
  obtain ⟨i, hi⟩ := List.mem_iff_getElem?.mp hmem
  rw [(placeOf?_eq_some hnodup).mpr hi] at h
  cases h

variable (enter : GroupCount → BranchCounts → BranchCounts)

/-- A group is entered for its branch, and for no other one. -/
theorem enterGroup_eq (hnodup : names.Nodup) (g : GroupCount) (f : Text → BranchCounts) :
    enterGroup names enter (names.map f) g =
      names.map fun name => if g.branch == name then enter g (f name) else f name := by
  unfold enterGroup
  split
  · next i hplace =>
    have hi := (placeOf?_eq_some hnodup).mp hplace
    refine List.ext_getElem? fun j => ?_
    rw [List.getElem?_modify, List.getElem?_map, List.getElem?_map]
    cases hj : names[j]? with
    | none => rfl
    | some name =>
      -- the place of a name is the only one where it stands
      have hplaces : i = j ↔ g.branch = name := by
        constructor
        · rintro rfl
          exact Option.some.inj (hi.symm.trans hj)
        · rintro rfl
          exact Option.some.inj (hplace.symm.trans ((placeOf?_eq_some hnodup).mpr hj))
      by_cases hname : g.branch = name
      · simp [hname, hplaces.mpr hname]
      · simp [hname, mt hplaces.mp hname]
  · next hplace =>
    have hout := not_mem_of_placeOf?_eq_none hnodup hplace
    refine List.map_congr_left fun name hname => (if_neg fun heq => hout ?_).symm
    rw [beq_iff_eq.mp heq]
    exact hname

/-- What is entered for a branch is what the groups of the branch say, one after another. -/
theorem enterGroups_eq (hnodup : names.Nodup) (groups : List GroupCount) (f : Text → BranchCounts) :
    enterGroups names enter groups (names.map f) = names.map fun name =>
      (groups.filter (·.branch == name)).foldl (fun c g => enter g c) (f name) := by
  unfold enterGroups
  induction groups generalizing f with
  | nil => rfl
  | cons g rest ih =>
    rw [List.foldl_cons, enterGroup_eq enter hnodup, ih]
    refine List.map_congr_left fun name _ => ?_
    rw [List.filter_cons]
    split
    · rfl
    · rfl

variable {enter} {groups : List GroupCount}

/-- A number that is taken from the groups of one column is that of the group of the branch. -/
theorem entered_eq {get : BranchCounts → Nat} {column : Text}
    (hget : ∀ g c, get (enter g c) = if g.column = column then g.count else get c)
    (hnodup : (groups.map (·.key)).Nodup) (c : BranchCounts) :
    get ((groups.filter (·.branch == name)).foldl (fun c g => enter g c) c) =
      (counted? groups name column).getD (get c) := by
  induction groups generalizing c with
  | nil => rfl
  | cons g rest ih =>
    obtain ⟨hnew, hrest⟩ := List.nodup_cons.mp hnodup
    rw [counted?_cons, List.filter_cons]
    by_cases hkey : g.key = (name, column)
    · obtain ⟨rfl, rfl⟩ := Prod.mk.inj hkey
      rw [if_pos (beq_self_eq_true _), List.foldl_cons, ih hrest, hget, if_pos rfl, if_pos hkey,
        counted?_eq_none hnew]
      rfl
    · rw [if_neg hkey]
      split
      · next hname =>
        have hcolumn : g.column ≠ column := fun heq =>
          hkey (Prod.ext (beq_iff_eq.mp hname) heq)
        rw [List.foldl_cons, ih hrest, hget, if_neg hcolumn]
      · exact ih hrest c

/-- What no group says stays as it is. -/
theorem entered_same {α : Type} (get : BranchCounts → α)
    (hget : ∀ g c, get (enter g c) = get c) (groups : List GroupCount) (c : BranchCounts) :
    get (groups.foldl (fun c g => enter g c) c) = get c := by
  induction groups generalizing c with
  | nil => rfl
  | cons g rest ih => rw [List.foldl_cons, ih, hget]

end

/-! ## What a group says -/

namespace GroupCount

variable (g : GroupCount) (c : BranchCounts)

theorem enterItems_pcs :
    (g.enterItems c).pcs = if g.column = ItemKind.pc.tag then g.count else c.pcs := by
  simp only [enterItems, beq_iff_eq]
  split
  · rfl
  · split
    · rfl
    · rfl

theorem enterItems_printers :
    (g.enterItems c).printers = if g.column = ItemKind.printer.tag then g.count else c.printers := by
  have hkinds : ItemKind.pc.tag ≠ ItemKind.printer.tag := by decide
  simp only [enterItems, beq_iff_eq]
  split
  · next hpc => rw [hpc, if_neg hkinds]
  · split
    · rfl
    · rfl

@[simp] theorem enterItems_branch : (g.enterItems c).branch = c.branch := by
  unfold enterItems
  split
  · rfl
  · split
    · rfl
    · rfl

@[simp] theorem enterItems_consumables : (g.enterItems c).consumables = c.consumables := by
  unfold enterItems
  split
  · rfl
  · split
    · rfl
    · rfl

theorem enterStock_consumables :
    (g.enterStock c).consumables = if g.column = inStockState then g.count else c.consumables := by
  simp only [enterStock, beq_iff_eq]
  split
  · rfl
  · rfl

/-- The number of consumables apart, nothing is entered from the stock. -/
theorem enterStock_rest : (g.enterStock c).branch = c.branch ∧ (g.enterStock c).pcs = c.pcs ∧
    (g.enterStock c).printers = c.printers := by
  unfold enterStock
  split
  · exact ⟨rfl, rfl, rfl⟩
  · exact ⟨rfl, rfl, rfl⟩

end GroupCount

namespace Store

/-- Counted in groups, every branch has the numbers it has by itself. -/
theorem countsOfAll_eq (s : Store) {names : List Text} (hnodup : names.Nodup) :
    s.countsOfAll names = names.map s.countsOf := by
  rw [countsOfAll, enterGroups_eq _ hnodup, enterGroups_eq _ hnodup]
  refine List.map_congr_left fun name _ => ?_
  have hitems := groupCounts_nodup Item.branch Item.kind s.items
  have hstock := groupCounts_nodup ConsumableRow.branch ConsumableRow.state s.consumables
  generalize hafter : ((groupCounts Item.branch Item.kind s.items).filter (·.branch == name)).foldl
    (fun c g => g.enterItems c) { branch := name } = after
  have hbranch : after.branch = name := by
    rw [← hafter, entered_same BranchCounts.branch GroupCount.enterItems_branch]
  have hpcs : after.pcs = (s.countsOf name).pcs := by
    rw [← hafter, entered_eq GroupCount.enterItems_pcs hitems]
    exact counted?_groupCounts _ _ _
  have hprinters : after.printers = (s.countsOf name).printers := by
    rw [← hafter, entered_eq GroupCount.enterItems_printers hitems]
    exact counted?_groupCounts _ _ _
  have hempty : after.consumables = 0 := by
    rw [← hafter, entered_same BranchCounts.consumables GroupCount.enterItems_consumables]
  generalize hfull : ((groupCounts ConsumableRow.branch ConsumableRow.state s.consumables).filter
    (·.branch == name)).foldl (fun c g => g.enterStock c) after = full
  have hconsumables : full.consumables = (s.countsOf name).consumables := by
    rw [← hfull, entered_eq GroupCount.enterStock_consumables hstock, hempty]
    exact counted?_groupCounts _ _ _
  have hrest : full.branch = after.branch ∧ full.pcs = after.pcs ∧ full.printers = after.printers := by
    rw [← hfull]
    exact ⟨entered_same BranchCounts.branch (fun g c => (g.enterStock_rest c).1) _ _,
      entered_same BranchCounts.pcs (fun g c => (g.enterStock_rest c).2.1) _ _,
      entered_same BranchCounts.printers (fun g c => (g.enterStock_rest c).2.2) _ _⟩
  obtain ⟨hsame, hsamePcs, hsamePrinters⟩ := hrest
  calc full = ⟨full.branch, full.pcs, full.printers, full.consumables⟩ := rfl
    _ = ⟨name, (s.countsOf name).pcs, (s.countsOf name).printers,
          (s.countsOf name).consumables⟩ := by
      rw [hsame, hbranch, hsamePcs, hpcs, hsamePrinters, hprinters, hconsumables]
    _ = s.countsOf name := rfl

end Store

/-! ## All branches together -/

theorem sum_map_ite_eq_countP {α : Type} (cond : α → Bool) (xs : List α) :
    (xs.map fun x => if cond x = true then 1 else 0).sum = xs.countP cond := by
  induction xs with
  | nil => rfl
  | cons x rest ih => rw [List.map_cons, List.sum_cons, ih, List.countP_cons, Nat.add_comm]

/-- Rows that are all in some branch are as many as in all branches together. -/
theorem sum_countP {ρ : Type} (branchOf : ρ → Text) {names : List Text} (hnodup : names.Nodup)
    (cond : ρ → Bool) {rows : List ρ} (hrows : ∀ r ∈ rows, branchOf r ∈ names) :
    (names.map fun name => rows.countP fun r => branchOf r == name && cond r).sum =
      rows.countP cond := by
  induction rows with
  | nil => simp
  | cons r rest ih =>
    obtain ⟨hr, hrest⟩ := List.forall_mem_cons.mp hrows
    -- the row is counted in one branch
    have hone : (names.map fun name => if (branchOf r == name && cond r) = true then 1 else 0).sum =
        if cond r = true then 1 else 0 := by
      rw [sum_map_ite_eq_countP]
      cases cond r with
      | false => simp
      | true =>
        simp only [Bool.and_true, if_true]
        rw [← List.count_eq_one_of_mem hnodup hr, List.count]
        exact List.countP_congr fun name _ => by rw [beq_iff_eq, beq_iff_eq, eq_comm]
    simp only [List.countP_cons, List.sum_map_add, ih hrest, hone]

/-! ## Stores that are sound -/

namespace Store.Sound

variable {s : Store} (hs : s.Sound)
include hs

theorem branchCounts_eq (branch : Text) : s.branchCounts branch = .ok (s.countsOf branch) := by
  obtain ⟨c, hc⟩ := (hs.branchCounts branch).succeeds
  obtain ⟨_, -, h⟩ := bind_eq_ok.mp hc
  rw [hc, ← pure_eq_ok.mp h]

/-- The numbers of all branches are those that each of them has by itself. -/
theorem overview_eq (hnodup : (s.activeBranches.map (·.name)).Nodup) :
    ∃ o, s.overview = .ok o ∧ o.pcs = s.items.countP (·.kind == ItemKind.pc.tag) ∧
      o.perBranch = (s.activeBranches.map (·.name)).map s.countsOf := by
  obtain ⟨o, ho⟩ := hs.overview.succeeds
  refine ⟨o, ho, ?_⟩
  obtain ⟨_, -, h⟩ := bind_eq_ok.mp ho
  obtain ⟨branches, hbranches, h⟩ := bind_eq_ok.mp h
  obtain ⟨_, -, h⟩ := bind_eq_ok.mp h
  obtain ⟨_, -, h⟩ := bind_eq_ok.mp h
  obtain ⟨_, -, hlist⟩ := bind_eq_ok.mp hbranches
  obtain ⟨_, -, hlist⟩ := bind_eq_ok.mp hlist
  have hnames : branches.map (·.name) = s.activeBranches.map (·.name) := by
    rw [← pure_eq_ok.mp hlist, List.map_map]
    rfl
  rw [← pure_eq_ok.mp h, hnames]
  exact ⟨rfl, s.countsOfAll_eq hnodup⟩

/-- A listing of items is as long as there are items that it is for. -/
theorem itemList_length (f : ItemFilter) :
    ∃ rows, s.itemList f = .ok rows ∧ rows.length = s.items.countP f.keeps := by
  obtain ⟨rows, hrows⟩ := (hs.itemList f).succeeds
  refine ⟨rows, hrows, ?_⟩
  obtain ⟨_, -, h⟩ := bind_eq_ok.mp hrows
  obtain ⟨_, -, h⟩ := bind_eq_ok.mp h
  rw [← pure_eq_ok.mp h, itemsKept, (sortedBy_perm _ _).length_eq, List.countP_eq_length_filter]

/-- So is a listing of consumables, unless it is a search. -/
theorem consumableList_length (f : ConsumableFilter) (hsearch : f.wanted = []) :
    ∃ rows, s.consumableList f = .ok rows ∧ rows.length = s.consumables.countP f.keeps := by
  have hshort : ¬ConsumableFilter.maxPattern < f.patternLength := by
    rw [ConsumableFilter.patternLength, hsearch]
    decide
  obtain ⟨rows, hrows⟩ := FailsOnly.succeeds fun e he => hshort (hs.consumableList f e he)
  refine ⟨rows, hrows, ?_⟩
  obtain ⟨_, -, h⟩ := bind_eq_ok.mp hrows
  rw [hsearch] at h
  have hloaded := congrArg List.length (mapM_eq_ok.mp h)
  rw [List.length_map, List.length_map] at hloaded
  rw [← hloaded, consumablesKept, (sortedBy_perm _ _).length_eq, List.countP_eq_length_filter]

end Store.Sound
end Stockroom

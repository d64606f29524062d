import Stockroom.Store.Branches

/-!
The numbers on the dashboards. One branch is counted by itself. For all branches the rows are counted
in groups, and each group is entered at the place of its branch in the list of names.

Main definitions:
* `Store.branchCounts`: the numbers of one branch;
* `GroupCount`, `groupCounts`: rows counted by branch and a second column;
* `placeOf?`, `enterGroup`, `enterGroups`: groups carried over to the list of branches;
* `Store.overview`: the numbers of all branches.
-/
namespace Stockroom
set_option autoImplicit false

/-! ## Groups -/

/-- How many rows have a branch and a second column in common. -/
structure GroupCount where
  branch : Text
  column : Text
  count : Nat
  deriving DecidableEq, Repr

/-- Counts a row in its group; the first row of a group starts it. -/
def GroupCount.add (branch column : Text) : List GroupCount → List GroupCount
  | [] => [⟨branch, column, 1⟩]
  | g :: rest =>
    if g.branch == branch && g.column == column then { g with count := g.count + 1 } :: rest
    else g :: add branch column rest

/-- The rows of a table counted by branch and a second column. -/
def groupCounts {ρ : Type} (branch column : ρ → Text) (rows : List ρ) : List GroupCount :=
  rows.foldl (fun groups r => GroupCount.add (branch r) (column r) groups) []

/-- The place of a name; of two equal names the later one counts. -/
def placeOf? (names : List Text) (name : Text) : Option Nat := names.zipIdx.reverse.lookup name

/-- Enters a group at the place of its branch. A group of no branch that is named is left out. -/
def enterGroup (names : List Text) (enter : GroupCount → BranchCounts → BranchCounts)
    (numbers : List BranchCounts) (g : GroupCount) : List BranchCounts :=
  match placeOf? names g.branch with
  | some i => numbers.modify i (enter g)
  | none => numbers

/-- Enters every group at the place of its branch. -/
def enterGroups (names : List Text) (enter : GroupCount → BranchCounts → BranchCounts)
    (groups : List GroupCount) (numbers : List BranchCounts) : List BranchCounts :=
  groups.foldl (enterGroup names enter) numbers

namespace GroupCount

/-- Enters the items of a branch and a kind. -/
def enterItems (g : GroupCount) (c : BranchCounts) : BranchCounts :=
  if g.column == ItemKind.pc.tag then { c with pcs := g.count }
  else if g.column == ItemKind.printer.tag then { c with printers := g.count }
  else c

/-- Enters the consumables of a branch and a state; only those in stock count. -/
def enterStock (g : GroupCount) (c : BranchCounts) : BranchCounts :=
  if g.column == inStockState then { c with consumables := g.count } else c

end GroupCount

namespace Store

/-! ## One branch -/

/-- The numbers of one branch. -/
def countsOf (s : Store) (branch : Text) : BranchCounts :=
  { branch
    pcs := s.items.countP fun r => r.branch == branch && r.kind == ItemKind.pc.tag
    printers := s.items.countP fun r => r.branch == branch && r.kind == ItemKind.printer.tag
    consumables := s.consumables.countP fun r => r.branch == branch && r.state == inStockState }

def branchCounts (s : Store) (branch : Text) : Except StoreError BranchCounts := do
  s.readable [.items, .consumables] ("counting branch " ++ branch)
  return s.countsOf branch

/-! ## All branches -/

/-- The numbers of the branches with the given names. -/
def countsOfAll (s : Store) (names : List Text) : List BranchCounts :=
  let numbers := names.map fun branch => { branch }
  let numbers := enterGroups names GroupCount.enterItems (groupCounts Item.branch Item.kind s.items) numbers
  enterGroups names GroupCount.enterStock
    (groupCounts ConsumableRow.branch ConsumableRow.state s.consumables) numbers

/-- The numbers of all active branches. -/
def overview (s : Store) : Except StoreError Overview := do
  s.readable [.accounts, .branches, .items, .requests, .deliveries] "counting overview"
  let branches ← s.branchList
  s.readable [.items] "counting per branch"
  s.readable [.consumables] "counting per branch"
  return {
    users := s.accounts.countP (·.isActive)
    branches := s.branches.countP (·.isActive)
    pcs := s.items.countP (·.kind == ItemKind.pc.tag)
    requests := s.requests.length
    deliveries := s.deliveries.length
    perBranch := s.countsOfAll (branches.map (·.name)) }

end Store
end Stockroom

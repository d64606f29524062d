import Stockroom.Proofs.Api.Renaming
import Stockroom.Proofs.Intake.Legible
import Stockroom.Proofs.Json.Texts
import Stockroom.Proofs.Store.Dashboard

/-!
The dashboards after a run of requests. Every branch that exists is shown once, under a name of its
own, and all inventory is in one of them. So it does not matter whether the numbers are counted for
one branch, for all branches at once, or by listing what there is.

Main definitions and statements:
* `Store.WellNamed`, `handle_wellNamed`: the names of the active branches are distinct, and none is
  empty;
* `Store.WellNamed.increasing`, `Store.WellNamed.mem_names`: the order in which they are listed;
* `handleAll_counts`: the numbers of all branches, of each branch, and the lengths of the listings.
-/
namespace Stockroom
set_option autoImplicit false

/-! ## The names of branches -/

namespace Store

/-- The names of the active branches are distinct, and texts that are not empty. -/
structure WellNamed (s : Store) : Prop where
  distinct : s.branches.Pairwise fun b c => b.isActive = true → c.isActive = true → b.name ≠ c.name
  named : ∀ b ∈ s.branches, b.isActive = true → b.name ≠ [] ∧ b.name.wellFormed = true

theorem mem_activeBranches {s : Store} {b : BranchRow} :
    b ∈ s.activeBranches ↔ b ∈ s.branches ∧ b.isActive = true := by
  rw [activeBranches, (sortedBy_perm _ _).mem_iff, List.mem_filter]

namespace WellNamed

variable {s s' : Store}

theorem mono (h : s.WellNamed) (hbranches : s'.branches = s.branches) : s'.WellNamed where
  distinct := hbranches ▸ h.distinct
  named := hbranches ▸ h.named

theorem add {row : BranchRow} (h : s.WellNamed) (hid : row.id = nextId (s.branches.map (·.id)))
    (hname : row.name ≠ []) (hformed : row.name.wellFormed = true)
    (hfree : s.branchNameTaken row.name row.id = false) :
    WellNamed { s with branches := s.branches ++ [row] } where
  distinct := branches_add h.distinct hid hfree
  named := List.forall_mem_append.mpr
    ⟨h.named, List.forall_mem_singleton.mpr fun _ => ⟨hname, hformed⟩⟩

/-- What is done to some branches leaves the names apart that stay, or stay active. -/
theorem mapBranches {wanted : BranchRow → Bool} {change : BranchRow → BranchRow} (h : s.WellNamed)
    (hname : ∀ b, (change b).name = b.name)
    (hactive : ∀ b, (change b).isActive = true → b.isActive = true) :
    (s.mapBranches wanted change).WellNamed where
  distinct := ActiveApart.map_if h.distinct hname hactive
  named := by
    refine forall_mem_map_if h.named fun b hb _ hchanged => ?_
    rw [hname]
    exact h.named b hb (hactive b hchanged)

theorem rename {id : Int} {b : BranchRow} {name location : Text} (h : s.WellNamed) (hs : s.Keyed)
    (hname : name ≠ []) (hformed : name.wellFormed = true)
    (hfree : s.branchNameTaken name id = false) :
    (s.withBranch id b.name name location).WellNamed where
  distinct := branches_rename h.distinct hs hfree location
  named := forall_mem_map_if h.named fun _ _ _ _ => ⟨hname, hformed⟩

/-! ## The list of branches -/

variable (h : s.WellNamed)
include h

/-- The branches are listed with strictly increasing names. -/
theorem increasing : s.activeBranches.Pairwise fun b c => b.name.bytes < c.name.bytes := by
  have := Text.transCmp_column BranchRow.name
  have hsorted : s.activeBranches.Pairwise fun b c => (b.name.compare c.name).isLE = true :=
    sortedBy_pairwise _
  have hdistinct : s.activeBranches.Pairwise fun b c => b.name ≠ c.name := by
    refine ((sortedBy_perm _ _).pairwise_iff Ne.symm).mpr (List.pairwise_filter.mpr ?_)
    exact h.distinct.imp fun hbc hb hc => hbc hb hc
  refine (hsorted.and hdistinct).imp_of_mem fun {b c} hb hc hbc => ?_
  obtain ⟨hb, hbactive⟩ := mem_activeBranches.mp hb
  obtain ⟨hc, hcactive⟩ := mem_activeBranches.mp hc
  by_contra hnot
  have hsame := List.le_antisymm (Text.isLE_compare.mp hbc.1) (List.not_lt.mp hnot)
  exact hbc.2 ((Text.bytes_inj (h.named b hb hbactive).2 (h.named c hc hcactive).2).mp hsame)

theorem names_nodup : (s.activeBranches.map (·.name)).Nodup := by
  refine List.pairwise_map.mpr (h.increasing.imp fun {b c} hbc heq => ?_)
  rw [heq] at hbc
  exact List.lt_irrefl _ hbc

end WellNamed

theorem mem_names {s : Store} {name : Text} :
    name ∈ s.activeBranches.map (·.name) ↔ s.HasBranch name := by
  rw [List.mem_map]
  constructor
  · rintro ⟨b, hb, rfl⟩
    exact ⟨b, (mem_activeBranches.mp hb).1, (mem_activeBranches.mp hb).2, rfl⟩
  · rintro ⟨b, hb, hactive, rfl⟩
    exact ⟨b, mem_activeBranches.mpr ⟨hb, hactive⟩, rfl⟩

end Store

namespace Api

section
variable {ctx : Context} {claims : Claims} {s s' : Store} {req : Request} {endpoint : Endpoint}
  {segment : Text} {response : Response}

theorem sentBranch_wellFormed {sent : BranchForm} (h : sentBranch req = .ok sent) :
    sent.name.wellFormed = true := by
  obtain ⟨form, hform, h⟩ := bind_eq_ok.mp h
  have hread : form.name.wellFormed = true := by
    unfold sentRecord at hform
    split at hform
    · next r hdecoded =>
      cases hform
      let P (r : BranchForm) : Prop := r.name.wellFormed = true
      refine Json.decodeFirst_keeps (P := P) ?_ rfl hdecoded
      intro field hfield r source v r' hv hr hdone
      simp only [BranchForm.wireFields, List.mem_cons, List.not_mem_nil, or_false] at hfield
      obtain rfl | rfl := hfield
      · refine Json.textField_keeps (P := P) ?_ hv hr hdone
        exact fun r t ht _ => ht
      · refine Json.textField_keeps (P := P) ?_ hv hr hdone
        exact fun r t _ hr => hr
    · cases hform
  dsimp only at h
  split at h
  · cases h
  · cases h
    exact Text.trim_wellFormed hread

theorem createBranch_wellNamed (hs : s.WellNamed)
    (h : createBranch ctx s req = .ok (response, s')) : s'.WellNamed := by
  obtain ⟨sent, hsent, h⟩ := bind_eq_ok.mp h
  obtain ⟨⟨branch, after⟩, hcreate, h⟩ := bind_eq_ok.mp h
  cases h
  obtain ⟨hfree, rfl⟩ := Store.createBranch_effect (orRefuse_eq_ok hcreate)
  exact hs.add rfl (sentBranch_named hsent) (sentBranch_wellFormed hsent) hfree

theorem updateBranch_wellNamed (hkeyed : s.Keyed) (hs : s.WellNamed)
    (h : updateBranch s segment req = .ok (response, s')) : s'.WellNamed := by
  obtain ⟨id, b, sent, -, hb, hsent, hfree, rfl⟩ := updateBranch_eq_ok h
  exact hs.rename hkeyed (sentBranch_named hsent) (sentBranch_wellFormed hsent) hfree

theorem Act.wellNamed (act : Act claims s endpoint s') (hs : s.WellNamed)
    (hcreate : endpoint ≠ .createBranch) (hrename : endpoint ≠ .updateBranch) : s'.WellNamed := by
  cases act with
  | createBranch => exact absurd rfl hcreate
  | updateBranch => exact absurd rfl hrename
  | deleteBranch => exact hs.mapBranches (fun _ => rfl) fun _ hgone => by cases hgone
  | uploadPhoto => exact hs.mapBranches (fun _ => rfl) fun _ hactive => hactive
  -- no branch is touched
  | _ => exact hs.mono rfl

theorem handle_wellNamed (hkeyed : s.Keyed) (hs : s.WellNamed) :
    (handle ctx s req).2.WellNamed := by
  obtain hsame | ⟨claims, endpoint, segment, response, hserve⟩ := handle_serves ctx s req
  · rw [hsame]
    exact hs
  · by_cases hcreate : endpoint = .createBranch
    · subst hcreate
      exact createBranch_wellNamed hs hserve
    by_cases hrename : endpoint = .updateBranch
    · subst hrename
      exact updateBranch_wellNamed hkeyed hs hserve
    · exact (serve_act hserve).wellNamed hs hcreate hrename

theorem handleAll_wellNamed (s : Store) (run : List (Context × Request)) (hkeyed : s.Keyed)
    (hs : s.WellNamed) : (handleAll s run).WellNamed :=
  (handleAll_invariant (P := fun s => s.Keyed ∧ s.WellNamed)
    (fun ctx req _ h => ⟨handle_keyed ctx req h.1, handle_wellNamed h.1 h.2⟩) s run
    ⟨hkeyed, hs⟩).2

end

end Api

/-! ## The numbers -/

namespace Store

/-- The numbers of a branch are the lengths of its listings. -/
def Listed (s : Store) (c : BranchCounts) : Prop :=
  ∃ pcs printers stock,
    s.itemList { branch := c.branch, kind := ItemKind.pc.tag } = .ok pcs ∧ c.pcs = pcs.length ∧
    s.itemList { branch := c.branch, kind := ItemKind.printer.tag } = .ok printers ∧
    c.printers = printers.length ∧
    s.consumableList { branch := c.branch, state := inStockState } = .ok stock ∧
    c.consumables = stock.length

/-- So they are for every name but the empty one, which restricts no listing. -/
theorem Sound.listed {s : Store} (hs : s.Sound) {branch : Text} (hbranch : branch ≠ []) :
    s.Listed (s.countsOf branch) := by
  have hnamed : branch.isEmpty = false := by simpa using hbranch
  have hkeeps (kind : ItemKind) (r : Item) :
      ItemFilter.keeps { branch, kind := kind.tag } r = (r.branch == branch && r.kind == kind.tag) := by
    have hkind : kind.tag.isEmpty = false := by cases kind <;> decide
    simp only [ItemFilter.keeps, hnamed, hkind, Bool.false_or]
  have hstock (r : ConsumableRow) : ConsumableFilter.keeps { branch, state := inStockState } r =
      (r.branch == branch && r.state == inStockState) := by
    have hstate : inStockState.isEmpty = false := by decide
    have hsearch : (ConsumableFilter.wanted { branch, state := inStockState }).isEmpty = true := rfl
    simp only [ConsumableFilter.keeps, ConsumableFilter.inPlace, hnamed, hstate, hsearch,
      Bool.false_or, Bool.true_or, Bool.and_true]
  obtain ⟨pcs, hpcs, hpcsLength⟩ := hs.itemList_length { branch, kind := ItemKind.pc.tag }
  obtain ⟨printers, hprinters, hprintersLength⟩ :=
    hs.itemList_length { branch, kind := ItemKind.printer.tag }
  obtain ⟨stock, hlisted, hstockLength⟩ :=
    hs.consumableList_length { branch, state := inStockState } rfl
  rw [List.countP_congr fun r _ => by rw [hkeeps]] at hpcsLength hprintersLength
  rw [List.countP_congr fun r _ => by rw [hstock]] at hstockLength
  exact ⟨pcs, printers, stock, hpcs, hpcsLength.symm, hprinters, hprintersLength.symm, hlisted,
    hstockLength.symm⟩

end Store

namespace Api

/-- After every run of requests on a store that had no inventory at first, and whose branches have
names of their own: all branches that exist are shown, with strictly increasing names, each with the
numbers it has by itself, which are the lengths of its listings; and there are as many workstations as
in all branches together. -/
theorem handleAll_counts (s : Store) (run : List (Context × Request)) (hs : s.Keyed)
    (hfaults : s.faults = {}) (hitems : s.items = []) (hconsumables : s.consumables = [])
    (hnames : s.WellNamed) :
    ∃ o, (handleAll s run).overview = .ok o ∧
      o.perBranch.Pairwise (fun c d => c.branch.bytes < d.branch.bytes) ∧
      o.perBranch.length = (handleAll s run).branches.countP (·.isActive) ∧
      (∀ name, name ∈ o.perBranch.map (·.branch) ↔ (handleAll s run).HasBranch name) ∧
      (∀ c ∈ o.perBranch, (handleAll s run).branchCounts c.branch = .ok c ∧
        (handleAll s run).Listed c) ∧
      o.pcs = (o.perBranch.map (·.pcs)).sum := by
  have hplaced := handleAll_placed s run hs hitems hconsumables
  have hnamed := handleAll_wellNamed s run hs hnames
  have hsound : (handleAll s run).Sound :=
    handleAll_invariant (fun ctx req s h => (handle_step ctx s req).change.keeps_sound h) s run
      ⟨hfaults, by simp [hconsumables]⟩
  generalize handleAll s run = s at hplaced hnamed hsound ⊢
  obtain ⟨o, ho, hpcs, hbranches⟩ := hsound.overview_eq hnamed.names_nodup
  refine ⟨o, ho, ?_, ?_, ?_, ?_, ?_⟩
  · rw [hbranches, List.map_map, List.pairwise_map]
    exact hnamed.increasing
  · rw [hbranches, List.length_map, List.length_map, Store.activeBranches,
      (sortedBy_perm _ _).length_eq, List.countP_eq_length_filter]
  · intro name
    rw [hbranches, List.map_map]
    have hname : BranchCounts.branch ∘ s.countsOf = id := rfl
    rw [hname, List.map_id]
    exact Store.mem_names
  · rw [hbranches]
    intro c hc
    obtain ⟨name, hname, rfl⟩ := List.mem_map.mp hc
    obtain ⟨b, hb, hactive, rfl⟩ := Store.mem_names.mp hname
    exact ⟨hsound.branchCounts_eq b.name, hsound.listed (hnamed.named b hb hactive).1⟩
  · rw [hpcs, hbranches, List.map_map, ← sum_countP Item.branch hnamed.names_nodup]
    · rfl
    · exact fun r hr => Store.mem_names.mpr (hplaced.items r hr)

/-- The branch with an item, after a run. -/
theorem additionByB_counted :
    branchOfManager.Keyed ∧ branchOfManager.faults = {} ∧ branchOfManager.items = [] ∧
      branchOfManager.consumables = [] ∧ branchOfManager.WellNamed ∧
      ∃ o, (handleAll branchOfManager [(earlyContext, additionByB)]).overview = .ok o ∧
        o.perBranch = [{ branch := "B", pcs := 1 }] ∧ o.pcs = 1 := by
  have hnames : branchOfManager.WellNamed := ⟨by decide, by decide⟩
  obtain ⟨o, ho, -, hlength, hbranches, hcounts, hpcs⟩ :=
    handleAll_counts branchOfManager [(earlyContext, additionByB)] branchOfManager_keyed rfl rfl rfl
      hnames
  refine ⟨branchOfManager_keyed, rfl, rfl, rfl, hnames, o, ho, ?_⟩
  have hadded : handleAll branchOfManager [(earlyContext, additionByB)] =
      { branchOfManager with items := [itemInB] } := by
    rw [handleAll, additionByB_adds, handleAll]
  rw [hadded] at hlength hbranches hcounts
  obtain ⟨c, hc⟩ := List.length_eq_one_iff.mp hlength
  rw [hc] at hbranches hcounts hpcs
  have hname : c.branch = "B" := by
    have hB := (hbranches "B").mpr (by decide)
    simpa [eq_comm] using hB
  have hsame := (hcounts c List.mem_cons_self).1
  rw [hname] at hsame
  have hnumbers : c = { branch := "B", pcs := 1 } := Except.ok.inj (hsame.symm.trans rfl)
  subst hnumbers
  exact ⟨hc, hpcs⟩

end Api
end Stockroom

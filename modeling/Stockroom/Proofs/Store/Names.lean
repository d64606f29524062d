import Mathlib.Data.List.Nodup
import Stockroom.Proofs.Store.Keys
import Stockroom.Proofs.Store.Soundness

/-!
The names of accounts and branches. A name is free again once the row that had it was deleted, so that
many rows may have had it, but at any time at most one that is active. A username stands for the
active account of that name, and for the last of the deleted ones where none is active.

Main definitions and statements:
* `ActiveApart`: no two active rows of a table share a name;
* `Store.NamedApart`, `StoreCall.runAll_namedApart`: so it is after every history of calls;
* `Store.StandsFor`, `Store.accountNamed?_standsFor`: which account is found under a username.
-/
namespace Stockroom
set_option autoImplicit false

/-! ## Tables -/

section
variable {ρ : Type} {name : ρ → Text} {active : ρ → Bool} {rows : List ρ}

/-- No two active rows share a name. -/
def ActiveApart (name : ρ → Text) (active : ρ → Bool) (rows : List ρ) : Prop :=
  rows.Pairwise fun a b => active a = true → active b = true → name a ≠ name b

namespace ActiveApart

theorem nodup (h : ActiveApart name active rows) : ((rows.filter active).map name).Nodup :=
  List.pairwise_map.mpr (List.pairwise_filter.mpr h)

theorem eq_of_name (h : ActiveApart name active rows) {a b : ρ} (ha : a ∈ rows) (hb : b ∈ rows)
    (hactive : active a = true) (hactive' : active b = true) (hname : name a = name b) : a = b :=
  List.inj_on_of_nodup_map h.nodup (List.mem_filter.mpr ⟨ha, hactive⟩)
    (List.mem_filter.mpr ⟨hb, hactive'⟩) hname

theorem add (h : ActiveApart name active rows) {row : ρ}
    (hfree : ∀ a ∈ rows, active a = true → name a ≠ name row) :
    ActiveApart name active (rows ++ [row]) := by
  refine List.pairwise_append.mpr ⟨h, List.pairwise_singleton _ _, ?_⟩
  intro a ha b hb hactive _
  rw [List.mem_singleton.mp hb]
  exact hfree a ha hactive

/-- What is done to some rows leaves the names apart that stay, or stay active. -/
theorem map_if (h : ActiveApart name active rows) {wanted : ρ → Bool} {change : ρ → ρ}
    (hname : ∀ r, name (change r) = name r)
    (hactive : ∀ r, active (change r) = true → active r = true) :
    ActiveApart name active (rows.map fun r => if wanted r then change r else r) := by
  have hkept (r : ρ) : name (if wanted r then change r else r) = name r := by
    split
    · exact hname r
    · rfl
  have hstill (r : ρ) (hr : active (if wanted r then change r else r) = true) :
      active r = true := by
    split at hr
    · exact hactive r hr
    · exact hr
  refine List.pairwise_map.mpr (h.imp fun {a b} hab => ?_)
  rw [hkept, hkept]
  exact fun ha hb => hab (hstill a ha) (hstill b hb)

end ActiveApart
end

namespace Store

/-! ## The invariant -/

section
variable {s : Store} {name : Text} {id : Int}

theorem name_ne_of_free {c : BranchRow} (hfree : s.branchNameTaken name id = false)
    (hc : c ∈ s.branches) (hactive : c.isActive = true) (hother : c.id ≠ id) : c.name ≠ name := by
  have htaken := List.any_eq_false.mp hfree c hc
  simpa [hactive, hother] using htaken

theorem branches_add {row : BranchRow}
    (h : ActiveApart BranchRow.name BranchRow.isActive s.branches)
    (hid : row.id = nextId (s.branches.map (·.id)))
    (hfree : s.branchNameTaken row.name row.id = false) :
    ActiveApart BranchRow.name BranchRow.isActive (s.branches ++ [row]) := by
  refine h.add fun b hb hactive => name_ne_of_free hfree hb hactive fun heq => ?_
  exact nextId_fresh (s.branches.map (·.id)) (hid ▸ heq ▸ List.mem_map_of_mem hb)

theorem branches_rename (h : ActiveApart BranchRow.name BranchRow.isActive s.branches)
    (hs : s.Keyed) (hfree : s.branchNameTaken name id = false) (location : Text) :
    ActiveApart BranchRow.name BranchRow.isActive
      (s.branches.map fun b => if b.id == id then { b with name, location } else b) := by
  have hids : s.branches.Pairwise fun b c => b.id ≠ c.id :=
    List.pairwise_map.mp (hs.distinct .branches)
  have hboth : s.branches.Pairwise fun b c =>
      (b.isActive = true → c.isActive = true → b.name ≠ c.name) ∧ b.id ≠ c.id :=
    List.Pairwise.and h hids
  refine List.pairwise_map.mpr (hboth.imp_of_mem fun {b c} hb hc hbc => ?_)
  obtain ⟨hnames, hdiffer⟩ := hbc
  split
  · next hwanted =>
    -- the branch that is renamed comes first
    have hother : c.id ≠ id := fun heq => hdiffer ((beq_iff_eq.mp hwanted).trans heq.symm)
    rw [if_neg (by simpa using hother)]
    exact fun _ hactive => (name_ne_of_free hfree hc hactive hother).symm
  · next hother =>
    split
    · exact fun hactive _ => name_ne_of_free hfree hb hactive (by simpa using hother)
    · exact hnames

theorem username_ne_of_free {a : Account} (hfree : s.usernameTaken name = false)
    (ha : a ∈ s.accounts) (hactive : a.isActive = true) : a.username ≠ name := by
  have htaken := List.any_eq_false.mp hfree a ha
  simpa [hactive] using htaken

end

/-- No two active accounts share a username, and no two active branches a name. -/
structure NamedApart (s : Store) : Prop where
  accounts : ActiveApart Account.username Account.isActive s.accounts
  branches : ActiveApart BranchRow.name BranchRow.isActive s.branches

theorem namedApart_empty : NamedApart {} := ⟨.nil, .nil⟩

theorem Change.namedApart {s s' : Store} (change : s.Change s') (hs : s.Keyed)
    (h : s.NamedApart) : s'.NamedApart := by
  cases change with
  | addBranch row hid hactive hfree => exact ⟨h.accounts, branches_add h.branches hid hfree⟩
  | renameBranch id b name location hb hfree =>
    exact ⟨h.accounts.map_if (fun _ => rfl) fun _ hactive => hactive,
      branches_rename h.branches hs hfree location⟩
  | retireBranch id b time =>
    exact ⟨h.accounts, h.branches.map_if (fun _ => rfl) fun _ hactive => nomatch hactive⟩
  | setPhoto => exact ⟨h.accounts, h.branches.map_if (fun _ => rfl) fun _ hactive => hactive⟩
  | addAccount row hid hactive hrole hfree =>
    exact ⟨h.accounts.add fun a ha hactive => username_ne_of_free hfree ha hactive, h.branches⟩
  | setRole | setPassword =>
    exact ⟨h.accounts.map_if (fun _ => rfl) fun _ hactive => hactive, h.branches⟩
  | retireAccount id time =>
    exact ⟨h.accounts.map_if (fun _ => rfl) (fun _ hactive => nomatch hactive), h.branches⟩
  | _ => exact ⟨h.accounts, h.branches⟩

/-! ## Accounts by their username -/

theorem mem_of_latestBy? {ρ : Type} {idOf : ρ → Int} {rows : List ρ} {r : ρ}
    (h : latestBy? idOf rows = some r) : r ∈ rows := by
  induction rows generalizing r with
  | nil => cases h
  | cons first rest ih =>
    rw [latestBy?] at h
    split at h
    · next best hbest =>
      split at h
      · cases h
        exact List.mem_cons_of_mem _ (ih hbest)
      · cases h
        exact List.mem_cons_self
    · cases h
      exact List.mem_cons_self

theorem latestBy?_eq_none {ρ : Type} {idOf : ρ → Int} {rows : List ρ} :
    latestBy? idOf rows = none ↔ rows = [] := by
  cases rows with
  | nil => exact iff_of_true rfl rfl
  | cons first rest =>
    refine iff_of_false ?_ (List.cons_ne_nil _ _)
    rw [latestBy?]
    split
    · split <;> exact Option.some_ne_none _
    · exact Option.some_ne_none _

theorem le_latestBy? {ρ : Type} {idOf : ρ → Int} {rows : List ρ} {r : ρ}
    (h : latestBy? idOf rows = some r) : ∀ x ∈ rows, idOf x ≤ idOf r := by
  induction rows generalizing r with
  | nil => cases h
  | cons first rest ih =>
    rw [latestBy?] at h
    refine List.forall_mem_cons.mpr ?_
    split at h
    · next best hbest =>
      have hrest := ih hbest
      split at h
      · next hle =>
        cases h
        exact ⟨hle, hrest⟩
      · next hlt =>
        cases h
        exact ⟨Int.le_refl _, fun x hx => Int.le_trans (hrest x hx) (by omega)⟩
    · next hnone =>
      cases h
      rw [latestBy?_eq_none.mp hnone]
      exact ⟨Int.le_refl _, fun x hx => absurd hx List.not_mem_nil⟩

theorem mem_of_accountOf? {s : Store} {username : Text} {a : Account}
    (h : s.accountOf? username = some a) : a ∈ s.accounts ∧ a.username = username := by
  have hnamed : a ∈ s.accounts.filter (·.username == username) := by
    rw [accountOf?, Option.or_eq_some_iff] at h
    obtain hactive | ⟨-, hany⟩ := h
    · exact List.mem_of_mem_filter (mem_of_latestBy? hactive)
    · exact mem_of_latestBy? hany
  obtain ⟨hmem, hname⟩ := List.mem_filter.mp hnamed
  exact ⟨hmem, by simpa using hname⟩

theorem loadAccount_eq_ok {s : Store} {activity : Text} {row : Option Account} {a : Account}
    (h : s.loadAccount activity row = .ok (some a)) : row = some a := by
  cases row with
  | none => cases h
  | some r =>
    obtain ⟨_, -, h⟩ := bind_eq_ok.mp h
    rw [Option.some.inj (pure_eq_ok.mp h)]

/-- What is found under a username: the active account of that name; where all that have the name are
deleted, the one of them with the greatest id; nothing where the name was never given. -/
inductive StandsFor (s : Store) (username : Text) : Option Account → Prop where
  | active {a : Account} (ha : a ∈ s.accounts) (hname : a.username = username)
      (hactive : a.isActive = true) : StandsFor s username (some a)
  | deleted {a : Account} (ha : a ∈ s.accounts) (hname : a.username = username)
      (hnone : ∀ b ∈ s.accounts, b.username = username → b.isActive = false)
      (hlast : ∀ b ∈ s.accounts, b.username = username → b.id ≤ a.id) : StandsFor s username (some a)
  | nobody (hnone : ∀ b ∈ s.accounts, b.username ≠ username) : StandsFor s username none

theorem accountOf?_standsFor (s : Store) (username : Text) :
    s.StandsFor username (s.accountOf? username) := by
  have hnamed {b : Account} (hb : b ∈ s.accounts) (hname : b.username = username) :
      b ∈ s.accounts.filter (·.username == username) :=
    List.mem_filter.mpr ⟨hb, by simpa using hname⟩
  cases hfound : s.accountOf? username with
  | none =>
    rw [accountOf?, Option.or_eq_none_iff, latestBy?_eq_none, latestBy?_eq_none] at hfound
    refine .nobody fun b hb hname => ?_
    have hmem := hnamed hb hname
    rw [hfound.2] at hmem
    cases hmem
  | some a =>
    obtain ⟨ha, hname⟩ := mem_of_accountOf? hfound
    rw [accountOf?, Option.or_eq_some_iff, latestBy?_eq_none] at hfound
    obtain hactive | ⟨hnone, hlast⟩ := hfound
    · exact .active ha hname (List.mem_filter.mp (mem_of_latestBy? hactive)).2
    · refine .deleted ha hname ?_ fun b hb hname => le_latestBy? hlast b (hnamed hb hname)
      intro b hb hname
      simpa using List.filter_eq_nil_iff.mp hnone b (hnamed hb hname)

/-- A username stands for one account at most. -/
theorem StandsFor.unique {s : Store} {username : Text} {x y : Option Account} (hs : s.Keyed)
    (hnames : s.NamedApart) (h : s.StandsFor username x) (h' : s.StandsFor username y) : x = y := by
  cases h with
  | active ha hname hactive =>
    cases h' with
    | active hb hname' hactive' =>
      exact congrArg some
        (hnames.accounts.eq_of_name ha hb hactive hactive' (hname.trans hname'.symm))
    | deleted hb hname' hnone =>
      rw [hnone _ ha hname] at hactive
      cases hactive
    | nobody hnone => exact absurd hname (hnone _ ha)
  | deleted ha hname hnone hlast =>
    cases h' with
    | active hb hname' hactive' =>
      rw [hnone _ hb hname'] at hactive'
      cases hactive'
    | deleted hb hname' hnone' hlast' =>
      have hid := Int.le_antisymm (hlast' _ ha hname) (hlast _ hb hname')
      exact congrArg some (List.inj_on_of_nodup_map (hs.distinct .accounts) ha hb hid)
    | nobody hnone' => exact absurd hname (hnone' _ ha)
  | nobody hnone =>
    cases h' with
    | active hb hname' => exact absurd hname' (hnone _ hb)
    | deleted hb hname' => exact absurd hname' (hnone _ hb)
    | nobody => rfl

/-- In a sound store the look-up of a username succeeds, and finds what the username stands for. -/
theorem accountNamed?_standsFor {s : Store} (hsound : s.Sound) (hs : s.Keyed)
    (hnames : s.NamedApart) (username : Text) :
    ∃ found, s.accountNamed? username = .ok found ∧
      ∀ r, s.StandsFor username r ↔ r = found := by
  obtain ⟨found, hfound⟩ := (hsound.accountNamed? username).succeeds
  have hsame : found = s.accountOf? username := by
    obtain ⟨_, -, hload⟩ := bind_eq_ok.mp hfound
    cases hrow : s.accountOf? username with
    | none =>
      rw [hrow] at hload
      exact (Except.ok.inj hload).symm
    | some a =>
      rw [hrow] at hload
      obtain ⟨_, -, hload⟩ := bind_eq_ok.mp hload
      exact (pure_eq_ok.mp hload).symm
  have hstands := accountOf?_standsFor s username
  rw [← hsame] at hstands
  refine ⟨found, hfound, fun r => ⟨fun h => h.unique hs hnames hstands, ?_⟩⟩
  rintro rfl
  exact hstands

end Store

/-- After every history of calls the ids are distinct, and no two active rows share a name. -/
theorem StoreCall.runAll_namedApart (s : Store) (calls : List (Instant × StoreCall)) (hs : s.Keyed)
    (h : s.NamedApart) : (runAll s calls).Keyed ∧ (runAll s calls).NamedApart :=
  runAll_invariant (P := fun s => s.Keyed ∧ s.NamedApart)
    (fun _ _ change h => ⟨change.keyed h.1, change.namedApart h.1 h.2⟩) s calls ⟨hs, h⟩

end Stockroom

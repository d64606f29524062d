import Mathlib.Data.List.Forall2
import Stockroom.Proofs.Api.Run

/-!
Who may change what. Without a token nothing changes but that a request for a password may be left;
a manager changes the inventory and the photo of one branch and the own password; all else takes an
administrator.

Main definitions and statements:
* `Ordinary`: a change that takes no administrator;
* `WithinBranch`: a change that stays within a branch;
* `handle_authority`: which of them a request is, by what its token says.
-/
namespace Stockroom
set_option autoImplicit false

/-! ## Rows before and after -/

section
variable {ρ : Type}

theorem forall₂_map_if {R : ρ → ρ → Prop} (rows : List ρ) (wanted : ρ → Bool) (change : ρ → ρ)
    (hkeep : ∀ r, R r r) (hchange : ∀ r ∈ rows, wanted r = true → R r (change r)) :
    List.Forall₂ R rows (rows.map fun r => if wanted r then change r else r) := by
  rw [List.forall₂_map_right_iff, List.forall₂_same]
  intro r hr
  split
  · next hwanted => exact hchange r hr hwanted
  · exact hkeep r

variable (idOf : ρ → Int) (branchOf : ρ → Text) {branch : Text} {rows : List ρ}

/-- Among rows with distinct ids the branch of a row is that of its id. -/
theorem own_of_id (hnodup : (rows.map idOf).Nodup) {existing : ρ} (hfound : existing ∈ rows)
    (hown : branchOf existing = branch) :
    ∀ old ∈ rows, idOf old = idOf existing → branchOf old = branch := by
  intro old hold hid
  have heq : old = existing := List.inj_on_of_nodup_map hnodup hold hfound hid
  exact heq ▸ hown

theorem elsewhere_append (row : ρ) (hrow : branchOf row = branch) :
    (rows ++ [row]).filter (branchOf · != branch) = rows.filter (branchOf · != branch) := by
  have hdropped : (branchOf row != branch) = false := by simpa using hrow
  rw [List.filter_append, List.filter_cons_of_neg (by simp [hdropped]), List.filter_nil,
    List.append_nil]

theorem elsewhere_replace (row : ρ) (hrow : branchOf row = branch)
    (hold : ∀ old ∈ rows, idOf old = idOf row → branchOf old = branch) :
    (rows.map fun old => if idOf old == idOf row then row else old).filter (branchOf · != branch) =
      rows.filter (branchOf · != branch) := by
  induction rows with
  | nil => rfl
  | cons old rest ih =>
    obtain ⟨hfirst, hrest⟩ := List.forall_mem_cons.mp hold
    rw [List.map_cons, List.filter_cons, List.filter_cons, ih hrest]
    by_cases hid : idOf old = idOf row
    · simp [hid, hrow, hfirst hid]
    · simp [hid]

theorem elsewhere_remove (id : Int) (hold : ∀ old ∈ rows, idOf old = id → branchOf old = branch) :
    (rows.filter (idOf · != id)).filter (branchOf · != branch) =
      rows.filter (branchOf · != branch) := by
  rw [List.filter_filter]
  apply List.filter_congr
  intro old hmem
  by_cases hid : idOf old = id
  · simp [hold old hmem hid]
  · simp [hid]

/-- Where the rows of other branches are what they were, a row of the branch has not moved. -/
theorem stays_of_elsewhere {rows' : List ρ} (hnodup : (rows.map idOf).Nodup)
    (hsame : rows'.filter (branchOf · != branch) = rows.filter (branchOf · != branch))
    {old new : ρ} (hold : old ∈ rows) (hown : branchOf old = branch) (hnew : new ∈ rows')
    (hid : idOf new = idOf old) : branchOf new = branch := by
  by_contra hmoved
  have hoff : new ∈ rows'.filter (branchOf · != branch) :=
    List.mem_filter.mpr ⟨hnew, by simpa using hmoved⟩
  rw [hsame, List.mem_filter] at hoff
  exact hmoved (own_of_id idOf branchOf hnodup hold hown new hoff.1 hid)

end

namespace Store

def isDamaged (s : Store) (table : TableName) (id : Int) : Bool :=
  s.faults.unreadable.contains (table, id)

theorem isDamaged_forget (s : Store) (table other : TableName) (gone : Int → Bool) (id : Int)
    (h : other = table → gone id = false) :
    (s.forget table gone).isDamaged other id = s.isDamaged other id := by
  have hkeep : (!(other == table && gone id)) = true := by
    by_cases hsame : other = table
    · simp [h hsame]
    · simp [hsame]
  rw [Bool.eq_iff_iff, isDamaged, isDamaged, List.contains_iff_mem, List.contains_iff_mem, forget,
    List.mem_filter]
  simp only [hkeep, and_true]

theorem isDamaged_forget_row (s : Store) {table other : TableName} {row id : Int}
    (h : other = table → id ≠ row) :
    (s.forget table (· == row)).isDamaged other id = s.isDamaged other id := by
  apply isDamaged_forget
  intro hsame
  exact beq_false_of_ne (h hsame)

/-- A row of the branch has the id. -/
def Owns (s : Store) (branch : Text) : TableName → Int → Prop
  | .items, id => ∃ r ∈ s.items, r.id = id ∧ r.branch = branch
  | .consumables, id => ∃ r ∈ s.consumables, r.id = id ∧ r.branch = branch
  | _, _ => False

end Store

namespace Api

/-! ## Changes -/

/-- The account of the caller, with another password. -/
def OwnPassword (who : Option Claims) (old new : Account) : Prop :=
  ∃ claims hash, who = some claims ∧ old.id = claims.userId ∧ new = { old with passwordHash := hash }

/-- An active branch of the name, with another photo. -/
def OwnPhoto (branch : Text) (old new : BranchRow) : Prop :=
  old.isActive = true ∧ old.name = branch ∧ ∃ photo, new = { old with photo := some photo }

/-- A change that takes no administrator. Accounts, branches, deliveries and requests are what they
were, up to the password of the caller, photos, and requests that are added at the end. -/
structure Ordinary (who : Option Claims) (s s' : Store) : Prop where
  accounts : List.Forall₂ (fun old new => new = old ∨ OwnPassword who old new) s.accounts s'.accounts
  branches : s'.branches.map (fun b => { b with photo := none }) =
    s.branches.map fun b => { b with photo := none }
  deliveries : s'.deliveries = s.deliveries
  requests : s.requests <+: s'.requests
  outages : { s'.faults with unreadable := [] } = { s.faults with unreadable := [] }
  damage : ∀ table id, table.byBranch = false → s'.isDamaged table id = s.isDamaged table id

/-- An ordinary change that stays within the branch of the claims. -/
structure WithinBranch (claims : Claims) (s s' : Store) : Prop extends
    Ordinary (some claims) s s' where
  items : s'.items.filter (·.branch != claims.branch) = s.items.filter (·.branch != claims.branch)
  consumables : s'.consumables.filter (·.branch != claims.branch) =
    s.consumables.filter (·.branch != claims.branch)
  photos : List.Forall₂ (fun old new => new = old ∨ OwnPhoto claims.branch old new) s.branches
    s'.branches
  ownDamage : ∀ table id, ¬s.Owns claims.branch table id →
    s'.isDamaged table id = s.isDamaged table id

section
variable {who : Option Claims} {claims : Claims} {s s' : Store} {endpoint : Endpoint}

theorem Ordinary.refl (who : Option Claims) (s : Store) : Ordinary who s s where
  accounts := List.forall₂_same.mpr fun _ _ => .inl rfl
  branches := rfl
  deliveries := rfl
  requests := List.prefix_refl _
  outages := rfl
  damage := fun _ _ _ => rfl

theorem Ordinary.addRequest (who : Option Claims) (s : Store) (row : ResetRequest) :
    Ordinary who s { s with requests := s.requests ++ [row] } :=
  { Ordinary.refl who s with requests := List.prefix_append .. }

theorem Ordinary.forget {table : TableName} (gone : Int → Bool) (htable : table.byBranch = true)
    (h : Ordinary who s s') : Ordinary who s (s'.forget table gone) where
  accounts := h.accounts
  branches := h.branches
  deliveries := h.deliveries
  requests := h.requests
  outages := h.outages
  damage := by
    intro other id hother
    rw [Store.isDamaged_forget]
    · exact h.damage other id hother
    · intro hsame
      rw [hsame, htable] at hother
      cases hother

/-! ## Acts -/

/-- Whatever takes no administrator is an ordinary change. -/
theorem Act.ordinary (act : Act claims s endpoint s') (haccess : endpoint.access ≠ .admin) :
    Ordinary (some claims) s s' := by
  cases act with
  | same | logout | createItem | updateItem | createConsumable | updateConsumable =>
    exact { Ordinary.refl (some claims) s with }
  | leaveRequest row => exact .addRequest _ s row
  | changePassword hash =>
    refine { Ordinary.refl (some claims) s with accounts := ?_ }
    apply forall₂_map_if
    · exact fun _ => .inl rfl
    · intro r _ hwanted
      have hid : r.id = claims.userId := by
        simp only [Bool.and_eq_true, beq_iff_eq] at hwanted
        exact hwanted.1
      exact .inr ⟨claims, hash, rfl, hid, rfl⟩
  | uploadPhoto id b photo =>
    refine { Ordinary.refl (some claims) s with branches := ?_ }
    rw [Store.mapBranches, List.map_map]
    apply List.map_congr_left
    intro old _
    rw [Function.comp_apply]
    split
    · rfl
    · rfl
  | deleteItem | deleteConsumable =>
    exact Ordinary.forget _ rfl { Ordinary.refl (some claims) s with }
  | createAccount | updateAccount | resetPassword | deleteAccount | createBranch | updateBranch
  | deleteBranch | createDelivery | updateDelivery | deleteDelivery | deleteRequest
  | deleteAllRequests => exact absurd rfl haccess

/-- What anyone may do does not depend on who does it. -/
theorem Act.by_anyone (act : Act claims s endpoint s') (haccess : endpoint.access = .anyone)
    (other : Claims) : Act other s endpoint s' := by
  cases act with
  | same => exact .same _
  | leaveRequest row hid => exact .leaveRequest row hid
  | _ => cases haccess

/-- A manager who takes no more than a manager may stays within the branch. -/
theorem Act.withinBranch (act : Act claims s endpoint s') (hs : s.Keyed)
    (hrole : claims.role = Role.manager.tag) (haccess : endpoint.access ≠ .admin) :
    WithinBranch claims s s' := by
  have hordinary := act.ordinary haccess
  have hsame : List.Forall₂ (fun old new => new = old ∨ OwnPhoto claims.branch old new) s.branches
      s.branches := List.forall₂_same.mpr fun _ _ => .inl rfl
  cases act with
  | same | leaveRequest | changePassword | logout =>
    exact ⟨hordinary, rfl, rfl, hsame, fun _ _ _ => rfl⟩
  | uploadPhoto id b photo hb hreach =>
    refine ⟨hordinary, rfl, rfl, ?_, fun _ _ _ => rfl⟩
    apply forall₂_map_if
    · exact fun _ => .inl rfl
    · intro old hmem hwanted
      simp only [Bool.and_eq_true, beq_iff_eq] at hwanted
      -- the branch with the id is the one whose name was checked
      obtain ⟨hfound, hid, -⟩ := Store.activeBranch?_some hb
      have hold : old = b :=
        List.inj_on_of_nodup_map (hs.distinct .branches) hmem hfound (hwanted.1.trans hid.symm)
      have hname : old.name = claims.branch := hold ▸ mayAccess_manager hrole hreach
      exact .inr ⟨hwanted.2, hname, photo, rfl⟩
  | createItem row hid hvalid hplace =>
    have hrow := mayAccess_manager hrole hplace
    exact ⟨hordinary, elsewhere_append _ row hrow, rfl, hsame, fun _ _ _ => rfl⟩
  | createConsumable c row hrow hvalid hid hplace =>
    have hown := mayAccess_manager hrole hplace
    exact ⟨hordinary, rfl, elsewhere_append _ row hown, hsame, fun _ _ _ => rfl⟩
  | updateItem existing row hfound hid hkind hvalid hreach hplace =>
    have hold := own_of_id _ _ (hs.distinct .items) hfound (mayAccess_manager hrole hreach)
    rw [← hid] at hold
    have hitems := elsewhere_replace _ _ row (mayAccess_manager hrole hplace) hold
    exact ⟨hordinary, hitems, rfl, hsame, fun _ _ _ => rfl⟩
  | updateConsumable existing c row hfound hrow hvalid hid hreach hplace =>
    have hold := own_of_id _ _ (hs.distinct .consumables) hfound (mayAccess_manager hrole hreach)
    rw [← hid] at hold
    have hconsumables := elsewhere_replace _ _ row (mayAccess_manager hrole hplace) hold
    exact ⟨hordinary, rfl, hconsumables, hsame, fun _ _ _ => rfl⟩
  | deleteItem existing hfound hreach =>
    have hown := mayAccess_manager hrole hreach
    have hitems := elsewhere_remove _ _ existing.id
      (own_of_id _ _ (hs.distinct .items) hfound hown)
    refine ⟨hordinary, hitems, rfl, hsame, ?_⟩
    intro table id hother
    apply Store.isDamaged_forget_row
    rintro rfl rfl
    exact hother ⟨existing, hfound, rfl, hown⟩
  | deleteConsumable existing hfound hreach =>
    have hown := mayAccess_manager hrole hreach
    have hconsumables := elsewhere_remove _ _ existing.id
      (own_of_id _ _ (hs.distinct .consumables) hfound hown)
    refine ⟨hordinary, rfl, hconsumables, hsame, ?_⟩
    intro table id hother
    apply Store.isDamaged_forget_row
    rintro rfl rfl
    exact hother ⟨existing, hfound, rfl, hown⟩
  | createAccount | updateAccount | resetPassword | deleteAccount | createBranch | updateBranch
  | deleteBranch | createDelivery | updateDelivery | deleteDelivery | deleteRequest
  | deleteAllRequests => exact absurd rfl haccess

/-! ## Routes -/

theorem fitPath_names {names : List String} {segments : List Text} {segment : Text}
    (h : fitPath (names.map .named) segments = some segment) :
    segments = names.map Text.ofString := by
  induction names generalizing segments with
  | nil =>
    cases segments with
    | nil => rfl
    | cons first rest => cases h
  | cons name names ih =>
    cases segments with
    | nil => cases h
    | cons first rest =>
      simp only [List.map_cons, fitPath] at h
      split at h
      · next hfirst => rw [List.map_cons, ← ih h, beq_iff_eq.mp hfirst]
      · cases h

theorem ofString_display {method : Text} (h : method.wellFormed = true) :
    Text.ofString method.display = method := by
  rw [Text.ofString, Text.display, String.toList_ofList, Text.ofChars, Text.toChars, List.map_map]
  conv_rhs => rw [← List.map_id method]
  apply List.map_congr_left
  intro g hg
  cases g with
  | char c => rfl
  | stray b => cases List.all_eq_true.mp h _ hg

theorem routeOf_some {method : String} {segments : List Text} {segment : Text}
    (h : routeOf method segments = some (endpoint, segment)) :
    ∃ route ∈ routes, route.method = method ∧ route.endpoint = endpoint ∧
      fitPath route.path segments = some segment := by
  obtain ⟨route, hroute, h⟩ := List.exists_of_findSome?_eq_some h
  split at h
  · next hmethod =>
    obtain ⟨found, hfits, heq⟩ := Option.map_eq_some_iff.mp h
    cases heq
    exact ⟨route, hroute, beq_iff_eq.mp hmethod, rfl, hfits⟩
  · cases h

/-- A request for a password is left in one way only. -/
theorem asksFor_leaveRequest {req : Request} {segment : Text}
    (h : asksFor req = some (.leaveRequest, segment)) :
    req.method = "POST" ∧ pathSegments req.asked.path = ["api", "password-requests"] := by
  have honly : ∀ route ∈ routes, route.endpoint = .leaveRequest →
      route.method = "POST" ∧ route.path = ["api", "password-requests"].map PathPart.named := by
    decide
  unfold asksFor findRoute at h
  split at h
  · obtain ⟨route, hroute, hmethod, hendpoint, -⟩ := routeOf_some h
    rw [(honly route hroute hendpoint).1] at hmethod
    exact absurd hmethod (by decide)
  · split at h
    · next hformed =>
      obtain ⟨route, hroute, hmethod, hendpoint, hfits⟩ := routeOf_some h
      obtain ⟨hpost, hpath⟩ := honly route hroute hendpoint
      rw [hpath] at hfits
      refine ⟨?_, fitPath_names hfits⟩
      rw [← ofString_display hformed, ← hmethod, hpost]
    · cases h

/-! ## Requests -/

theorem admits_admin (h : Access.admin.admits claims = true) : claims.role = Role.admin.tag := by
  simp only [Access.admits, roleReaches, Bool.and_eq_true, decide_eq_true_eq] at h
  have hleast : Role.level Role.admin.tag = 2 := by decide
  have hlevel : 2 ≤ Role.level claims.role := hleast ▸ h.2
  unfold Role.level at hlevel
  split at hlevel
  · next hrole => exact Role.eq_tag_of_ofTag hrole
  · omega
  · omega

variable {ctx : Context} {req : Request}

theorem Step.without_token (step : Step ctx s req s') (hcaller : caller ctx s req = none) :
    s' = s ∨ req.method = "POST" ∧ pathSegments req.asked.path = ["api", "password-requests"] ∧
      ∃ row, s' = { s with requests := s.requests ++ [row] } := by
  cases step with
  | refused => exact .inl rfl
  | unguarded endpoint segment hasks haccess act =>
    cases act with
    | same => exact .inl rfl
    | leaveRequest row =>
      obtain ⟨hmethod, hpath⟩ := asksFor_leaveRequest hasks
      exact .inr ⟨hmethod, hpath, row, rfl⟩
    | _ => cases haccess
  | admitted claims endpoint segment hasks hsome =>
    rw [hcaller] at hsome
    cases hsome

theorem Step.withinBranch (step : Step ctx s req s') (hs : s.Keyed)
    (hcaller : caller ctx s req = some claims) (hrole : claims.role = Role.manager.tag) :
    WithinBranch claims s s' := by
  cases step with
  | refused => exact (Act.same .me).withinBranch hs hrole (by decide)
  | unguarded endpoint segment hasks haccess act =>
    have hopen : endpoint.access ≠ .admin := by
      rw [haccess]
      decide
    exact (act.by_anyone haccess claims).withinBranch hs hrole hopen
  | admitted other endpoint segment hasks hsome hadmits act =>
    obtain rfl : claims = other := Option.some.inj (hcaller.symm.trans hsome)
    refine act.withinBranch hs hrole ?_
    intro haccess
    rw [haccess, admits_manager hrole] at hadmits
    cases hadmits

theorem Step.ordinary (step : Step ctx s req s')
    (hcaller : ∀ claims, caller ctx s req = some claims → claims.role ≠ Role.admin.tag) :
    Ordinary (caller ctx s req) s s' := by
  cases step with
  | refused => exact .refl _ s
  | unguarded endpoint segment hasks haccess act =>
    cases act with
    | same => exact .refl _ s
    | leaveRequest row => exact .addRequest _ s row
    | _ => cases haccess
  | admitted claims endpoint segment hasks hsome hadmits act =>
    rw [hsome]
    refine act.ordinary ?_
    intro haccess
    rw [haccess] at hadmits
    exact hcaller claims hsome (admits_admin hadmits)

end

/-- Without a valid token a request changes nothing, or leaves a request for a password. With the
token of a manager it stays within the branch, and no row leaves the branch. Any change that is not
an ordinary one takes the token of an administrator. -/
theorem handle_authority (ctx : Context) (s : Store) (req : Request) (hs : s.Keyed) :
    (caller ctx s req = none →
      (handle ctx s req).2 = s ∨
        req.method = "POST" ∧ pathSegments req.asked.path = ["api", "password-requests"] ∧
          ∃ row, (handle ctx s req).2 = { s with requests := s.requests ++ [row] }) ∧
    (∀ claims, caller ctx s req = some claims → claims.role = Role.manager.tag →
      WithinBranch claims s (handle ctx s req).2 ∧
        (∀ old ∈ s.items, old.branch = claims.branch →
          ∀ new ∈ (handle ctx s req).2.items, new.id = old.id → new.branch = claims.branch) ∧
        ∀ old ∈ s.consumables, old.branch = claims.branch →
          ∀ new ∈ (handle ctx s req).2.consumables, new.id = old.id →
            new.branch = claims.branch) ∧
    (¬Ordinary (caller ctx s req) s (handle ctx s req).2 →
      ∃ claims, caller ctx s req = some claims ∧ claims.role = Role.admin.tag) := by
  have step := handle_step ctx s req
  refine ⟨step.without_token, ?_, ?_⟩
  · intro claims hcaller hrole
    have hwithin := step.withinBranch hs hcaller hrole
    refine ⟨hwithin, ?_, ?_⟩
    · intro old hold hown new hnew hid
      exact stays_of_elsewhere Item.id Item.branch (hs.distinct .items) hwithin.items hold hown hnew
        hid
    · intro old hold hown new hnew hid
      exact stays_of_elsewhere ConsumableRow.id ConsumableRow.branch (hs.distinct .consumables)
        hwithin.consumables hold hown hnew hid
  · intro hchange
    by_contra hnone
    refine hchange (step.ordinary ?_)
    intro claims hcaller hrole
    exact hnone ⟨claims, hcaller, hrole⟩

/-! ## An item of either branch -/

def itemOfA : Item := { id := 1, kind := "pc", branch := "A", assetName := "PC-A" }

def itemOfB : Item := { id := 2, kind := "pc", branch := "B", assetName := "PC-B" }

def storeOfBoth : Store := { items := [itemOfA, itemOfB] }

theorem storeOfBoth_keyed : storeOfBoth.Keyed where
  distinct := by rintro ⟨⟩ <;> decide
  damaged := fun _ _ hmark => nomatch hmark

/-- The manager of B removes the second item. -/
def removalByB : Request := signed managerOfB "DELETE" "/api/inventory-items/2" []

theorem removalByB_caller : caller earlyContext storeOfBoth removalByB = some managerOfB :=
  signed_caller managerOfB_valid rfl

theorem removalByB_removes : (handle earlyContext storeOfBoth removalByB).2 = { items := [itemOfA] } := by
  have hasks : asksFor removalByB = some (Endpoint.deleteItem, Text.ofString "2") := by
    decide +kernel
  exact handle_admitted (by decide +kernel) (by decide +kernel) hasks (by decide)
    removalByB_caller (by decide) (by decide +kernel)

/-- The manager of B removes the item of branch B, and that is all. -/
theorem storeOfBoth_authority :
    storeOfBoth.Keyed ∧ caller earlyContext storeOfBoth removalByB = some managerOfB ∧
      (handle earlyContext storeOfBoth removalByB).2 = { items := [itemOfA] } ∧
      WithinBranch managerOfB storeOfBoth (handle earlyContext storeOfBoth removalByB).2 :=
  ⟨storeOfBoth_keyed, removalByB_caller, removalByB_removes,
    ((handle_authority earlyContext storeOfBoth removalByB storeOfBoth_keyed).2.1 managerOfB
      removalByB_caller rfl).1⟩

end Api
end Stockroom

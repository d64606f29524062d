import Stockroom.Proofs.Api.Confidentiality

/-!
All that an endpoint may do to the store, as one relation that names the endpoint, who asked, and the
checks that were passed on the way. Whatever a statement about requests needs to know of an endpoint
is read off here, so that no later proof opens one.

Main definitions and statements:
* `Store.HasBranch`, `Store.Assigned`: a name of an active branch, a role with a branch that fits it;
* `Act`: the ways in which an endpoint may leave the store;
* `serve_act`: every endpoint that is served is one of them, by one lemma for each endpoint;
* `Act.change`: all of them are calls of the store.
-/
namespace Stockroom
set_option autoImplicit false

/-! ## What the checks establish in the store -/

theorem Role.eq_tag_of_ofTag {t : Text} {role : Role} (h : Role.ofTag t = some role) :
    t = role.tag := by
  unfold Role.ofTag at h
  split at h
  · cases h
    assumption
  · split at h
    · cases h
      assumption
    · cases h

namespace Store

/-- An active branch has the name. -/
def HasBranch (s : Store) (name : Text) : Prop :=
  ∃ b ∈ s.branches, b.isActive = true ∧ b.name = name

/-- An administrator has no branch, and a manager one that exists. -/
def Assigned (s : Store) (role branch : Text) : Prop :=
  role = Role.admin.tag ∧ branch = [] ∨
    role = Role.manager.tag ∧ branch ≠ [] ∧ s.HasBranch branch

theorem Assigned.known {s : Store} {role branch : Text} (h : s.Assigned role branch) :
    (Role.ofTag role).isSome = true := by
  rcases h with ⟨rfl, -⟩ | ⟨rfl, -⟩
  · decide
  · decide

theorem activeBranch?_some {s : Store} {id : Int} {b : BranchRow} (h : s.activeBranch? id = some b) :
    b ∈ s.branches ∧ b.id = id ∧ b.isActive = true := by
  have htest := List.find?_some h
  simp only [Bool.and_eq_true, beq_iff_eq] at htest
  exact ⟨List.mem_of_find?_eq_some h, htest.1, htest.2⟩

theorem branchNamed?_some {s : Store} {name : Text} {b : Branch}
    (h : s.branchNamed? name = .ok (some b)) : s.HasBranch name := by
  simp only [branchNamed?, bind_eq_ok] at h
  obtain ⟨_, -, h⟩ := h
  cases hrow : s.activeBranchNamed? name with
  | none => simp [hrow, showBranch] at h
  | some row =>
    have htest := List.find?_some hrow
    simp only [Bool.and_eq_true, beq_iff_eq] at htest
    exact ⟨row, List.mem_of_find?_eq_some hrow, htest.2, htest.1⟩

end Store

namespace Api

/-! ## Acts -/

/-- A store and the store after an endpoint was served for someone. -/
inductive Act (claims : Claims) (s : Store) : Endpoint → Store → Prop where
  | same (endpoint : Endpoint) : Act claims s endpoint s
  | leaveRequest (row : ResetRequest) (hid : row.id = nextId (s.requests.map (·.id))) :
      Act claims s .leaveRequest { s with requests := s.requests ++ [row] }
  | changePassword (hash : PasswordHash) :
      Act claims s .changePassword
        (s.mapAccount claims.userId fun r => { r with passwordHash := hash })
  | logout (r : Revocation) (hid : r.tokenId = claims.id) :
      Act claims s .logout { s with revocations := s.revocations ++ [r] }
  | createAccount (row : Account) (hid : row.id = nextId (s.accounts.map (·.id)))
      (hactive : row.isActive = true) (hfree : s.usernameTaken row.username = false)
      (hassigned : s.Assigned row.role row.branch) :
      Act claims s .createAccount { s with accounts := s.accounts ++ [row] }
  | updateAccount (id : Int) (role branch : Text) (hassigned : s.Assigned role branch)
      (hself : claims.userId = id → role = Role.admin.tag) :
      Act claims s .updateAccount (s.mapAccount id fun r => { r with role, branch })
  | resetPassword (id : Int) (hash : PasswordHash) :
      Act claims s .resetPassword (s.mapAccount id fun r => { r with passwordHash := hash })
  | deleteAccount (id : Int) (time : Instant) (hself : claims.userId ≠ id) :
      Act claims s .deleteAccount (s.mapAccount id fun r => { r with deletedAt := some time })
  | createBranch (row : BranchRow) (hid : row.id = nextId (s.branches.map (·.id)))
      (hactive : row.isActive = true) (hname : row.name ≠ [])
      (hfree : s.branchNameTaken row.name row.id = false) :
      Act claims s .createBranch { s with branches := s.branches ++ [row] }
  | updateBranch (id : Int) (b : BranchRow) (name location : Text)
      (hb : s.activeBranch? id = some b) (hname : name ≠ [])
      (hfree : s.branchNameTaken name id = false) :
      Act claims s .updateBranch (s.withBranch id b.name name location)
  | deleteBranch (id : Int) (b : BranchRow) (time : Instant) (hb : s.activeBranch? id = some b)
      (hheld : s.heldBy b.name = 0) :
      Act claims s .deleteBranch (s.mapBranches (fun b => b.id == id && b.isActive) fun b =>
        { b with deletedAt := some time })
  | uploadPhoto (id : Int) (b : BranchRow) (photo : BranchPhoto)
      (hb : s.activeBranch? id = some b) (hreach : mayAccess claims b.name = true) :
      Act claims s .uploadPhoto (s.mapBranches (fun b => b.id == id && b.isActive) fun b =>
        { b with photo := some photo })
  | createItem (row : Item) (hid : row.id = nextId (s.items.map (·.id)))
      (hvalid : row.validate = .ok ()) (hplace : mayAccess claims row.branch = true)
      (hbranch : s.HasBranch row.branch) :
      Act claims s .createItem { s with items := s.items ++ [row] }
  | updateItem (existing row : Item) (hfound : existing ∈ s.items) (hid : row.id = existing.id)
      (hkind : row.kind = existing.kind) (hvalid : row.validate = .ok ())
      (hreach : mayAccess claims existing.branch = true)
      (hplace : mayAccess claims row.branch = true) (hbranch : s.HasBranch row.branch) :
      Act claims s .updateItem
        { s with items := s.items.map fun old => if old.id == row.id then row else old }
  | deleteItem (existing : Item) (hfound : existing ∈ s.items)
      (hreach : mayAccess claims existing.branch = true) :
      Act claims s .deleteItem
        ({ s with items := s.items.filter (·.id != existing.id) }.forget .items
          (· == existing.id))
  | createConsumable (c : Consumable) (row : ConsumableRow)
      (hrow : ConsumableRow.ofConsumable c = .ok row) (hvalid : c.validate = .ok ())
      (hid : row.id = nextId (s.consumables.map (·.id)))
      (hplace : mayAccess claims row.branch = true) (hbranch : s.HasBranch row.branch) :
      Act claims s .createConsumable { s with consumables := s.consumables ++ [row] }
  | updateConsumable (existing : ConsumableRow) (c : Consumable) (row : ConsumableRow)
      (hfound : existing ∈ s.consumables) (hrow : ConsumableRow.ofConsumable c = .ok row)
      (hvalid : c.validate = .ok ()) (hid : row.id = existing.id)
      (hreach : mayAccess claims existing.branch = true)
      (hplace : mayAccess claims row.branch = true) (hbranch : s.HasBranch row.branch) :
      Act claims s .updateConsumable
        { s with consumables := s.consumables.map fun old =>
          if old.id == row.id then row else old }
  | deleteConsumable (existing : ConsumableRow) (hfound : existing ∈ s.consumables)
      (hreach : mayAccess claims existing.branch = true) :
      Act claims s .deleteConsumable
        ({ s with consumables := s.consumables.filter (·.id != existing.id) }.forget .consumables
          (· == existing.id))
  | createDelivery (row : Delivery) (hid : row.id = nextId (s.deliveries.map (·.id))) :
      Act claims s .createDelivery { s with deliveries := s.deliveries ++ [row] }
  | updateDelivery (row : Delivery) :
      Act claims s .updateDelivery
        { s with deliveries := s.deliveries.map fun old => if old.id == row.id then row else old }
  | deleteDelivery (id : Int) :
      Act claims s .deleteDelivery
        ({ s with deliveries := s.deliveries.filter (·.id != id) }.forget .deliveries (· == id))
  | deleteRequest (id : Int) :
      Act claims s .deleteRequest
        ({ s with requests := s.requests.filter (·.id != id) }.forget .requests (· == id))
  | deleteAllRequests :
      Act claims s .deleteAllRequests ({ s with requests := [] }.forget .requests fun _ => true)

/-- Whatever is done is a call of the store. -/
theorem Act.change {claims : Claims} {s s' : Store} {endpoint : Endpoint}
    (act : Act claims s endpoint s') : s.Change s' := by
  cases act with
  | same => exact .same
  | leaveRequest row hid => exact .addRequest row hid
  | changePassword hash => exact .setPassword _ hash
  | logout r => exact .addRevocation r
  | createAccount row hid hactive hfree hassigned =>
    exact .addAccount row hid hactive hassigned.known hfree
  | updateAccount id role branch hassigned => exact .setRole id role branch fun _ => hassigned.known
  | resetPassword id hash => exact .setPassword id hash
  | deleteAccount id time => exact .retireAccount id time
  | createBranch row hid hactive hname hfree => exact .addBranch row hid hactive hfree
  | updateBranch id b name location hb hname hfree =>
    exact .renameBranch id b name location hb hfree
  | deleteBranch id b time hb hheld => exact .retireBranch id b time hb hheld
  | uploadPhoto id b photo => exact .setPhoto id photo
  | createItem row hid hvalid => exact .addItem row hid hvalid
  | updateItem existing row hfound hid hkind hvalid =>
    exact .replaceItem existing row hfound hid hkind hvalid
  | deleteItem existing => exact .removeItem existing.id
  | createConsumable c row hrow hvalid hid => exact .addConsumable c row hrow hvalid hid
  | updateConsumable existing c row hfound hrow hvalid hid =>
    exact .replaceConsumable existing c row hfound hrow hvalid hid
  | deleteConsumable existing => exact .removeConsumable existing.id
  | createDelivery row hid => exact .addDelivery row hid
  | updateDelivery row => exact .replaceDelivery row
  | deleteDelivery id => exact .removeDelivery id
  | deleteRequest id => exact .removeRequest id
  | deleteAllRequests => exact .removeRequests

/-! ## What a check that was passed says -/

section
variable {claims : Claims} {s : Store} {req : Request} {segment : Text}

theorem orExplain_eq_ok {α : Type} {x : Except StoreError α} {action : Text} {a : α}
    (h : orExplain x action = .ok a) : x = .ok a := by
  cases x with
  | ok b =>
    cases h
    rfl
  | error e => cases e <;> cases h

theorem orMissing_eq_ok {α : Type} {x : Option α} {message : Text} {a : α}
    (h : orMissing x message = .ok a) : x = some a := by
  cases x with
  | none => cases h
  | some b =>
    cases h
    rfl

theorem sentBranch_named {sent : BranchForm} (h : sentBranch req = .ok sent) : sent.name ≠ [] := by
  obtain ⟨form, -, h⟩ := bind_eq_ok.mp h
  simp only at h
  split at h
  · cases h
  · next hname =>
    cases h
    simpa using hname

theorem checkedBranch_assigned {role branch given : Text}
    (h : checkedBranch s role given = .ok branch) : s.Assigned role branch := by
  unfold checkedBranch at h
  split at h
  · cases h
  · next hrole =>
    cases h
    exact .inl ⟨Role.eq_tag_of_ofTag hrole, rfl⟩
  · next hrole =>
    split at h
    · cases h
    · next hgiven =>
      split at h
      · cases h
      · cases h
      · next found hfound =>
        cases h
        exact .inr ⟨Role.eq_tag_of_ofTag hrole, by simpa using hgiven,
          Store.branchNamed?_some hfound⟩

theorem branchForWrite_placed {named branch : Text}
    (h : branchForWrite claims s named = .ok branch) :
    mayAccess claims branch = true ∧ s.HasBranch branch := by
  simp only [branchForWrite] at h
  generalize (if named.isEmpty && claims.role == Role.manager.tag then claims.branch else named) =
    wanted at h
  split at h
  · cases h
  split at h
  · cases h
  · next haccess =>
    obtain ⟨found, hfound, h⟩ := bind_eq_ok.mp h
    cases found with
    | none => cases h
    | some b =>
      cases h
      exact ⟨by simpa using haccess, Store.branchNamed?_some (orRefuse_eq_ok hfound)⟩

theorem foundBranch_active {id : Int} {b : Branch} (h : foundBranch s id = .ok b) :
    ∃ row, s.activeBranch? id = some row ∧ b = row.shown := by
  obtain ⟨found, hfound, h⟩ := bind_eq_ok.mp h
  rw [orMissing_eq_ok h] at hfound
  exact Store.branch?_some (orRefuse_eq_ok hfound)

/-- Who reaches a record has access to its branch. -/
theorem reach_access {ρ : Type} {branchOf : ρ → Text} {x : Option ρ} {message : Text} {r : ρ}
    (h : (orMissing x message >>= fun row =>
      if mayAccess claims (branchOf row) then pure row else refuse 404 message) = .ok r) :
    x = some r ∧ mayAccess claims (branchOf r) = true := by
  obtain ⟨row, hrow, hanswer⟩ := bind_eq_ok.mp h
  have hx := orMissing_eq_ok hrow
  split at hanswer
  · next haccess =>
    cases hanswer
    exact ⟨hx, haccess⟩
  · cases hanswer

theorem reachedItem_access {r : Item} (h : reachedItem claims s segment = .ok r) :
    s.items.find? (·.id == r.id) = some r ∧ mayAccess claims r.branch = true := by
  obtain ⟨id, -, h⟩ := bind_eq_ok.mp h
  obtain ⟨found, hfound, h⟩ := bind_eq_ok.mp h
  obtain ⟨rfl, haccess⟩ := reach_access h
  have hfind := Store.item?_some (orRefuse_eq_ok hfound)
  have hid : r.id = id := by simpa using List.find?_some hfind
  rw [hid]
  exact ⟨hfind, haccess⟩

theorem reachedConsumable_access {c : Consumable} (h : reachedConsumable claims s segment = .ok c) :
    ∃ row, s.consumables.find? (·.id == c.id) = some row ∧ row.load = .ok c ∧
      mayAccess claims row.branch = true := by
  obtain ⟨id, -, h⟩ := bind_eq_ok.mp h
  obtain ⟨found, hfound, h⟩ := bind_eq_ok.mp h
  obtain ⟨rfl, haccess⟩ := reach_access h
  obtain ⟨row, hfind, hload⟩ := Store.consumable?_some (orRefuse_eq_ok hfound)
  have hid : row.id = id := by simpa using List.find?_some hfind
  refine ⟨row, ?_, hload, ?_⟩
  · rw [ConsumableRow.load_id hload, hid]
    exact hfind
  · rw [← Store.load_branch hload]
    exact haccess

end

/-! ## Endpoints that write -/

section
variable {ctx : Context} {claims : Claims} {s s' : Store} {req : Request} {segment : Text}
variable {response : Response}

theorem leaveRequest_act (h : leaveRequest ctx s req = .ok (response, s')) :
    Act claims s .leaveRequest s' := by
  obtain ⟨sent, -, h⟩ := bind_eq_ok.mp h
  obtain ⟨⟨row, after⟩, hcreate, h⟩ := bind_eq_ok.mp h
  cases h
  obtain ⟨rfl, rfl⟩ := Store.createRequest_effect (orExplain_eq_ok hcreate)
  exact .leaveRequest _ rfl

theorem changePassword_act (h : changePassword claims s req = .ok (response, s')) :
    Act claims s .changePassword s' := by
  obtain ⟨sent, -, h⟩ := bind_eq_ok.mp h
  split at h
  · cases h
  obtain ⟨_, -, h⟩ := bind_eq_ok.mp h
  obtain ⟨found, -, h⟩ := bind_eq_ok.mp h
  cases found with
  | none => cases h
  | some account =>
    simp only at h
    split at h
    · cases h
    · obtain ⟨hash, -, h⟩ := bind_eq_ok.mp h
      obtain ⟨after, hupdate, h⟩ := bind_eq_ok.mp h
      cases h
      rw [Store.updatePassword_effect (orRefuse_eq_ok hupdate)]
      exact .changePassword hash

theorem logout_act (h : logout claims s = .ok (response, s')) : Act claims s .logout s' := by
  obtain ⟨after, hrevoke, h⟩ := bind_eq_ok.mp h
  cases h
  obtain rfl | rfl := Store.revoke_effect (orRefuse_eq_ok hrevoke)
  · exact .same _
  · exact .logout _ rfl

theorem createAccount_act (h : createAccount ctx s req = .ok (response, s')) :
    Act claims s .createAccount s' := by
  obtain ⟨sent, -, h⟩ := bind_eq_ok.mp h
  split at h
  · cases h
  obtain ⟨branch, hbranch, h⟩ := bind_eq_ok.mp h
  obtain ⟨_, -, h⟩ := bind_eq_ok.mp h
  obtain ⟨hash, -, h⟩ := bind_eq_ok.mp h
  obtain ⟨⟨account, after⟩, hcreate, h⟩ := bind_eq_ok.mp h
  cases h
  obtain ⟨-, hfree, rfl⟩ := Store.createAccount_effect (orRefuse_eq_ok hcreate)
  exact .createAccount _ rfl rfl hfree (checkedBranch_assigned hbranch)

theorem updateAccount_act (h : updateAccount claims s segment req = .ok (response, s')) :
    Act claims s .updateAccount s' := by
  obtain ⟨id, -, h⟩ := bind_eq_ok.mp h
  obtain ⟨sent, -, h⟩ := bind_eq_ok.mp h
  obtain ⟨branch, hbranch, h⟩ := bind_eq_ok.mp h
  split at h
  · cases h
  · next hself =>
    obtain ⟨after, hupdate, h⟩ := bind_eq_ok.mp h
    -- the account is read again, but whatever is found the store is the same
    have hafter : after = s' := by
      split at h
      · exact congrArg Prod.snd (pure_eq_ok.mp h)
      · exact congrArg Prod.snd (pure_eq_ok.mp h)
    subst hafter
    obtain ⟨-, rfl⟩ := Store.updateAccount_effect (orRefuse_eq_ok hupdate)
    refine .updateAccount id sent.role branch (checkedBranch_assigned hbranch) ?_
    intro hid
    simpa [hid] using hself

theorem resetPassword_act (h : resetPassword s segment req = .ok (response, s')) :
    Act claims s .resetPassword s' := by
  obtain ⟨id, -, h⟩ := bind_eq_ok.mp h
  obtain ⟨sent, -, h⟩ := bind_eq_ok.mp h
  split at h
  · cases h
  obtain ⟨_, -, h⟩ := bind_eq_ok.mp h
  obtain ⟨_, -, h⟩ := bind_eq_ok.mp h
  obtain ⟨hash, -, h⟩ := bind_eq_ok.mp h
  obtain ⟨after, hupdate, h⟩ := bind_eq_ok.mp h
  cases h
  rw [Store.updatePassword_effect (orRefuse_eq_ok hupdate)]
  exact .resetPassword id hash

theorem deleteAccount_act (h : deleteAccount ctx claims s segment = .ok (response, s')) :
    Act claims s .deleteAccount s' := by
  obtain ⟨id, -, h⟩ := bind_eq_ok.mp h
  split at h
  · cases h
  · next hself =>
    obtain ⟨after, hdelete, h⟩ := bind_eq_ok.mp h
    cases h
    rw [Store.deleteAccount_effect (orRefuse_eq_ok hdelete)]
    exact .deleteAccount id ctx.now.stored (by simpa using hself)

theorem createBranch_act (h : createBranch ctx s req = .ok (response, s')) :
    Act claims s .createBranch s' := by
  obtain ⟨sent, hsent, h⟩ := bind_eq_ok.mp h
  obtain ⟨⟨branch, after⟩, hcreate, h⟩ := bind_eq_ok.mp h
  cases h
  obtain ⟨hfree, rfl⟩ := Store.createBranch_effect (orRefuse_eq_ok hcreate)
  exact .createBranch _ rfl rfl (sentBranch_named hsent) hfree

theorem updateBranch_act (h : updateBranch s segment req = .ok (response, s')) :
    Act claims s .updateBranch s' := by
  obtain ⟨id, -, h⟩ := bind_eq_ok.mp h
  obtain ⟨sent, hsent, h⟩ := bind_eq_ok.mp h
  obtain ⟨_, -, h⟩ := bind_eq_ok.mp h
  obtain ⟨_, -, h⟩ := bind_eq_ok.mp h
  obtain ⟨after, hupdate, h⟩ := bind_eq_ok.mp h
  have hafter : after = s' := by
    split at h
    · exact congrArg Prod.snd (pure_eq_ok.mp h)
    · exact congrArg Prod.snd (pure_eq_ok.mp h)
  subst hafter
  obtain ⟨-, rfl⟩ | ⟨b, hb, hfree, rfl⟩ := Store.updateBranch_effect (orRefuse_eq_ok hupdate)
  · exact .same _
  · exact .updateBranch id b sent.name sent.location hb (sentBranch_named hsent) hfree

theorem deleteBranch_act (h : deleteBranch ctx s segment = .ok (response, s')) :
    Act claims s .deleteBranch s' := by
  obtain ⟨id, -, h⟩ := bind_eq_ok.mp h
  obtain ⟨_, -, h⟩ := bind_eq_ok.mp h
  split at h
  · next after hdelete =>
    cases h
    obtain rfl | ⟨b, hb, hheld, rfl⟩ := Store.deleteBranch_effect hdelete
    · exact .same _
    · exact .deleteBranch id b ctx.now.stored hb hheld
  · cases h
  · cases h

theorem uploadPhoto_act (h : uploadPhoto claims s segment req = .ok (response, s')) :
    Act claims s .uploadPhoto s' := by
  obtain ⟨id, -, h⟩ := bind_eq_ok.mp h
  obtain ⟨branch, hbranch, h⟩ := bind_eq_ok.mp h
  obtain ⟨b, hb, rfl⟩ := foundBranch_active hbranch
  split at h
  · cases h
  · next haccess =>
    obtain ⟨picture, -, h⟩ := bind_eq_ok.mp h
    obtain ⟨after, hset, h⟩ := bind_eq_ok.mp h
    cases h
    rw [Store.setBranchPhoto_effect (orRefuse_eq_ok hset)]
    have hreach : mayAccess claims b.name = true := by simpa [BranchRow.shown] using haccess
    exact .uploadPhoto id b _ hb hreach

theorem createItem_act (h : createItem ctx claims s req = .ok (response, s')) :
    Act claims s .createItem s' := by
  obtain ⟨sent, -, h⟩ := bind_eq_ok.mp h
  obtain ⟨branch, hbranch, h⟩ := bind_eq_ok.mp h
  obtain ⟨⟨row, after⟩, hcreate, h⟩ := bind_eq_ok.mp h
  cases h
  obtain ⟨hplace, hexists⟩ := branchForWrite_placed hbranch
  obtain ⟨hvalid, rfl, rfl⟩ := Store.createItem_effect (orExplain_eq_ok hcreate)
  exact .createItem _ rfl hvalid hplace hexists

theorem updateItem_act (h : updateItem ctx claims s segment req = .ok (response, s')) :
    Act claims s .updateItem s' := by
  obtain ⟨existing, hexisting, h⟩ := bind_eq_ok.mp h
  obtain ⟨sent, -, h⟩ := bind_eq_ok.mp h
  obtain ⟨branch, hbranch, h⟩ := bind_eq_ok.mp h
  obtain ⟨⟨row, after⟩, hupdate, h⟩ := bind_eq_ok.mp h
  obtain ⟨_, -, h⟩ := bind_eq_ok.mp h
  cases h
  obtain ⟨hplace, hexists⟩ := branchForWrite_placed hbranch
  obtain ⟨hfind, hreach⟩ := reachedItem_access hexisting
  obtain ⟨-, rfl⟩ | ⟨found, hfound, hvalid, -, rfl⟩ :=
    Store.updateItem_effect (orExplain_eq_ok hupdate)
  · exact .same _
  · obtain rfl : existing = found := Option.some.inj (hfind.symm.trans hfound)
    exact .updateItem existing (Store.itemAfter existing { sent with branch } ctx.now)
      (List.mem_of_find?_eq_some hfind) rfl rfl hvalid hreach hplace hexists

theorem deleteItem_act (h : deleteItem claims s segment = .ok (response, s')) :
    Act claims s .deleteItem s' := by
  obtain ⟨existing, hexisting, h⟩ := bind_eq_ok.mp h
  obtain ⟨after, hdelete, h⟩ := bind_eq_ok.mp h
  cases h
  obtain ⟨hfind, hreach⟩ := reachedItem_access hexisting
  rw [Store.deleteItem_effect (orRefuse_eq_ok hdelete)]
  exact .deleteItem existing (List.mem_of_find?_eq_some hfind) hreach

theorem createConsumable_act (h : createConsumable ctx claims s req = .ok (response, s')) :
    Act claims s .createConsumable s' := by
  obtain ⟨sent, -, h⟩ := bind_eq_ok.mp h
  obtain ⟨branch, hbranch, h⟩ := bind_eq_ok.mp h
  obtain ⟨⟨shown, after⟩, hcreate, h⟩ := bind_eq_ok.mp h
  cases h
  obtain ⟨hplace, hexists⟩ := branchForWrite_placed hbranch
  obtain ⟨row, hvalid, hrow, -, rfl⟩ := Store.createConsumable_effect (orExplain_eq_ok hcreate)
  have hown : row.branch = branch :=
    (Store.ofConsumable_branch hrow).trans (Store.filledIn_branch _)
  exact .createConsumable _ row hrow hvalid (ConsumableRow.ofConsumable_id hrow) (hown ▸ hplace)
    (hown ▸ hexists)

theorem updateConsumable_act (h : updateConsumable ctx claims s segment req = .ok (response, s')) :
    Act claims s .updateConsumable s' := by
  obtain ⟨existing, hexisting, h⟩ := bind_eq_ok.mp h
  obtain ⟨sent, -, h⟩ := bind_eq_ok.mp h
  obtain ⟨branch, hbranch, h⟩ := bind_eq_ok.mp h
  obtain ⟨⟨shown, after⟩, hupdate, h⟩ := bind_eq_ok.mp h
  obtain ⟨_, -, h⟩ := bind_eq_ok.mp h
  cases h
  obtain ⟨hplace, hexists⟩ := branchForWrite_placed hbranch
  obtain ⟨old, hfind, -, hreach⟩ := reachedConsumable_access hexisting
  obtain ⟨-, rfl⟩ |
      ⟨found, loaded, typed, row, _, hfound, hload, htyped, hvalid, hrow, -, -, rfl⟩ :=
    Store.updateConsumable_effect (orExplain_eq_ok hupdate)
  · exact .same _
  · obtain rfl : old = found := Option.some.inj (hfind.symm.trans hfound)
    have hid := ConsumableRow.ofConsumable_id hrow
    change row.id = loaded.id at hid
    have hown : row.branch = branch :=
      (Store.ofConsumable_branch hrow).trans
        ((Store.filledIn_branch _).trans (Store.retyped_branch htyped))
    rw [← hid]
    exact .updateConsumable old _ row (List.mem_of_find?_eq_some hfind) hrow hvalid
      (hid.trans (ConsumableRow.load_id hload)) hreach (hown ▸ hplace) (hown ▸ hexists)

theorem deleteConsumable_act (h : deleteConsumable claims s segment = .ok (response, s')) :
    Act claims s .deleteConsumable s' := by
  obtain ⟨existing, hexisting, h⟩ := bind_eq_ok.mp h
  obtain ⟨after, hdelete, h⟩ := bind_eq_ok.mp h
  cases h
  obtain ⟨row, hfind, hload, hreach⟩ := reachedConsumable_access hexisting
  rw [Store.deleteConsumable_effect (orRefuse_eq_ok hdelete), ConsumableRow.load_id hload]
  exact .deleteConsumable row (List.mem_of_find?_eq_some hfind) hreach

theorem createDelivery_act (h : createDelivery ctx claims s req = .ok (response, s')) :
    Act claims s .createDelivery s' := by
  obtain ⟨sent, -, h⟩ := bind_eq_ok.mp h
  obtain ⟨⟨row, after⟩, hcreate, h⟩ := bind_eq_ok.mp h
  cases h
  obtain ⟨hid, rfl⟩ := Store.createDelivery_effect (orExplain_eq_ok hcreate)
  exact .createDelivery row hid

theorem updateDelivery_act (h : updateDelivery ctx s segment req = .ok (response, s')) :
    Act claims s .updateDelivery s' := by
  obtain ⟨existing, -, h⟩ := bind_eq_ok.mp h
  obtain ⟨sent, -, h⟩ := bind_eq_ok.mp h
  obtain ⟨⟨row, after⟩, hupdate, h⟩ := bind_eq_ok.mp h
  obtain ⟨_, -, h⟩ := bind_eq_ok.mp h
  cases h
  obtain ⟨-, rfl⟩ | ⟨replaced, -, rfl⟩ := Store.updateDelivery_effect (orExplain_eq_ok hupdate)
  · exact .same _
  · exact .updateDelivery replaced

theorem deleteDelivery_act (h : deleteDelivery s segment = .ok (response, s')) :
    Act claims s .deleteDelivery s' := by
  obtain ⟨existing, -, h⟩ := bind_eq_ok.mp h
  obtain ⟨after, hdelete, h⟩ := bind_eq_ok.mp h
  cases h
  rw [Store.deleteDelivery_effect (orRefuse_eq_ok hdelete)]
  exact .deleteDelivery existing.id

theorem deleteRequest_act (h : deleteRequest s segment = .ok (response, s')) :
    Act claims s .deleteRequest s' := by
  obtain ⟨id, -, h⟩ := bind_eq_ok.mp h
  obtain ⟨⟨found, after⟩, hdelete, h⟩ := bind_eq_ok.mp h
  simp only at h
  split at h
  · cases h
  · cases h
    rw [Store.deleteRequest_effect (orRefuse_eq_ok hdelete)]
    exact .deleteRequest id

theorem deleteAllRequests_act (h : deleteAllRequests s = .ok (response, s')) :
    Act claims s .deleteAllRequests s' := by
  obtain ⟨⟨count, after⟩, hdelete, h⟩ := bind_eq_ok.mp h
  cases h
  rw [Store.deleteAllRequests_effect (orRefuse_eq_ok hdelete)]
  exact .deleteAllRequests

end

/-! ## Endpoints that only read -/

/-- An outcome that leaves the store as it is, whatever the answer. -/
def Leaves (s : Store) (outcome : Outcome) : Prop :=
  ∀ response s', outcome = .ok (response, s') → s' = s

namespace Leaves

variable {s : Store}

theorem answer (response : Response) : Leaves s (pure (response, s)) := by
  intro _ s' h
  exact (congrArg Prod.snd (pure_eq_ok.mp h)).symm

theorem error (response : Response) : Leaves s (.error response) := by
  intro _ _ h
  cases h

theorem bind {α : Type} {x : Except Response α} {f : α → Outcome} (h : ∀ a, Leaves s (f a)) :
    Leaves s (x >>= f) := by
  intro response s' houtcome
  obtain ⟨a, -, hnext⟩ := bind_eq_ok.mp houtcome
  exact h a response s' hnext

end Leaves

section
variable {ctx : Context} {claims : Claims} {s : Store} {req : Request} {segment : Text}

theorem login_leaves : Leaves s (login ctx s req) := by
  refine .bind fun sent => ?_
  split
  · exact .error _
  refine .bind fun found => ?_
  cases found with
  | none => exact .error _
  | some account =>
    simp only
    split
    · exact .error _
    · exact .answer _

theorem me_leaves : Leaves s (me claims s) := by
  refine .bind fun found => ?_
  cases found with
  | none => exact .error _
  | some account =>
    simp only
    split
    · exact .error _
    · exact .answer _

theorem getPhoto_leaves : Leaves s (getPhoto s segment) := by
  refine .bind fun id => .bind fun found => .bind fun photo => ?_
  split
  · exact .error _
  · exact .answer _

theorem listItems_leaves : Leaves s (listItems claims s req) := by
  refine .bind fun branch => ?_
  simp only
  split
  · exact .error _
  · exact .bind fun _ => .answer _

theorem exportItems_leaves : Leaves s (exportItems ctx claims s req) := by
  refine .bind fun branch => ?_
  split
  · exact .error _
  · refine .bind fun rows => ?_
    split
    · exact .error _
    · exact .answer _

theorem listConsumables_leaves : Leaves s (listConsumables claims s req) := by
  refine .bind fun branch => ?_
  simp only
  split
  · exact .error _
  · exact .bind fun _ => .answer _

theorem listDeliveries_leaves : Leaves s (listDeliveries s req) := by
  simp only [listDeliveries]
  split
  · exact .error _
  · exact .bind fun _ => .answer _

theorem dashboard_leaves : Leaves s (dashboard claims s req) := by
  simp only [dashboard]
  split
  · exact .bind fun _ => .answer _
  · split
    · exact .answer _
    · exact .bind fun _ => .bind fun _ => .answer _

end

/-! ## All endpoints -/

section
variable {ctx : Context} {claims : Claims} {s s' : Store} {req : Request} {segment : Text}
variable {response : Response} {endpoint : Endpoint}

theorem Leaves.act {outcome : Outcome} (hleaves : Leaves s outcome)
    (h : outcome = .ok (response, s')) : Act claims s endpoint s' := by
  rw [hleaves response s' h]
  exact .same endpoint

theorem serve_act (h : serve ctx claims s req segment endpoint = .ok (response, s')) :
    Act claims s endpoint s' := by
  cases endpoint with
  | login => exact login_leaves.act h
  | leaveRequest => exact leaveRequest_act h
  | me => exact me_leaves.act h
  | changePassword => exact changePassword_act h
  | logout => exact logout_act h
  | createAccount => exact createAccount_act h
  | updateAccount => exact updateAccount_act h
  | resetPassword => exact resetPassword_act h
  | deleteAccount => exact deleteAccount_act h
  | createBranch => exact createBranch_act h
  | updateBranch => exact updateBranch_act h
  | deleteBranch => exact deleteBranch_act h
  | uploadPhoto => exact uploadPhoto_act h
  | getPhoto => exact getPhoto_leaves.act h
  | listItems => exact listItems_leaves.act h
  | createItem => exact createItem_act h
  | exportItems => exact exportItems_leaves.act h
  | updateItem => exact updateItem_act h
  | deleteItem => exact deleteItem_act h
  | listConsumables => exact listConsumables_leaves.act h
  | createConsumable => exact createConsumable_act h
  | updateConsumable => exact updateConsumable_act h
  | deleteConsumable => exact deleteConsumable_act h
  | deleteAllRequests => exact deleteAllRequests_act h
  | deleteRequest => exact deleteRequest_act h
  | listDeliveries => exact listDeliveries_leaves.act h
  | createDelivery => exact createDelivery_act h
  | updateDelivery => exact updateDelivery_act h
  | deleteDelivery => exact deleteDelivery_act h
  | dashboard => exact dashboard_leaves.act h
  -- one look-up and its answer
  | listAccounts | listBranches | getItem | getConsumable | listRequests | getDelivery =>
    exact Leaves.act (.bind fun _ => .answer _) h
  | getAccount | getBranch =>
    exact Leaves.act (.bind fun _ => .bind fun _ => .bind fun _ => .answer _) h

end

end Api
end Stockroom

import Stockroom.Api.Router
import Stockroom.Proofs.Store.Scope
import Stockroom.Proofs.Token.Content

/-!
What someone who manages a branch learns of the others: nothing. Two stores that agree on the branch
answer every request of its manager alike and agree on the branch afterwards, but for the id of a
row that was created. The one thing that shows is damage: a row that cannot be loaded is answered as
an error of the server, before it is known of which branch it is.

Main definitions and statements:
* `namedRow`: the row that a request names by its id;
* `Indistinct`: what two runs leave that cannot be told apart;
* one `…_indistinct` for each endpoint within a manager's reach;
* `handle_indistinct`: every request of a manager;
* `storeOfA_damage_shown`: a damaged row of another branch is told from one that is not there.
-/
namespace Stockroom
set_option autoImplicit false

namespace Api

open Store (AgreeOn Keyed SameOwn LoadsElsewhere)

/-! ## What a request asks for -/

/-- The endpoint and the segment of the path in place of an id. -/
def asksFor (req : Request) : Option (Endpoint × Text) :=
  findRoute req.method (pathSegments req.asked.path)

/-- The table of the row that an endpoint takes by its id, where the rows belong to branches. -/
def Endpoint.rowTable : Endpoint → Option TableName
  | .getItem | .updateItem | .deleteItem => some .items
  | .getConsumable | .updateConsumable | .deleteConsumable => some .consumables
  | _ => none

/-- The row that a request names by its id. -/
def namedRow (req : Request) : Option (TableName × Int) :=
  (asksFor req).bind fun (endpoint, segment) =>
    endpoint.rowTable.bind fun table => (readInt64 segment.toChars).map fun id => (table, id)

/-- A response as it is sent: with the id of its request, and without a body where only the headers
are wanted. -/
def answered (req : Request) (response : Response) : Response :=
  { response with
    requestId := req.header "X-Request-ID"
    body := if isHead req.method then .nothing else response.body }

/-! ## Responses and stores that cannot be told apart -/

/-- What is left by a request that someone of a branch cannot tell apart: the same response and
stores that agree on the branch, or, after a creation, a response and a new row that are the same
but for the id. -/
inductive Indistinct (branch : Text) (endpoint : Option Endpoint) (finish : Response → Response) :
    Response × Store → Response × Store → Prop where
  | same {s t : Store} (response : Response) (h : AgreeOn branch s t) :
      Indistinct branch endpoint finish (response, s) (response, t)
  | newItem {s t : Store} (h : AgreeOn branch s t) (hendpoint : endpoint = some .createItem)
      (row : Item) (hrow : row.branch = branch) (i j : Int) :
      Indistinct branch endpoint finish
        (finish (.json 201 { row with id := i }.toJson),
          { s with items := s.items ++ [{ row with id := i }] })
        (finish (.json 201 { row with id := j }.toJson),
          { t with items := t.items ++ [{ row with id := j }] })
  | newConsumable {s t : Store} (h : AgreeOn branch s t)
      (hendpoint : endpoint = some .createConsumable) (row : ConsumableRow)
      (hrow : row.branch = branch) (shown : Consumable) (hshown : row.load = .ok shown)
      (i j : Int) :
      Indistinct branch endpoint finish
        (finish (.json 201 (shownConsumable { shown with id := i })),
          { s with consumables := s.consumables ++ [{ row with id := i }] })
        (finish (.json 201 (shownConsumable { shown with id := j })),
          { t with consumables := t.consumables ++ [{ row with id := j }] })

/-! ## Errors of the store -/

section
variable {α β : Type} {R : α → β → Prop} {x : Except StoreError α} {y : Except StoreError β}

theorem orRefuse_paired (h : Paired R x y) (status : Nat) (message : Text) :
    Paired R (orRefuse x status message) (orRefuse y status message) := by
  cases h with
  | ok h => exact .ok h
  | error e => exact .error _

theorem orExplain_paired (h : Paired R x y) (action : Text) :
    Paired R (orExplain x action) (orExplain y action) := by
  cases h with
  | ok h => exact .ok h
  | error e => cases e <;> exact .error _

end

/-! ## What all may see -/

section
variable {branch : Text} {endpoint : Option Endpoint} {s t : Store} {ctx : Context} {req : Request}
variable {segment : Text} {claims : Claims}

theorem login_indistinct (h : AgreeOn branch s t) :
    Paired (Indistinct branch endpoint id) (login ctx s req) (login ctx t req) := by
  simp only [login, h.accountNamed?]
  refine .bind_same fun sent _ => ?_
  split
  · exact .error _
  refine .bind_same fun found _ => ?_
  cases found with
  | none => exact .error _
  | some account =>
    simp only
    split
    · exact .error _
    · exact .ok (.same _ h)

theorem leaveRequest_indistinct (h : AgreeOn branch s t) :
    Paired (Indistinct branch endpoint id) (leaveRequest ctx s req) (leaveRequest ctx t req) := by
  refine .bind_same fun sent _ => ?_
  refine .bind (orExplain_paired (h.createRequest ctx.now sent) _) ?_
  rintro ⟨_, s'⟩ ⟨_, t'⟩ ⟨-, hagree⟩
  exact .ok (.same _ hagree)

theorem me_indistinct (h : AgreeOn branch s t) :
    Paired (Indistinct branch endpoint id) (me claims s) (me claims t) := by
  simp only [me, h.account?]
  refine .bind_same fun found _ => ?_
  cases found with
  | none => exact .error _
  | some account =>
    simp only
    split
    · exact .error _
    · exact .ok (.same _ h)

theorem changePassword_indistinct (h : AgreeOn branch s t) :
    Paired (Indistinct branch endpoint id) (changePassword claims s req)
      (changePassword claims t req) := by
  simp only [changePassword, h.account?]
  refine .bind_same fun sent _ => ?_
  split
  · exact .error _
  refine .bind_same fun _ _ => .bind_same fun found _ => ?_
  cases found with
  | none => exact .error _
  | some account =>
    simp only
    split
    · exact .error _
    refine .bind_same fun hash _ => ?_
    refine .bind (orRefuse_paired (h.updatePassword claims.userId hash) ..) ?_
    intro s' t' hagree
    exact .ok (.same _ hagree)

theorem logout_indistinct (h : AgreeOn branch s t) :
    Paired (Indistinct branch endpoint id) (logout claims s) (logout claims t) := by
  refine .bind (orRefuse_paired (h.revoke claims.id _) ..) ?_
  intro s' t' hagree
  exact .ok (.same _ hagree)

theorem listBranches_indistinct (h : AgreeOn branch s t) :
    Paired (Indistinct branch endpoint id) (listBranches s) (listBranches t) := by
  simp only [listBranches, h.branchList]
  exact .bind_same fun _ _ => .ok (.same _ h)

theorem getBranch_indistinct (h : AgreeOn branch s t) :
    Paired (Indistinct branch endpoint id) (getBranch s segment) (getBranch t segment) := by
  simp only [getBranch, h.branch?]
  exact .bind_same fun _ _ => .bind_same fun _ _ => .bind_same fun _ _ => .ok (.same _ h)

theorem getPhoto_indistinct (h : AgreeOn branch s t) :
    Paired (Indistinct branch endpoint id) (getPhoto s segment) (getPhoto t segment) := by
  simp only [getPhoto, h.branchPhoto?]
  refine .bind_same fun _ _ => .bind_same fun _ _ => .bind_same fun photo _ => ?_
  split
  · exact .error _
  · exact .ok (.same _ h)

theorem uploadPhoto_indistinct (h : AgreeOn branch s t) :
    Paired (Indistinct branch endpoint id) (uploadPhoto claims s segment req)
      (uploadPhoto claims t segment req) := by
  simp only [uploadPhoto, foundBranch, h.branch?]
  refine .bind_same fun id _ => .bind_same fun found _ => ?_
  split
  · exact .error _
  refine .bind_same fun picture _ => ?_
  refine .bind (orRefuse_paired (h.setBranchPhoto id _) ..) ?_
  intro s' t' hagree
  exact .ok (.same _ hagree)

theorem listDeliveries_indistinct (h : AgreeOn branch s t) :
    Paired (Indistinct branch endpoint id) (listDeliveries s req) (listDeliveries t req) := by
  simp only [listDeliveries, h.deliveryList]
  split
  · exact .error _
  · exact .bind_same fun _ _ => .ok (.same _ h)

theorem getDelivery_indistinct (h : AgreeOn branch s t) :
    Paired (Indistinct branch endpoint id) (getDelivery s segment) (getDelivery t segment) := by
  simp only [getDelivery, foundDelivery, h.delivery?]
  exact .bind_same fun _ _ => .ok (.same _ h)

end

/-! ## The reach of a manager -/

section
variable {claims : Claims}

theorem isAdmin_manager (hrole : claims.role = Role.manager.tag) : isAdmin claims = false := by
  rw [isAdmin, hrole]
  decide

theorem mayAccess_manager (hrole : claims.role = Role.manager.tag) {branch : Text}
    (h : mayAccess claims branch = true) : branch = claims.branch := by
  have hadmin : (Role.manager.tag == Role.admin.tag) = false := by decide
  simp only [mayAccess, mayAccessBranch, hrole, hadmin, Bool.false_or, Bool.and_eq_true,
    beq_iff_eq] at h
  exact h.2.symm

theorem admits_manager (hrole : claims.role = Role.manager.tag) :
    Access.admin.admits claims = false := by
  simp only [Access.admits, hrole]
  decide

theorem listedBranch_manager (hrole : claims.role = Role.manager.tag) {req : Request}
    {branch : Text} (h : listedBranch claims req = .ok branch) :
    branch = claims.branch ∧ claims.branch.isEmpty = false := by
  simp only [listedBranch, visibleBranch, isAdmin_manager hrole, Bool.false_eq_true, if_false] at h
  split at h
  · next found hfound =>
    cases h
    split at hfound
    · cases hfound
    · split at hfound
      · cases hfound
      · next hempty =>
        cases hfound
        exact ⟨rfl, by simpa using hempty⟩
  · cases h

variable {s t : Store}

theorem branchForWrite_same (h : AgreeOn claims.branch s t) (branch : Text) :
    branchForWrite claims s branch = branchForWrite claims t branch := by
  simp only [branchForWrite, h.branchNamed?]

theorem branchForWrite_manager (hrole : claims.role = Role.manager.tag) {named branch : Text}
    (h : branchForWrite claims s named = .ok branch) : branch = claims.branch := by
  simp only [branchForWrite] at h
  generalize (if named.isEmpty && claims.role == Role.manager.tag then claims.branch else named) =
    wanted at h
  split at h
  · cases h
  split at h
  · cases h
  · next haccess =>
    obtain ⟨found, -, h⟩ := bind_eq_ok.mp h
    cases found with
    | none => cases h
    | some _ =>
      cases h
      exact mayAccess_manager hrole (by simpa using haccess)

theorem orRefuse_eq_ok {α : Type} {x : Except StoreError α} {status : Nat} {message : Text} {a : α}
    (h : orRefuse x status message = .ok a) : x = .ok a := by
  cases x with
  | ok b =>
    cases h
    rfl
  | error e => cases h

/-- What is reached is of the manager's branch. -/
theorem reach_own {ρ : Type} {branchOf : ρ → Text} (hrole : claims.role = Role.manager.tag)
    {x : Option ρ} {message : Text} {r : ρ}
    (h : (orMissing x message >>= fun row =>
      if mayAccess claims (branchOf row) then pure row else refuse 404 message) = .ok r) :
    x = some r ∧ branchOf r = claims.branch := by
  obtain ⟨row, hrow, hanswer⟩ := bind_eq_ok.mp h
  cases x with
  | none => cases hrow
  | some found =>
    cases hrow
    split at hanswer
    · next haccess =>
      cases hanswer
      exact ⟨rfl, mayAccess_manager hrole haccess⟩
    · cases hanswer

/-- A record of another branch is answered as one that is not there. -/
theorem reach_elsewhere {ρ : Type} {branchOf : ρ → Text} (hrole : claims.role = Role.manager.tag)
    {x : Option ρ} (hx : (x.filter fun r => branchOf r == claims.branch) = none) (message : Text) :
    (orMissing x message >>= fun row =>
      if mayAccess claims (branchOf row) then pure row else refuse 404 message) =
        refuse 404 message := by
  cases x with
  | none => rfl
  | some r =>
    have hother : mayAccess claims (branchOf r) = false := by
      rw [← Bool.not_eq_true]
      intro haccess
      rw [Option.filter_some_pos (by simpa using mayAccess_manager hrole haccess)] at hx
      cases hx
    change (if mayAccess claims (branchOf r) = true then pure r else refuse 404 message) = _
    rw [hother]
    rfl

theorem reach_same {ρ : Type} {branchOf : ρ → Text} (hrole : claims.role = Role.manager.tag)
    {x y : Option ρ} (h : SameOwn branchOf claims.branch x y) (message : Text) :
    (orMissing x message >>= fun row =>
      if mayAccess claims (branchOf row) then pure row else refuse 404 message) =
    (orMissing y message >>= fun row =>
      if mayAccess claims (branchOf row) then pure row else refuse 404 message) := by
  obtain ⟨r, -, rfl, rfl⟩ | ⟨hx, hy⟩ := h
  · rfl
  · rw [reach_elsewhere hrole hx, reach_elsewhere hrole hy]

theorem idOf_eq_ok {segment what : Text} {id : Int} (h : idOf segment what = .ok id) :
    readInt64 segment.toChars = some id := by
  unfold idOf at h
  split at h
  · next hid =>
    cases h
    exact hid
  · cases h

end

/-! ## Items -/

section
variable {claims : Claims} {s t : Store} {ctx : Context} {req : Request} {segment : Text}

theorem reachedItem_same (h : AgreeOn claims.branch s t) (hs : s.Keyed) (ht : t.Keyed)
    (hrole : claims.role = Role.manager.tag)
    (hloads : ∀ id, readInt64 segment.toChars = some id →
      s.LoadsElsewhere claims.branch .items id ∧ t.LoadsElsewhere claims.branch .items id) :
    reachedItem claims s segment = reachedItem claims t segment := by
  apply Paired.eq
  refine .bind_same fun id hid => ?_
  obtain ⟨hsloads, htloads⟩ := hloads id (idOf_eq_ok hid)
  refine .bind (orRefuse_paired (h.item?_paired hs ht hsloads htloads) ..) ?_
  intro x y hsame
  exact .of_eq (reach_same hrole hsame _)

theorem reachedItem_own (hrole : claims.role = Role.manager.tag) {r : Item}
    (h : reachedItem claims s segment = .ok r) :
    s.item? r.id = .ok (some r) ∧ r.branch = claims.branch := by
  obtain ⟨id, -, h⟩ := bind_eq_ok.mp h
  obtain ⟨found, hfound, h⟩ := bind_eq_ok.mp h
  obtain ⟨rfl, hbranch⟩ := reach_own hrole h
  have hfound := orRefuse_eq_ok hfound
  have hfind := Store.item?_some hfound
  have hid : r.id = id := by simpa using List.find?_some hfind
  rw [hid]
  exact ⟨hfound, hbranch⟩

theorem listItems_indistinct (h : AgreeOn claims.branch s t)
    (hrole : claims.role = Role.manager.tag) {endpoint : Option Endpoint} :
    Paired (Indistinct claims.branch endpoint id) (listItems claims s req)
      (listItems claims t req) := by
  refine .bind_same fun branch hbranch => ?_
  obtain ⟨rfl, hempty⟩ := listedBranch_manager hrole hbranch
  simp only [h.itemList hempty]
  split
  · exact .error _
  · exact .bind_same fun _ _ => .ok (.same _ h)

theorem exportItems_indistinct (h : AgreeOn claims.branch s t)
    (hrole : claims.role = Role.manager.tag) {endpoint : Option Endpoint} :
    Paired (Indistinct claims.branch endpoint id) (exportItems ctx claims s req)
      (exportItems ctx claims t req) := by
  refine .bind_same fun branch hbranch => ?_
  obtain ⟨rfl, hempty⟩ := listedBranch_manager hrole hbranch
  simp only [h.itemList hempty]
  split
  · exact .error _
  · refine .bind_same fun rows _ => ?_
    split
    · exact .error _
    · exact .ok (.same _ h)

theorem createItem_indistinct (h : AgreeOn claims.branch s t)
    (hrole : claims.role = Role.manager.tag) :
    Paired (Indistinct claims.branch (some .createItem) id) (createItem ctx claims s req)
      (createItem ctx claims t req) := by
  refine .bind_same fun sent _ => ?_
  rw [branchForWrite_same h]
  refine .bind_same fun branch hbranch => ?_
  refine .bind (orExplain_paired (h.createItem ctx.now _) _) ?_
  rintro _ _ ⟨i, j, row, hrow, rfl, rfl⟩
  exact .ok (.newItem h rfl row (hrow.trans (branchForWrite_manager hrole hbranch)) i j)

theorem getItem_indistinct (h : AgreeOn claims.branch s t)
    (hreach : reachedItem claims s segment = reachedItem claims t segment)
    {endpoint : Option Endpoint} :
    Paired (Indistinct claims.branch endpoint id) (getItem claims s segment)
      (getItem claims t segment) := by
  rw [getItem, getItem, hreach]
  exact .bind_same fun _ _ => .ok (.same _ h)

theorem updateItem_indistinct (h : AgreeOn claims.branch s t) (hs : s.Keyed) (ht : t.Keyed)
    (hrole : claims.role = Role.manager.tag)
    (hreach : reachedItem claims s segment = reachedItem claims t segment)
    {endpoint : Option Endpoint} :
    Paired (Indistinct claims.branch endpoint id) (updateItem ctx claims s segment req)
      (updateItem ctx claims t segment req) := by
  rw [updateItem, updateItem, hreach]
  refine .bind_same fun existing hexisting => .bind_same fun sent _ => ?_
  obtain ⟨htfound, hown⟩ := reachedItem_own hrole hexisting
  obtain ⟨hsfound, -⟩ := reachedItem_own hrole (hreach.trans hexisting)
  rw [branchForWrite_same h]
  refine .bind_same fun branch hbranch => ?_
  refine .bind (orExplain_paired (h.updateItem hs ht ctx.now hsfound htfound hown
    (branchForWrite_manager hrole hbranch)) _) ?_
  rintro ⟨row, s'⟩ ⟨_, t'⟩ ⟨rfl, hagree⟩
  exact .bind_same fun _ _ => .ok (.same _ hagree)

theorem deleteItem_indistinct (h : AgreeOn claims.branch s t)
    (hrole : claims.role = Role.manager.tag)
    (hreach : reachedItem claims s segment = reachedItem claims t segment)
    {endpoint : Option Endpoint} :
    Paired (Indistinct claims.branch endpoint id) (deleteItem claims s segment)
      (deleteItem claims t segment) := by
  rw [deleteItem, deleteItem, hreach]
  refine .bind_same fun existing hexisting => ?_
  obtain ⟨htfound, -⟩ := reachedItem_own hrole hexisting
  obtain ⟨hsfound, -⟩ := reachedItem_own hrole (hreach.trans hexisting)
  refine .bind (orRefuse_paired (h.deleteItem hsfound htfound) ..) ?_
  intro s' t' hagree
  exact .ok (.same _ hagree)

end

/-! ## Consumables -/

section
variable {claims : Claims} {s t : Store} {ctx : Context} {req : Request} {segment : Text}

theorem reachedConsumable_same (h : AgreeOn claims.branch s t) (hs : s.Keyed) (ht : t.Keyed)
    (hrole : claims.role = Role.manager.tag)
    (hloads : ∀ id, readInt64 segment.toChars = some id →
      s.LoadsElsewhere claims.branch .consumables id ∧
        t.LoadsElsewhere claims.branch .consumables id) :
    reachedConsumable claims s segment = reachedConsumable claims t segment := by
  apply Paired.eq
  refine .bind_same fun id hid => ?_
  obtain ⟨hsloads, htloads⟩ := hloads id (idOf_eq_ok hid)
  refine .bind (orRefuse_paired (h.consumable?_paired hs ht hsloads htloads) ..) ?_
  intro x y hsame
  exact .of_eq (reach_same hrole hsame _)

theorem reachedConsumable_own (hrole : claims.role = Role.manager.tag) {c : Consumable}
    (h : reachedConsumable claims s segment = .ok c) :
    s.consumable? c.id = .ok (some c) ∧ c.branch = claims.branch := by
  obtain ⟨id, -, h⟩ := bind_eq_ok.mp h
  obtain ⟨found, hfound, h⟩ := bind_eq_ok.mp h
  obtain ⟨rfl, hbranch⟩ := reach_own hrole h
  have hfound := orRefuse_eq_ok hfound
  obtain ⟨row, hfind, hload⟩ := Store.consumable?_some hfound
  have hid : row.id = id := by simpa using List.find?_some hfind
  rw [ConsumableRow.load_id hload, hid]
  exact ⟨hfound, hbranch⟩

theorem listConsumables_indistinct (h : AgreeOn claims.branch s t)
    (hrole : claims.role = Role.manager.tag) {endpoint : Option Endpoint} :
    Paired (Indistinct claims.branch endpoint id) (listConsumables claims s req)
      (listConsumables claims t req) := by
  refine .bind_same fun branch hbranch => ?_
  obtain ⟨rfl, hempty⟩ := listedBranch_manager hrole hbranch
  simp only [h.consumableList hempty]
  split
  · exact .error _
  · exact .bind_same fun _ _ => .ok (.same _ h)

theorem createConsumable_indistinct (h : AgreeOn claims.branch s t) (hs : s.Keyed) (ht : t.Keyed)
    (hrole : claims.role = Role.manager.tag) :
    Paired (Indistinct claims.branch (some .createConsumable) id)
      (createConsumable ctx claims s req) (createConsumable ctx claims t req) := by
  refine .bind_same fun sent _ => ?_
  rw [branchForWrite_same h]
  refine .bind_same fun branch hbranch => ?_
  refine .bind (orExplain_paired (h.createConsumable hs ht ctx.now _) _) ?_
  rintro _ _ ⟨i, j, shown, row, hrow, hload, rfl, rfl⟩
  have hown := hrow.trans (branchForWrite_manager hrole hbranch)
  exact .ok (.newConsumable h rfl row hown shown hload i j)

theorem getConsumable_indistinct (h : AgreeOn claims.branch s t)
    (hreach : reachedConsumable claims s segment = reachedConsumable claims t segment)
    {endpoint : Option Endpoint} :
    Paired (Indistinct claims.branch endpoint id) (getConsumable claims s segment)
      (getConsumable claims t segment) := by
  rw [getConsumable, getConsumable, hreach]
  exact .bind_same fun _ _ => .ok (.same _ h)

theorem updateConsumable_indistinct (h : AgreeOn claims.branch s t) (hs : s.Keyed) (ht : t.Keyed)
    (hrole : claims.role = Role.manager.tag)
    (hreach : reachedConsumable claims s segment = reachedConsumable claims t segment)
    {endpoint : Option Endpoint} :
    Paired (Indistinct claims.branch endpoint id) (updateConsumable ctx claims s segment req)
      (updateConsumable ctx claims t segment req) := by
  rw [updateConsumable, updateConsumable, hreach]
  refine .bind_same fun existing hexisting => .bind_same fun sent _ => ?_
  obtain ⟨htfound, hown⟩ := reachedConsumable_own hrole hexisting
  obtain ⟨hsfound, -⟩ := reachedConsumable_own hrole (hreach.trans hexisting)
  rw [branchForWrite_same h]
  refine .bind_same fun branch hbranch => ?_
  refine .bind (orExplain_paired (h.updateConsumable hs ht ctx.now hsfound htfound hown
    (branchForWrite_manager hrole hbranch)) _) ?_
  rintro ⟨row, s'⟩ ⟨_, t'⟩ ⟨rfl, hagree⟩
  exact .bind_same fun _ _ => .ok (.same _ hagree)

theorem deleteConsumable_indistinct (h : AgreeOn claims.branch s t)
    (hrole : claims.role = Role.manager.tag)
    (hreach : reachedConsumable claims s segment = reachedConsumable claims t segment)
    {endpoint : Option Endpoint} :
    Paired (Indistinct claims.branch endpoint id) (deleteConsumable claims s segment)
      (deleteConsumable claims t segment) := by
  rw [deleteConsumable, deleteConsumable, hreach]
  refine .bind_same fun existing hexisting => ?_
  obtain ⟨htfound, -⟩ := reachedConsumable_own hrole hexisting
  obtain ⟨hsfound, -⟩ := reachedConsumable_own hrole (hreach.trans hexisting)
  refine .bind (orRefuse_paired (h.deleteConsumable hsfound htfound) ..) ?_
  intro s' t' hagree
  exact .ok (.same _ hagree)

end

/-! ## All endpoints -/

section
variable {claims : Claims} {s t : Store} {ctx : Context} {req : Request} {segment : Text}

theorem dashboard_indistinct (h : AgreeOn claims.branch s t)
    (hrole : claims.role = Role.manager.tag) {endpoint : Option Endpoint} :
    Paired (Indistinct claims.branch endpoint id) (dashboard claims s req)
      (dashboard claims t req) := by
  simp only [dashboard, isAdmin_manager hrole, Bool.false_and, Bool.false_eq_true, if_false]
  split
  · exact .ok (.same _ h)
  · refine .bind_same fun branch hbranch => ?_
    obtain ⟨rfl, -⟩ := listedBranch_manager hrole hbranch
    rw [h.branchCounts]
    exact .bind_same fun _ _ => .ok (.same _ h)

/-- Every endpoint that a manager may ask for. -/
theorem serve_indistinct (h : AgreeOn claims.branch s t) (hs : s.Keyed) (ht : t.Keyed)
    (hrole : claims.role = Role.manager.tag) (endpoint : Endpoint)
    (haccess : endpoint.access ≠ .admin)
    (hloads : ∀ table, endpoint.rowTable = some table → ∀ id,
      readInt64 segment.toChars = some id →
      s.LoadsElsewhere claims.branch table id ∧ t.LoadsElsewhere claims.branch table id) :
    Paired (Indistinct claims.branch (some endpoint) id) (serve ctx claims s req segment endpoint)
      (serve ctx claims t req segment endpoint) := by
  have hitem : endpoint.rowTable = some .items →
      reachedItem claims s segment = reachedItem claims t segment := fun htable =>
    reachedItem_same h hs ht hrole (hloads .items htable)
  have hconsumable : endpoint.rowTable = some .consumables →
      reachedConsumable claims s segment = reachedConsumable claims t segment := fun htable =>
    reachedConsumable_same h hs ht hrole (hloads .consumables htable)
  cases endpoint with
  | login => exact login_indistinct h
  | leaveRequest => exact leaveRequest_indistinct h
  | me => exact me_indistinct h
  | changePassword => exact changePassword_indistinct h
  | logout => exact logout_indistinct h
  | listBranches => exact listBranches_indistinct h
  | getBranch => exact getBranch_indistinct h
  | uploadPhoto => exact uploadPhoto_indistinct h
  | getPhoto => exact getPhoto_indistinct h
  | listItems => exact listItems_indistinct h hrole
  | createItem => exact createItem_indistinct h hrole
  | exportItems => exact exportItems_indistinct h hrole
  | getItem => exact getItem_indistinct h (hitem rfl)
  | updateItem => exact updateItem_indistinct h hs ht hrole (hitem rfl)
  | deleteItem => exact deleteItem_indistinct h hrole (hitem rfl)
  | listConsumables => exact listConsumables_indistinct h hrole
  | createConsumable => exact createConsumable_indistinct h hs ht hrole
  | getConsumable => exact getConsumable_indistinct h (hconsumable rfl)
  | updateConsumable => exact updateConsumable_indistinct h hs ht hrole (hconsumable rfl)
  | deleteConsumable => exact deleteConsumable_indistinct h hrole (hconsumable rfl)
  | listDeliveries => exact listDeliveries_indistinct h
  | getDelivery => exact getDelivery_indistinct h
  | dashboard => exact dashboard_indistinct h hrole
  -- all other endpoints are for administrators
  | _ => exact absurd rfl haccess

theorem authenticate_same {branch : Text} (h : AgreeOn branch s t) :
    authenticate ctx s req = authenticate ctx t req := by
  simp only [authenticate, h.isRevoked]

theorem guarded_indistinct (h : AgreeOn claims.branch s t) (hs : s.Keyed) (ht : t.Keyed)
    (hauth : authenticate ctx s req = .ok claims) (hrole : claims.role = Role.manager.tag)
    (endpoint : Endpoint)
    (hloads : ∀ table, endpoint.rowTable = some table → ∀ id,
      readInt64 segment.toChars = some id →
      s.LoadsElsewhere claims.branch table id ∧ t.LoadsElsewhere claims.branch table id) :
    Paired (Indistinct claims.branch (some endpoint) id) (guarded ctx s req endpoint segment)
      (guarded ctx t req endpoint segment) := by
  have htauth : authenticate ctx t req = .ok claims := (authenticate_same h).symm.trans hauth
  cases haccess : endpoint.access with
  | anyone =>
    simp only [guarded, haccess]
    cases endpoint with
    | login => exact login_indistinct h
    | leaveRequest => exact leaveRequest_indistinct h
    | _ => cases haccess
  | signedIn | manager =>
    simp only [guarded, haccess, hauth, htauth]
    refine .bind_same fun _ hclaims => ?_
    cases hclaims
    refine .bind_same fun _ _ => serve_indistinct h hs ht hrole endpoint (by simp [haccess]) hloads
  | admin =>
    simp only [guarded, haccess, hauth, htauth]
    refine .bind_same fun _ hclaims => ?_
    cases hclaims
    simp only [requireAccess, admits_manager hrole]
    exact .error _

theorem dispatch_indistinct (h : AgreeOn claims.branch s t) (hs : s.Keyed) (ht : t.Keyed)
    (hauth : authenticate ctx s req = .ok claims) (hrole : claims.role = Role.manager.tag)
    (hloads : ∀ table id, namedRow req = some (table, id) →
      s.LoadsElsewhere claims.branch table id ∧ t.LoadsElsewhere claims.branch table id) :
    Paired (Indistinct claims.branch ((asksFor req).map (·.1)) id) (dispatch ctx s req)
      (dispatch ctx t req) := by
  simp only [dispatch]
  split
  · exact .error _
  split
  · exact .error _
  split
  · next endpoint segment hroute =>
    have hasks : asksFor req = some (endpoint, segment) := hroute
    rw [hasks]
    refine guarded_indistinct h hs ht hauth hrole endpoint ?_
    intro table htable id hid
    apply hloads
    simp only [namedRow, hasks, Option.bind_some, htable, hid, Option.map_some]
  · split
    · exact .error _
    · exact .error _

theorem handle_eq (ctx : Context) (s : Store) (req : Request) :
    handle ctx s req = match dispatch ctx s req with
      | .ok (response, s) => (answered req response, s)
      | .error response => (answered req response, s) := by
  unfold handle
  cases dispatch ctx s req <;> rfl

/-- What someone who manages a branch is told, and what becomes of the branch, does not depend on
the items and consumables of other branches, as long as a row that the request names by its id is
not a damaged one of another branch. -/
theorem handle_indistinct (ctx : Context) (req : Request) (claims : Claims) (s t : Store)
    (hs : s.Keyed) (ht : t.Keyed) (h : AgreeOn claims.branch s t)
    (hauth : authenticate ctx s req = .ok claims) (hrole : claims.role = Role.manager.tag)
    (hloads : ∀ table id, namedRow req = some (table, id) →
      s.LoadsElsewhere claims.branch table id ∧ t.LoadsElsewhere claims.branch table id) :
    Indistinct claims.branch ((asksFor req).map (·.1)) (answered req) (handle ctx s req)
      (handle ctx t req) := by
  have hdispatch := dispatch_indistinct h hs ht hauth hrole hloads
  rw [handle_eq, handle_eq]
  generalize dispatch ctx s req = x at hdispatch
  generalize dispatch ctx t req = y at hdispatch
  cases hdispatch with
  | error response => exact .same _ h
  | ok hanswers =>
    cases hanswers with
    | same response hagree => exact .same _ hagree
    | newItem hagree hendpoint row hrow i j => exact .newItem hagree hendpoint row hrow i j
    | newConsumable hagree hendpoint row hrow shown hshown i j =>
      exact .newConsumable hagree hendpoint row hrow shown hshown i j

end

/-! ## Requests with a token -/

theorem after?_append (start t : Text) : Text.after? start (start ++ t) = some t := by
  rw [Text.after?, if_pos (by simp), List.drop_left]

theorem isHeaderName_self (name : String) : Request.isHeaderName name (Text.ofString name) = true := by
  have hlower : name.toLower.toList = name.toList.map Char.toLower := String.toList_map
  simp [Request.isHeaderName, Text.ofString, Text.ofChars, hlower]

theorem header_authorization {req : Request} {value : Text}
    (h : req.headers = [(Text.ofString "Authorization", value)]) : req.header "Authorization" = value := by
  have hname := isHeaderName_self "Authorization"
  simp [Request.header, h, hname]

section
variable {ctx : Context} {s : Store} {req : Request} {claims : Claims}

theorem after?_bearer {token : Text}
    (h : req.headers = [(Text.ofString "Authorization", Text.ofString "Bearer " ++ token)]) :
    Text.after? "Bearer " (req.header "Authorization") = some token := by
  rw [header_authorization h]
  exact after?_append _ _

variable (hheaders : req.headers =
    [(Text.ofString "Authorization", Text.ofString "Bearer " ++ Token.sign ctx.secret claims)])
  (hcontent : Token.claimsOf (Token.encodePart claims.toJson) = some claims)
include hheaders hcontent

/-- A token that is signed with the secret is accepted at a time at which it has no fault. -/
theorem authenticate_signed (hfault : Token.fault claims ctx.now = none)
    (hrevoked : s.isRevoked claims.id = .ok false) : authenticate ctx s req = .ok claims := by
  rw [authenticate, after?_bearer hheaders]
  simp only [Token.validate_sign hcontent, hfault, Option.elim_none, hrevoked]

/-- A token is refused at a time at which it has a fault, though it is signed with the secret. -/
theorem authenticate_faulty {e : Token.TokenError} (hfault : Token.fault claims ctx.now = some e) :
    authenticate ctx s req = refuse 401 "invalid token" := by
  rw [authenticate, after?_bearer hheaders]
  simp only [Token.validate_sign hcontent, hfault, Option.elim_some]

end

/-! ## A damaged row of another branch -/

/-- Someone who manages branch B. -/
def managerOfB : Claims :=
  { role := Role.manager.tag, branch := "B", issuer := tokenIssuer, expiry := some 9 }

def earlyContext : Context := { secret := [], now := { unix := 0 }, tokenId := [] }

/-- The manager of B asks for the first item. -/
def requestFromB : Request :=
  { method := "GET", target := "/api/inventory-items/1"
    headers := [("Authorization", "Bearer " ++ Token.sign earlyContext.secret managerOfB)] }

/-- The first item is one of branch A. -/
def storeOfA : Store := { items := [{ id := 1, kind := "pc", branch := "A", assetName := "PC-A" }] }

theorem storeOfA_keyed : storeOfA.Keyed where
  distinct := by rintro ⟨⟩ <;> decide
  damaged := fun _ _ hmark => nomatch hmark

theorem storeOfA_hidden : AgreeOn managerOfB.branch storeOfA {} := by
  constructor <;> first | rfl | decide | exact fun _ _ _ => rfl

theorem storeOfA_damage_hidden :
    AgreeOn managerOfB.branch storeOfA (storeOfA.corrupt .items 1) := by
  constructor <;> first | rfl | decide | skip
  rintro ⟨⟩ htable id <;> first | rfl | cases htable

theorem requestFromB_authenticated :
    authenticate earlyContext storeOfA requestFromB = .ok managerOfB :=
  authenticate_signed rfl (by decide +kernel) (by decide) rfl

theorem requestFromB_names : namedRow requestFromB = some (.items, 1) := by decide +kernel

theorem requestFromB_loads (table : TableName) (id : Int)
    (h : namedRow requestFromB = some (table, id)) :
    storeOfA.LoadsElsewhere managerOfB.branch table id ∧
      Store.LoadsElsewhere {} managerOfB.branch table id := by
  rw [requestFromB_names] at h
  cases h
  exact ⟨fun _ _ _ _ => rfl, fun _ hrow => nomatch hrow⟩

/-- Whether the item of branch A is there makes no difference to the manager of B. -/
theorem storeOfA_indistinct :
    Indistinct managerOfB.branch ((asksFor requestFromB).map (·.1)) (answered requestFromB)
      (handle earlyContext storeOfA requestFromB) (handle earlyContext {} requestFromB) :=
  handle_indistinct earlyContext requestFromB managerOfB storeOfA {} storeOfA_keyed
    Store.keyed_empty storeOfA_hidden requestFromB_authenticated rfl requestFromB_loads

theorem requestFromB_served {s : Store}
    (hauth : authenticate earlyContext s requestFromB = .ok managerOfB) :
    dispatch earlyContext s requestFromB =
      serve earlyContext managerOfB s requestFromB "1" .getItem := by
  have hstar : (requestFromB.target == Text.ofString "*") = false := by decide +kernel
  have hclean : (cleanPath requestFromB.asked.path != requestFromB.asked.path) = false := by
    decide +kernel
  have hroute : findRoute requestFromB.method (pathSegments requestFromB.asked.path) =
      some (Endpoint.getItem, Text.ofString "1") := by decide +kernel
  simp only [dispatch, hstar, hclean, hroute, Bool.false_and, Bool.false_eq_true, if_false,
    guarded, Endpoint.access, hauth]
  rfl

/-- Damage to the item of branch A shows: it cannot be loaded, which is found out before its branch
is. -/
theorem storeOfA_damage_shown :
    storeOfA.Keyed ∧ (storeOfA.corrupt .items 1).Keyed ∧
      AgreeOn managerOfB.branch storeOfA (storeOfA.corrupt .items 1) ∧
      authenticate earlyContext storeOfA requestFromB = .ok managerOfB ∧
      managerOfB.role = Role.manager.tag ∧
      (handle earlyContext storeOfA requestFromB).1.status = 404 ∧
      (handle earlyContext (storeOfA.corrupt .items 1) requestFromB).1.status = 500 := by
  have hauth := (authenticate_same storeOfA_damage_hidden).symm.trans requestFromB_authenticated
  have hsound : dispatch earlyContext storeOfA requestFromB =
      .error (.failure 404 "inventory item not found") :=
    requestFromB_served requestFromB_authenticated
  have hdamaged : dispatch earlyContext (storeOfA.corrupt .items 1) requestFromB =
      .error (.failure 500 "failed to get inventory item") := requestFromB_served hauth
  refine ⟨storeOfA_keyed, Store.corrupt_keyed storeOfA_keyed .items 1, storeOfA_damage_hidden,
    requestFromB_authenticated, rfl, ?_, ?_⟩
  · rw [handle_eq, hsound]
    rfl
  · rw [handle_eq, hdamaged]
    rfl

end Api
end Stockroom

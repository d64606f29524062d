import Stockroom.Proofs.Api.Authority
import Stockroom.Proofs.Api.Integrity
import Stockroom.Proofs.Api.Standing

/-!
Whoever is refused finds the store as it was, and whoever only asks changes nothing. A refusal carries
no store, so what there is to show is that an endpoint which has written does not answer with a
refusal. One of them does: the change of an account reads the account again after it was written, and
an account that cannot be loaded is then said not to be there.

Main definitions and statements:
* `Grants`, `serve_grants`: what an endpoint answers after it has written is a success;
* `updateAccount_atomic`: so it is after the change of an account that can be loaded;
* `Act.of_reading`: what is asked for with `GET` changes nothing;
* `handle_atomic`: both for every request;
* `damagedManager_promoted`: a damaged account that is changed by a refused request.
-/
namespace Stockroom
set_option autoImplicit false

namespace Api

/-! ## Answers that are successes -/

/-- Whatever is answered, rather than refused, is a success. -/
def Grants (outcome : Outcome) : Prop :=
  ∀ response s', outcome = .ok (response, s') → response.status < 400

namespace Grants

theorem done (response : Response) (s : Store) (h : response.status = 200) :
    Grants (pure (response, s)) := by
  rintro _ _ ⟨⟩
  rw [h]
  decide

theorem created (response : Response) (s : Store) (h : response.status = 201) :
    Grants (pure (response, s)) := by
  rintro _ _ ⟨⟩
  rw [h]
  decide

theorem error (response : Response) : Grants (.error response) := by
  intro _ _ h
  cases h

theorem bind {α : Type} {x : Except Response α} {f : α → Outcome} (h : ∀ a, Grants (f a)) :
    Grants (x >>= f) := by
  intro response s' houtcome
  obtain ⟨a, -, hnext⟩ := bind_eq_ok.mp houtcome
  exact h a response s' hnext

end Grants

section
variable {ctx : Context} {claims : Claims} {s : Store} {req : Request} {segment : Text}

theorem login_grants : Grants (login ctx s req) := by
  refine .bind fun sent => ?_
  split
  · exact .error _
  refine .bind fun found => ?_
  cases found with
  | none => exact .error _
  | some account =>
    simp only
    split
    · exact .error _
    · exact .done _ _ rfl

theorem me_grants : Grants (me claims s) := by
  refine .bind fun found => ?_
  cases found with
  | none => exact .error _
  | some account =>
    simp only
    split
    · exact .error _
    · exact .done _ _ rfl

theorem changePassword_grants : Grants (changePassword claims s req) := by
  refine .bind fun sent => ?_
  split
  · exact .error _
  refine .bind fun _ => .bind fun found => ?_
  cases found with
  | none => exact .error _
  | some account =>
    simp only
    split
    · exact .error _
    · exact .bind fun _ => .bind fun _ => .done _ _ rfl

theorem createAccount_grants : Grants (createAccount ctx s req) := by
  refine .bind fun sent => ?_
  split
  · exact .error _
  · exact .bind fun _ => .bind fun _ => .bind fun _ => .bind fun _ => .created _ _ rfl

theorem resetPassword_grants : Grants (resetPassword s segment req) := by
  refine .bind fun id => .bind fun sent => ?_
  split
  · exact .error _
  · exact .bind fun _ => .bind fun _ => .bind fun _ => .bind fun _ => .done _ _ rfl

theorem deleteAccount_grants : Grants (deleteAccount ctx claims s segment) := by
  refine .bind fun id => ?_
  split
  · exact .error _
  · exact .bind fun _ => .done _ _ rfl

theorem updateBranch_grants : Grants (updateBranch s segment req) := by
  refine .bind fun id => .bind fun sent => .bind fun _ => .bind fun _ => .bind fun after => ?_
  split
  · exact .done _ _ rfl
  · exact .done _ _ rfl

theorem deleteBranch_grants : Grants (deleteBranch ctx s segment) := by
  refine .bind fun id => .bind fun _ => ?_
  split
  · exact .done _ _ rfl
  · exact .error _
  · exact .error _

theorem uploadPhoto_grants : Grants (uploadPhoto claims s segment req) := by
  refine .bind fun id => .bind fun branch => ?_
  split
  · exact .error _
  · exact .bind fun _ => .bind fun _ => .done _ _ rfl

theorem getPhoto_grants : Grants (getPhoto s segment) := by
  refine .bind fun id => .bind fun found => .bind fun photo => ?_
  split
  · exact .error _
  · exact .done _ _ rfl

theorem listItems_grants : Grants (listItems claims s req) := by
  refine .bind fun branch => ?_
  simp only
  split
  · exact .error _
  · exact .bind fun _ => .done _ _ rfl

theorem exportItems_grants : Grants (exportItems ctx claims s req) := by
  refine .bind fun branch => ?_
  split
  · exact .error _
  · refine .bind fun rows => ?_
    split
    · exact .error _
    · exact .done _ _ rfl

theorem listConsumables_grants : Grants (listConsumables claims s req) := by
  refine .bind fun branch => ?_
  simp only
  split
  · exact .error _
  · exact .bind fun _ => .done _ _ rfl

theorem listDeliveries_grants : Grants (listDeliveries s req) := by
  simp only [listDeliveries]
  split
  · exact .error _
  · exact .bind fun _ => .done _ _ rfl

theorem deleteRequest_grants : Grants (deleteRequest s segment) := by
  refine .bind fun id => .bind fun found => ?_
  simp only
  split
  · exact .error _
  · exact .done _ _ rfl

theorem dashboard_grants : Grants (dashboard claims s req) := by
  simp only [dashboard]
  split
  · exact .bind fun _ => .done _ _ rfl
  · split
    · exact .done _ _ rfl
    · exact .bind fun _ => .bind fun _ => .done _ _ rfl

theorem serve_grants {endpoint : Endpoint} (h : endpoint ≠ .updateAccount) :
    Grants (serve ctx claims s req segment endpoint) := by
  cases endpoint with
  | updateAccount => exact absurd rfl h
  | login => exact login_grants
  | me => exact me_grants
  | changePassword => exact changePassword_grants
  | createAccount => exact createAccount_grants
  | resetPassword => exact resetPassword_grants
  | deleteAccount => exact deleteAccount_grants
  | updateBranch => exact updateBranch_grants
  | deleteBranch => exact deleteBranch_grants
  | uploadPhoto => exact uploadPhoto_grants
  | getPhoto => exact getPhoto_grants
  | listItems => exact listItems_grants
  | exportItems => exact exportItems_grants
  | listConsumables => exact listConsumables_grants
  | listDeliveries => exact listDeliveries_grants
  | deleteRequest => exact deleteRequest_grants
  | dashboard => exact dashboard_grants
  -- nothing but look-ups, checks and one call of the store
  | logout | listAccounts | listBranches | getItem | getConsumable | listRequests
  | deleteAllRequests | getDelivery => exact .bind fun _ => .done _ _ rfl
  | deleteItem | deleteConsumable | deleteDelivery => exact .bind fun _ => .bind fun _ => .done _ _ rfl
  | leaveRequest | createBranch | createDelivery =>
    exact .bind fun _ => .bind fun _ => .created _ _ rfl
  | getAccount | getBranch => exact .bind fun _ => .bind fun _ => .bind fun _ => .done _ _ rfl
  | createItem | createConsumable =>
    exact .bind fun _ => .bind fun _ => .bind fun _ => .created _ _ rfl
  | updateDelivery =>
    exact .bind fun _ => .bind fun _ => .bind fun _ => .bind fun _ => .done _ _ rfl
  | updateItem | updateConsumable =>
    exact .bind fun _ => .bind fun _ => .bind fun _ => .bind fun _ => .bind fun _ => .done _ _ rfl

end

/-! ## The account that is read again -/

section
variable {claims : Claims} {s s' : Store} {req : Request} {segment : Text} {response : Response}

theorem activeAccount_found {id : Int} {r : Account} (hs : s.Keyed) (hr : r ∈ s.accounts)
    (hid : r.id = id) (hactive : r.isActive = true)
    (hreadable : s.readable [.accounts] "getting user" = .ok ())
    (hwhole : (TableName.accounts, id) ∉ s.faults.unreadable) : activeAccount s id = .ok r := by
  have hfind : s.accounts.find? (·.id == id) = some r := by
    cases hfound : s.accounts.find? (·.id == id) with
    | none =>
      have hnone := List.find?_eq_none.mp hfound r hr
      simp [hid] at hnone
    | some other =>
      have hother : other.id = id := by simpa using List.find?_some hfound
      rw [List.inj_on_of_nodup_map (hs.distinct .accounts) (List.mem_of_find?_eq_some hfound) hr
        (hother.trans hid.symm)]
  have hload : s.loadable .accounts r.id "getting user" = .ok () := by
    rw [hid, Store.loadable, if_neg]
    rwa [List.contains_iff_mem]
  have hlookup : s.account? id = .ok (some r) := by
    simp only [Store.account?, hreadable, hfind, Store.loadAccount, hload]
    rfl
  simp only [activeAccount, hlookup, orRefuse, orMissing]
  exact if_pos hactive

theorem updateAccount_readable {id : Int} {role branch : Text}
    (h : s.updateAccount id role branch = .ok s') (activity : Text) :
    s.readable [.accounts] activity = .ok () := by
  obtain ⟨_, hwritable, -⟩ := bind_eq_ok.mp h
  obtain ⟨_, hreadable, -⟩ := bind_eq_ok.mp hwritable
  unfold Store.readable at hreadable ⊢
  split at hreadable
  · cases hreadable
  · next hthere => rw [if_neg hthere]

theorem mapAccount_absent {id : Int} (change : Account → Account)
    (h : ¬∃ r ∈ s.accounts, r.id = id ∧ r.isActive = true) : s.mapAccount id change = s := by
  have hrows : s.accounts.map (fun r => if r.id == id && r.isActive then change r else r) =
      s.accounts := by
    conv_rhs => rw [← List.map_id s.accounts]
    apply List.map_congr_left
    intro r hr
    refine if_neg fun hwanted => h ⟨r, hr, ?_⟩
    simpa using hwanted
  simp only [Store.mapAccount, hrows]

/-- An account that was changed and can be loaded is found again, so a refusal means that there was
none to change. -/
theorem updateAccount_atomic (hs : s.Keyed)
    (hwhole : ∀ id, readInt64 segment.toChars = some id →
      (TableName.accounts, id) ∉ s.faults.unreadable)
    (h : updateAccount claims s segment req = .ok (response, s')) (hstatus : 400 ≤ response.status) :
    s' = s := by
  obtain ⟨id, hid, h⟩ := bind_eq_ok.mp h
  obtain ⟨sent, -, h⟩ := bind_eq_ok.mp h
  obtain ⟨branch, hbranch, h⟩ := bind_eq_ok.mp h
  split at h
  · cases h
  obtain ⟨after, hupdate, h⟩ := bind_eq_ok.mp h
  have hupdate := orRefuse_eq_ok hupdate
  have hreadable := updateAccount_readable hupdate "getting user"
  obtain ⟨hrole, rfl⟩ := Store.updateAccount_effect hupdate
  by_cases hactive : ∃ r ∈ s.accounts, r.id = id ∧ r.isActive = true
  · obtain ⟨r, hr, hrid, hractive⟩ := hactive
    have hchanged : ({ r with role := sent.role, branch } : Account) ∈
        (s.mapAccount id fun r => { r with role := sent.role, branch }).accounts :=
      changed_mem_map_if hr (by simp [hrid, hractive])
    have hkeyed := (Store.Change.setRole id sent.role branch hrole).keyed hs
    rw [activeAccount_found hkeyed hchanged hrid hractive hreadable
      (hwhole id (idOf_eq_ok hid))] at h
    cases h
    change 400 ≤ 200 at hstatus
    omega
  · have hsame := mapAccount_absent (fun r => { r with role := sent.role, branch }) hactive
    split at h
    · cases h
      exact hsame
    · cases h
      exact hsame

end

/-! ## Requests that only ask -/

/-- What is asked for with `GET`. -/
def Endpoint.reads : Endpoint → Bool
  | .me | .listAccounts | .getAccount | .listBranches | .getBranch | .getPhoto | .listItems
  | .exportItems | .getItem | .listConsumables | .getConsumable | .listRequests | .listDeliveries
  | .getDelivery | .dashboard => true
  | _ => false

section
variable {claims : Claims} {s s' : Store} {req : Request} {endpoint : Endpoint} {segment : Text}

theorem Act.of_reading (act : Act claims s endpoint s') (h : endpoint.reads = true) : s' = s := by
  cases act with
  | same => rfl
  | _ => cases h

theorem asksFor_reading (hmethod : req.method = "GET" ∨ req.method = "HEAD")
    (h : asksFor req = some (endpoint, segment)) : endpoint.reads = true := by
  have hget : asksFor req = routeOf "GET" (pathSegments req.asked.path) := by
    rcases hmethod with hmethod | hmethod
    · rw [asksFor, hmethod]
      rfl
    · rw [asksFor, hmethod]
      rfl
  have hreads : ∀ route ∈ routes, route.method = "GET" → route.endpoint.reads = true := by decide
  obtain ⟨route, hroute, hmethod, rfl, -⟩ := routeOf_some (hget.symm.trans h)
  exact hreads route hroute hmethod

end

/-! ## All requests -/

/-- The account to which a request gives a role and a branch. -/
def changedAccount (req : Request) : Option Int :=
  (asksFor req).bind fun (endpoint, segment) =>
    if endpoint = .updateAccount then readInt64 segment.toChars else none

/-- A request that is answered with a refusal has left the store as it was, unless it is for a change
of an account that cannot be loaded. A request that only asks leaves it so whatever it is answered. -/
theorem handle_atomic (ctx : Context) (s : Store) (req : Request) (hs : s.Keyed) :
    ((∀ id, changedAccount req = some id → (TableName.accounts, id) ∉ s.faults.unreadable) →
      400 ≤ (handle ctx s req).1.status → (handle ctx s req).2 = s) ∧
    (req.method = "GET" ∨ req.method = "HEAD" → (handle ctx s req).2 = s) := by
  constructor
  · intro hwhole hstatus
    rw [handle_eq] at hstatus ⊢
    cases hdispatch : dispatch ctx s req with
    | error response => rfl
    | ok answer =>
      obtain ⟨response, s'⟩ := answer
      rw [hdispatch] at hstatus
      have hrefused : 400 ≤ response.status := hstatus
      obtain ⟨claims, endpoint, segment, hasks, hserve⟩ := dispatch_served hdispatch
      by_cases hendpoint : endpoint = .updateAccount
      · subst hendpoint
        refine updateAccount_atomic hs (fun id hid => hwhole id ?_) hserve hrefused
        rw [changedAccount, hasks]
        exact hid
      · have hgranted := serve_grants hendpoint response s' hserve
        omega
  · intro hmethod
    have step := handle_step ctx s req
    generalize (handle ctx s req).2 = s' at step ⊢
    cases step with
    | refused => rfl
    | unguarded endpoint segment hasks haccess act =>
      exact act.of_reading (asksFor_reading hmethod hasks)
    | admitted claims endpoint segment hasks hcaller haccess act =>
      exact act.of_reading (asksFor_reading hmethod hasks)

/-! ## A damaged account -/

/-- The status of an answer or a refusal. -/
def statusOf : Outcome → Nat
  | .ok (response, _) => response.status
  | .error response => response.status

theorem handle_status {ctx : Context} {claims : Claims} {s : Store} {req : Request}
    {endpoint : Endpoint} {segment : Text} (htarget : (req.target == Text.ofString "*") = false)
    (hclean : (cleanPath req.asked.path != req.asked.path) = false)
    (hasks : asksFor req = some (endpoint, segment)) (hguarded : endpoint.access ≠ .anyone)
    (hcaller : caller ctx s req = some claims) (hadmits : endpoint.access.admits claims = true) :
    (handle ctx s req).1.status = statusOf (serve ctx claims s req segment endpoint) := by
  have hjudged : dispatch ctx s req = serve ctx claims s req segment endpoint := by
    rw [dispatch_judged htarget hclean hasks hguarded (toOption_eq_some.mp hcaller), judged,
      requireAccess, if_pos hadmits]
    rfl
  rw [handle_eq, hjudged]
  cases serve ctx claims s req segment endpoint <;> rfl

/-- The first administrator makes an account that of an administrator. -/
def promotion (target : Text) : Request :=
  signed asFirst "PUT" target "\x7b\"role\":\"admin\"\x7d".toList

/-- There is no third account, which is said, and nothing has changed. -/
theorem branchOfManager_refused :
    branchOfManager.Keyed ∧
      (handle earlyContext branchOfManager (promotion "/api/users/3")).1.status = 404 ∧
      (handle earlyContext branchOfManager (promotion "/api/users/3")).2 = branchOfManager := by
  have hasks : asksFor (promotion "/api/users/3") =
      some (Endpoint.updateAccount, Text.ofString "3") := by decide +kernel
  have hcaller : caller earlyContext branchOfManager (promotion "/api/users/3") = some asFirst :=
    signed_caller asFirst_valid rfl
  have hstatus : (handle earlyContext branchOfManager (promotion "/api/users/3")).1.status = 404 := by
    rw [handle_status (by decide) (by decide) hasks (by decide) hcaller (by decide)]
    decide +kernel
  refine ⟨branchOfManager_keyed, hstatus, ?_⟩
  refine (handle_atomic earlyContext branchOfManager _ branchOfManager_keyed).1 ?_ ?_
  · exact fun _ _ hmark => nomatch hmark
  · rw [hstatus]
    decide

/-- The account of the manager cannot be loaded. -/
def damagedManager : Store := branchOfManager.corrupt .accounts 2

/-- The manager of B is said not to be there, and is an administrator all the same. -/
theorem damagedManager_promoted :
    damagedManager.Keyed ∧
      (handle earlyContext damagedManager (promotion "/api/users/2")).1.status = 404 ∧
      (handle earlyContext damagedManager (promotion "/api/users/2")).2 ≠ damagedManager := by
  have htarget : ((promotion "/api/users/2").target == Text.ofString "*") = false := by decide
  have hclean : (cleanPath (promotion "/api/users/2").asked.path !=
      (promotion "/api/users/2").asked.path) = false := by decide
  have hasks : asksFor (promotion "/api/users/2") =
      some (Endpoint.updateAccount, Text.ofString "2") := by decide +kernel
  have hcaller : caller earlyContext damagedManager (promotion "/api/users/2") = some asFirst :=
    signed_caller asFirst_valid rfl
  refine ⟨Store.corrupt_keyed branchOfManager_keyed .accounts 2, ?_, ?_⟩
  · rw [handle_status htarget hclean hasks (by decide) hcaller (by decide)]
    decide +kernel
  · have hstore : (handle earlyContext damagedManager (promotion "/api/users/2")).2 =
        damagedManager.mapAccount 2 fun r => { r with role := Role.admin.tag, branch := [] } :=
      handle_admitted htarget hclean hasks (by decide) hcaller (by decide) (by decide +kernel)
    rw [hstore]
    intro hsame
    have hcount := congrArg Store.adminCount hsame
    revert hcount
    decide

end Api
end Stockroom

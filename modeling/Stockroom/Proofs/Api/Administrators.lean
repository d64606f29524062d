import Stockroom.Proofs.Api.Run

/-!
Administrators. Nobody takes away their own rights, so whoever is an administrator is still one after
a request of their own. A token says what its account was when it was issued, and is valid until it
expires whatever becomes of the account: with such a token the last administrator can be deleted.

Main definitions and statements:
* `Store.HasAdmin`, `Act.keeps_admin`: an administrator stays one through their own requests;
* `handleAll_keeps_admin`: an administrator is left as long as administrators lose their rights only
  to administrators;
* `twoAdmins_lost`: two administrators who delete each other.
-/
namespace Stockroom
set_option autoImplicit false

namespace Store

/-- The account is an active administrator. -/
def HasAdmin (s : Store) (id : Int) : Prop :=
  ∃ r ∈ s.accounts, r.id = id ∧ r.isActive = true ∧ r.role = Role.admin.tag

instance (s : Store) (id : Int) : Decidable (s.HasAdmin id) :=
  inferInstanceAs
    (Decidable (∃ r ∈ s.accounts, r.id = id ∧ r.isActive = true ∧ r.role = Role.admin.tag))

section
variable {s : Store} {id : Int}

theorem HasAdmin.counted (h : s.HasAdmin id) : 1 ≤ s.adminCount := by
  obtain ⟨r, hr, -, hactive, hrole⟩ := h
  have hcounted : (r.role == Role.admin.tag && r.isActive) = true := by simp [hactive, hrole]
  exact List.countP_pos_iff.mpr ⟨r, hr, hcounted⟩

theorem HasAdmin.mapAccount {other : Int} {change : Account → Account} (h : s.HasAdmin id)
    (hchange : ∀ r : Account, r.id = id → id = other → r.role = Role.admin.tag →
      r.isActive = true → (change r).id = id ∧ (change r).isActive = true ∧
        (change r).role = Role.admin.tag) : (s.mapAccount other change).HasAdmin id := by
  obtain ⟨r, hr, hid, hactive, hrole⟩ := h
  refine ⟨_, List.mem_map_of_mem hr, ?_⟩
  split
  · next hwanted =>
    have hother : id = other := by
      rw [Bool.and_eq_true, beq_iff_eq] at hwanted
      exact hid.symm.trans hwanted.1
    exact hchange r hid hother hrole hactive
  · exact ⟨hid, hactive, hrole⟩

theorem HasAdmin.rename {branch : Int} {old name location : Text} (h : s.HasAdmin id) :
    (s.withBranch branch old name location).HasAdmin id := by
  obtain ⟨r, hr, hadmin⟩ := h
  refine ⟨_, List.mem_map_of_mem hr, ?_⟩
  split
  · exact hadmin
  · exact hadmin

end

end Store

namespace Api

section
variable {claims : Claims} {s s' : Store} {endpoint : Endpoint}

/-- Whatever administrators do, they stay administrators. -/
theorem Act.keeps_admin (act : Act claims s endpoint s') (h : s.HasAdmin claims.userId) :
    s'.HasAdmin claims.userId := by
  cases act with
  | createAccount row =>
    obtain ⟨r, hr, hadmin⟩ := h
    exact ⟨r, List.mem_append_left _ hr, hadmin⟩
  | updateAccount id role branch hassigned hself =>
    exact h.mapAccount fun r hid hown _ hactive => ⟨hid, hactive, hself hown⟩
  | deleteAccount id time hself => exact h.mapAccount fun r _ hown => absurd hown hself
  | changePassword hash => exact h.mapAccount fun r hid _ hrole hactive => ⟨hid, hactive, hrole⟩
  | resetPassword id hash => exact h.mapAccount fun r hid _ hrole hactive => ⟨hid, hactive, hrole⟩
  | updateBranch => exact h.rename
  -- no account is touched
  | same | leaveRequest | logout | createBranch | deleteBranch | uploadPhoto | createItem
  | updateItem | deleteItem | createConsumable | updateConsumable | deleteConsumable
  | createDelivery | updateDelivery | deleteDelivery | deleteRequest | deleteAllRequests => exact h

/-- Administrators lose their rights only to someone who is one. -/
def DemotedByAdmin (ctx : Context) (req : Request) (s s' : Store) : Prop :=
  s'.adminCount < s.adminCount →
    ∃ claims, caller ctx s req = some claims ∧ s.HasAdmin claims.userId

theorem Step.keeps_admin {ctx : Context} {req : Request} (step : Step ctx s req s')
    (h : 1 ≤ s.adminCount) (hby : DemotedByAdmin ctx req s s') : 1 ≤ s'.adminCount := by
  by_cases hless : s'.adminCount < s.adminCount
  · obtain ⟨claims, hcaller, hadmin⟩ := hby hless
    cases step with
    | refused => exact h
    | unguarded endpoint segment hasks haccess act =>
      cases act with
      | same | leaveRequest => exact h
      | _ => cases haccess
    | admitted other endpoint segment hasks hsome hadmits act =>
      obtain rfl : claims = other := Option.some.inj (hcaller.symm.trans hsome)
      exact (act.keeps_admin hadmin).counted
  · omega

end

/-- Some administrator is left, as long as administrators lose their rights only to someone who is
one at that moment. -/
theorem handleAll_keeps_admin (s : Store) (run : List (Context × Request))
    (hs : 1 ≤ s.adminCount) (hrun : Throughout DemotedByAdmin s run) :
    1 ≤ (handleAll s run).adminCount :=
  handleAll_keeps (P := fun s => 1 ≤ s.adminCount) DemotedByAdmin
    (fun ctx req s h hby => (handle_step ctx s req).keeps_admin h hby) s run hrun hs

/-! ## Signing in -/

section
variable {ctx : Context} {s : Store} {req : Request}

/-- A request that changes nothing and is answered with a token of the claims. -/
def SignsIn (ctx : Context) (s : Store) (req : Request) (claims : Claims) : Prop :=
  (∃ user, (handle ctx s req).1.body =
    .json (.object [Json.member "token" (.string (Token.sign ctx.secret claims)), user])) ∧
      (handle ctx s req).2 = s

theorem login_issues {sent : Credentials} {account : Account}
    (hsent : sentRecord Credentials.wireFields req = .ok sent)
    (hgiven : (sent.username.isEmpty || sent.password.isEmpty) = false)
    (hfound : s.accountNamed? sent.username = .ok (some account))
    (hknown : (!account.isActive || !account.passwordHash.fits sent.password.bytes) = false) :
    login ctx s req =
      .ok (.json 200 (.object
        [Json.member "token" (.string (Token.sign ctx.secret
          (Claims.ofAccount account ctx.tokenId ctx.now.unix))),
        Json.member "user" account.toJson]), s) := by
  refine bind_eq_ok.mpr ⟨sent, hsent, ?_⟩
  rw [if_neg (by simp [hgiven])]
  refine bind_eq_ok.mpr ⟨some account, by rw [hfound]; rfl, ?_⟩
  simp only
  rw [if_neg (by simp [hknown])]
  rfl

theorem signsIn_of_login {segment : Text} {sent : Credentials} {account : Account}
    (htarget : (req.target == Text.ofString "*") = false)
    (hclean : (cleanPath req.asked.path != req.asked.path) = false)
    (hasks : asksFor req = some (Endpoint.login, segment)) (hhead : isHead req.method = false)
    (hsent : sentRecord Credentials.wireFields req = .ok sent)
    (hgiven : (sent.username.isEmpty || sent.password.isEmpty) = false)
    (hfound : s.accountNamed? sent.username = .ok (some account))
    (hknown : (!account.isActive || !account.passwordHash.fits sent.password.bytes) = false) :
    SignsIn ctx s req (Claims.ofAccount account ctx.tokenId ctx.now.unix) := by
  have hserved : dispatch ctx s req = login ctx s req := dispatch_asked htarget hclean hasks
  rw [SignsIn, handle_eq, hserved, login_issues hsent hgiven hfound hknown]
  refine ⟨⟨Json.member "user" account.toJson, ?_⟩, rfl⟩
  simp only [answered, hhead, Bool.false_eq_true, if_false]
  rfl

end

/-! ## Two administrators -/

def secondAdmin : Account :=
  { id := 2, username := "second", role := Role.admin.tag
    passwordHash := .ofKey (Bcrypt.keyOf (Text.bytes "password2")) }

/-- What the token of the second administrator says. -/
def asSecond : Claims := Claims.ofAccount secondAdmin "2" earlyContext.now.unix

theorem asSecond_content : Token.claimsOf (Token.encodePart asSecond.toJson) = some asSecond :=
  Token.claimsOf_ofAccount 604800 0 (by decide) (by decide) readSeconds_zero

theorem asSecond_valid : caller earlyContext {} (signed asSecond "GET" "/" []) = some asSecond :=
  caller_signed rfl asSecond_content (by decide) rfl

def twoAdmins : Store := { accounts := [firstAdmin, secondAdmin] }

def loginOfFirst : Request :=
  { method := "POST", target := "/api/auth/login"
    body := .text "\x7b\"username\":\"first\",\"password\":\"password1\"\x7d".toList }

def loginOfSecond : Request :=
  { method := "POST", target := "/api/auth/login"
    body := .text "\x7b\"username\":\"second\",\"password\":\"password2\"\x7d".toList }

def firstContext : Context := { earlyContext with tokenId := "1" }

def secondContext : Context := { earlyContext with tokenId := "2" }

theorem loginOfFirst_signsIn : SignsIn firstContext twoAdmins loginOfFirst asFirst := by
  have hasks : asksFor loginOfFirst = some (Endpoint.login, []) := by decide +kernel
  have hsent : sentRecord Credentials.wireFields loginOfFirst = .ok ⟨"first", "password1"⟩ :=
    toOption_eq_some.mp (by decide +kernel)
  have hfound : twoAdmins.accountNamed? "first" = .ok (some firstAdmin) := rfl
  exact signsIn_of_login (by decide +kernel) (by decide +kernel) hasks (by decide) hsent (by decide)
    hfound (by decide +kernel)

theorem loginOfSecond_signsIn : SignsIn secondContext twoAdmins loginOfSecond asSecond := by
  have hasks : asksFor loginOfSecond = some (Endpoint.login, []) := by decide +kernel
  have hsent : sentRecord Credentials.wireFields loginOfSecond = .ok ⟨"second", "password2"⟩ :=
    toOption_eq_some.mp (by decide +kernel)
  have hfound : twoAdmins.accountNamed? "second" = .ok (some secondAdmin) := rfl
  exact signsIn_of_login (by decide +kernel) (by decide +kernel) hasks (by decide) hsent (by decide)
    hfound (by decide +kernel)

/-- The first administrator deletes the second. -/
def deletionByFirst : Request := signed asFirst "DELETE" "/api/users/2" []

/-- The second administrator deletes the first. -/
def deletionBySecond : Request := signed asSecond "DELETE" "/api/users/1" []

def firstLeft : Store :=
  { accounts := [firstAdmin, { secondAdmin with deletedAt := some { unix := 0 } }] }

def noneLeft : Store :=
  { accounts := [{ firstAdmin with deletedAt := some { unix := 0 } },
      { secondAdmin with deletedAt := some { unix := 0 } }] }

theorem deletionByFirst_caller : caller earlyContext twoAdmins deletionByFirst = some asFirst :=
  signed_caller asFirst_valid rfl

theorem deletionByFirst_deletes : (handle earlyContext twoAdmins deletionByFirst).2 = firstLeft := by
  have hasks : asksFor deletionByFirst = some (Endpoint.deleteAccount, Text.ofString "2") := by
    decide +kernel
  exact handle_admitted (by decide +kernel) (by decide +kernel) hasks (by decide)
    deletionByFirst_caller (by decide) (by decide +kernel)

/-- The token of the second administrator outlives the account. -/
theorem deletionBySecond_deletes : (handle earlyContext firstLeft deletionBySecond).2 = noneLeft := by
  have hasks : asksFor deletionBySecond = some (Endpoint.deleteAccount, Text.ofString "1") := by
    decide +kernel
  have hcaller : caller earlyContext firstLeft deletionBySecond = some asSecond :=
    signed_caller asSecond_valid rfl
  exact handle_admitted (by decide +kernel) (by decide +kernel) hasks (by decide) hcaller (by decide)
    (by decide +kernel)

/-- The first administrator is left, who deleted the second. -/
theorem twoAdmins_keep_admin :
    twoAdmins.adminCount = 2 ∧
      (handle earlyContext twoAdmins deletionByFirst).2.adminCount = 1 ∧
      1 ≤ (handleAll twoAdmins [(earlyContext, deletionByFirst)]).adminCount := by
  refine ⟨by decide, by rw [deletionByFirst_deletes]; decide, ?_⟩
  refine handleAll_keeps_admin twoAdmins _ (by decide) ⟨?_, trivial⟩
  intro _
  exact ⟨asFirst, deletionByFirst_caller, by decide⟩

/-- Two administrators sign in and delete each other, and none is left. -/
theorem twoAdmins_lost :
    twoAdmins.adminCount = 2 ∧ SignsIn firstContext twoAdmins loginOfFirst asFirst ∧
      SignsIn secondContext twoAdmins loginOfSecond asSecond ∧
      (handleAll twoAdmins [(firstContext, loginOfFirst), (secondContext, loginOfSecond),
        (earlyContext, deletionByFirst), (earlyContext, deletionBySecond)]).adminCount = 0 := by
  refine ⟨by decide, loginOfFirst_signsIn, loginOfSecond_signsIn, ?_⟩
  have hfirst := loginOfFirst_signsIn.2
  have hsecond := loginOfSecond_signsIn.2
  rw [handleAll, hfirst, handleAll, hsecond, handleAll, deletionByFirst_deletes, handleAll,
    deletionBySecond_deletes, handleAll]
  decide

end Api
end Stockroom

import Stockroom.Proofs.Api.Administrators
import Stockroom.Proofs.Api.Revocation
import Stockroom.Proofs.Store.Names

/-!
On whose authority a request is served. A token carries a copy of the role and the branch that its
account had when it was issued, and requests are judged by that copy, whatever has become of the
account since. Only those who ask for their own account learn what it is now.

Main definitions and statements:
* `tokenIn`, `login_issued`: a token is issued for an active account;
* `judged`, `dispatch_judged`: a request is judged by the claims of its token alone;
* `handleAll_standing`: those claims are what the account was when the token was issued;
* `twoAdmins_standing_lost`: a deleted account whose token is still served.
-/
namespace Stockroom
set_option autoImplicit false

namespace Api

/-! ## Issued tokens -/

/-- The token that an answer carries. -/
def tokenIn (r : Response) : Option Text :=
  match r.body with
  | .json (.object ((key, _, .string token) :: _)) =>
    if key = Text.ofString "token" then some token else none
  | _ => none

/-- What a login is answered that succeeds: a token with the claims of the account, and the account. -/
def loginAnswer (ctx : Context) (account : Account) : Response :=
  .json 200 (.object [Json.member "token" (.string (Token.sign ctx.secret
    (Claims.ofAccount account ctx.tokenId ctx.now.unix))), Json.member "user" account.toJson])

/-- A login that succeeds is that of the account which is found under the username, if it is active and
the password has its hash. -/
theorem login_eq_ok {ctx : Context} {s s' : Store} {req : Request} {response : Response}
    (h : login ctx s req = .ok (response, s')) :
    ∃ sent account, sentRecord Credentials.wireFields req = .ok sent ∧ sent.username ≠ [] ∧
      sent.password ≠ [] ∧ s.accountNamed? sent.username = .ok (some account) ∧
      account.isActive = true ∧ account.passwordHash.fits sent.password.bytes = true ∧
      response = loginAnswer ctx account ∧ s' = s := by
  obtain ⟨sent, hsent, h⟩ := bind_eq_ok.mp h
  split at h
  · cases h
  next hgiven =>
  obtain ⟨hname, hpassword⟩ : sent.username ≠ [] ∧ sent.password ≠ [] := by simpa using hgiven
  obtain ⟨found, hfound, h⟩ := bind_eq_ok.mp h
  split at h
  · cases h
  · next account =>
    split at h
    · cases h
    · next hknown =>
      obtain ⟨hactive, hfits⟩ : account.isActive = true ∧
          account.passwordHash.fits sent.password.bytes = true := by simpa using hknown
      cases h
      exact ⟨sent, account, hsent, hname, hpassword, orRefuse_eq_ok hfound, hactive, hfits, rfl, rfl⟩

theorem tokenIn_failure (status : Nat) (message : Text) :
    tokenIn (.failure status message) = none := by
  have hkey : Text.ofString "error" ≠ Text.ofString "token" := by decide
  simp only [tokenIn, Response.failure, Response.json, Json.member, if_neg hkey]

/-- A token is issued for an active account, and says what it is. -/
theorem login_issued {ctx : Context} {s : Store} {req : Request} {segment token : Text}
    (hasks : asksFor req = some (.login, segment))
    (htoken : tokenIn (handle ctx s req).1 = some token) :
    (∃ account ∈ s.accounts, account.isActive = true ∧
      token = Token.sign ctx.secret (Claims.ofAccount account ctx.tokenId ctx.now.unix)) ∧
      (handle ctx s req).2 = s := by
  have hguarded : guarded ctx s req .login segment = login ctx s req := rfl
  have hanswered (r : Response) (h : tokenIn (answered req r) = some token) :
      tokenIn r = some token := by
    unfold answered at h
    cases hhead : isHead req.method with
    | true =>
      rw [hhead] at h
      cases h
    | false =>
      rw [hhead] at h
      exact h
  rw [handle_eq] at htoken ⊢
  unfold asksFor at hasks
  simp only [dispatch, hasks, hguarded] at htoken ⊢
  split at htoken
  · next response s' hserved =>
    split at hserved
    · cases hserved
    split at hserved
    · cases hserved
    obtain ⟨sent, account, -, -, -, hfound, hactive, -, rfl, hleft⟩ := login_eq_ok hserved
    have hmem : account ∈ s.accounts := by
      obtain ⟨_, -, hload⟩ := bind_eq_ok.mp hfound
      exact (Store.mem_of_accountOf? (Store.loadAccount_eq_ok hload)).1
    have hissued := hanswered _ htoken
    simp only [tokenIn, loginAnswer, Response.json, Json.member, if_pos] at hissued
    exact ⟨⟨account, hmem, hactive, (Option.some.inj hissued).symm⟩, hleft⟩
  · next response hrefused =>
    exfalso
    have hissued := hanswered _ htoken
    split at hrefused
    · cases hrefused
      cases hissued
    split at hrefused
    · cases hrefused
      cases hissued
    obtain ⟨status, message, -, rfl⟩ := login_explains ctx s req _ hrefused
    rw [tokenIn_failure] at hissued
    cases hissued

/-! ## Judging by claims -/

/-- What a request is answered when it is judged by claims. -/
def judged (ctx : Context) (claims : Claims) (s : Store) (req : Request) (endpoint : Endpoint)
    (segment : Text) : Outcome := do
  requireAccess endpoint.access claims
  serve ctx claims s req segment endpoint

section
variable {ctx : Context} {s : Store} {req : Request} {claims : Claims} {endpoint : Endpoint}
  {segment : Text}

/-- Whoever is signed in is judged by the claims of the token alone. -/
theorem dispatch_judged (htarget : (req.target == Text.ofString "*") = false)
    (hclean : (cleanPath req.asked.path != req.asked.path) = false)
    (hasks : asksFor req = some (endpoint, segment)) (hguarded : endpoint.access ≠ .anyone)
    (hauth : authenticate ctx s req = .ok claims) :
    dispatch ctx s req = judged ctx claims s req endpoint segment := by
  rw [dispatch_asked htarget hclean hasks, guarded]
  split
  · next hanyone => exact absurd hanyone hguarded
  · rw [hauth]
    rfl

/-- Whoever is not signed in is told so, unless the revoked tokens cannot be looked up. -/
theorem authenticate_eq_error {response : Response} (h : authenticate ctx s req = .error response) :
    response.status = 401 ∨ response.status = 500 ∧ ¬ Remembers s := by
  unfold authenticate at h
  split at h
  · cases h
    exact .inl rfl
  · split at h
    · cases h
      exact .inl rfl
    · next c hvalid =>
      split at h
      · next e hunknown =>
        cases h
        refine .inr ⟨rfl, fun hremembers => ?_⟩
        rw [isRevoked_eq hremembers] at hunknown
        cases hunknown
      · cases h
        exact .inl rfl
      · cases h

/-- One's own account is shown only while it is active. -/
theorem me_shows {response : Response} {s' : Store} (h : me claims s = .ok (response, s')) :
    ∃ current ∈ s.accounts, current.id = claims.userId ∧ current.isActive = true ∧
      response = .json 200 current.toJson := by
  obtain ⟨found, hfound, h⟩ := bind_eq_ok.mp h
  obtain ⟨_, -, hload⟩ := bind_eq_ok.mp (orRefuse_eq_ok hfound)
  split at h
  · cases h
  · next current =>
    split at h
    · cases h
    · next hactive =>
      cases h
      have hrow := Store.loadAccount_eq_ok hload
      exact ⟨current, List.mem_of_find?_eq_some hrow, by simpa using List.find?_some hrow,
        by simpa using hactive, rfl⟩

end

/-- A token issued at a login is worth what the account was then. Whatever happens afterwards, a
request with the token that is not turned away as not signed in is judged by the role and the branch
that the account, then active, had at that login. One's own account is shown as it is now, and only
while it is active. -/
theorem handleAll_standing (s : Store) (ctx : Context) (req : Request) (segment token : Text)
    (hasks : asksFor req = some (.login, segment))
    (htoken : tokenIn (handle ctx s req).1 = some token) :
    ∃ account ∈ s.accounts, account.isActive = true ∧
      ∀ (run : List (Context × Request)) (later : Context) (again : Request) (endpoint : Endpoint)
        (place : Text),
        bearer again = some token → (again.target == Text.ofString "*") = false →
        (cleanPath again.asked.path != again.asked.path) = false →
        asksFor again = some (endpoint, place) → endpoint.access ≠ .anyone →
        (handle later (handleAll s ((ctx, req) :: run)) again).1.status = 401 ∨
        ((handle later (handleAll s ((ctx, req) :: run)) again).1.status = 500 ∧
          ¬ Remembers (handleAll s ((ctx, req) :: run))) ∨
        ∃ claims, claims.userId = account.id ∧ claims.role = account.role.mended ∧
          claims.branch = account.branch.mended ∧
          dispatch later (handleAll s ((ctx, req) :: run)) again =
            judged later claims (handleAll s ((ctx, req) :: run)) again endpoint place ∧
          (endpoint = .me →
            (handle later (handleAll s ((ctx, req) :: run)) again).1.status = 200 →
            ∃ current ∈ (handleAll s ((ctx, req) :: run)).accounts, current.id = account.id ∧
              current.isActive = true ∧
              (handle later (handleAll s ((ctx, req) :: run)) again).1 =
                answered again (.json 200 current.toJson)) := by
  obtain ⟨⟨account, hmem, hactive, rfl⟩, -⟩ := login_issued hasks htoken
  refine ⟨account, hmem, hactive, ?_⟩
  intro run later again endpoint place hbearer htarget hclean hroute hguarded
  generalize handleAll s ((ctx, req) :: run) = now
  cases hauth : authenticate later now again with
  | error response =>
    have hstatus := handle_unauthorized ⟨htarget, hclean, endpoint, place, hroute, hguarded⟩ hauth
    rw [hstatus]
    exact (authenticate_eq_error hauth).imp_right .inl
  | ok claims =>
    have hjudged := dispatch_judged htarget hclean hroute hguarded hauth
    obtain ⟨sent, hsent, hvalid, -⟩ := authenticate_eq_ok hauth
    obtain rfl := Option.some.inj (hsent.symm.trans hbearer)
    have hcontent := (Token.validate_eq_ok hvalid).1
    rw [Token.content?_sign] at hcontent
    obtain ⟨expiry, issuedAt, rfl⟩ := Token.eq_readBack_of_claimsOf hcontent
    refine .inr (.inr ⟨_, rfl, rfl, rfl, hjudged, ?_⟩)
    rintro rfl hstatus
    have hme : judged later (Token.readBack account ctx.tokenId expiry issuedAt) now again .me place =
        me (Token.readBack account ctx.tokenId expiry issuedAt) now := rfl
    rw [handle_eq, hjudged, hme] at hstatus ⊢
    cases hshown : me (Token.readBack account ctx.tokenId expiry issuedAt) now with
    | error response =>
      rw [hshown] at hstatus
      have hgiven : response.status = 200 := hstatus
      exact absurd hgiven ((me_explains _ _).status_ne hshown (by decide))
    | ok answer =>
      obtain ⟨response, after⟩ := answer
      obtain ⟨current, hcurrent, hid, hstill, rfl⟩ := me_shows hshown
      exact ⟨current, hcurrent, hid, hstill, rfl⟩

/-! ## A deleted account that is still served -/

/-- The second administrator asks for the first account. -/
def visitBySecond : Request := signed asSecond "GET" "/api/users/1" []

theorem visitBySecond_asks : asksFor visitBySecond = some (Endpoint.getAccount, Text.ofString "1") := by
  decide +kernel

theorem visitBySecond_handled :
    handle earlyContext firstLeft visitBySecond =
      (answered visitBySecond (.json 200 firstAdmin.toJson), firstLeft) :=
  handle_served (by decide) (by decide) visitBySecond_asks (by decide)
    (caller_signed rfl asSecond_content (by decide) rfl) (by decide) rfl

theorem loginOfSecond_token :
    tokenIn (handle secondContext twoAdmins loginOfSecond).1 =
      some (Token.sign secondContext.secret asSecond) := by
  obtain ⟨⟨user, hbody⟩, -⟩ := loginOfSecond_signsIn
  rw [tokenIn, hbody]
  simp only [Json.member, if_pos]

/-- The second administrator signs in and is then deleted by the first. -/
def secondDeleted : List (Context × Request) :=
  [(secondContext, loginOfSecond), (earlyContext, deletionByFirst)]

theorem handleAll_secondDeleted : handleAll twoAdmins secondDeleted = firstLeft := by
  rw [secondDeleted, handleAll, loginOfSecond_signsIn.2, handleAll, deletionByFirst_deletes,
    handleAll]

/-- The second administrator is still judged as the administrator of the login. -/
theorem twoAdmins_standing :
    ∃ account ∈ twoAdmins.accounts, account.isActive = true ∧
      ∃ claims, claims.userId = account.id ∧ claims.role = account.role.mended ∧
        claims.branch = account.branch.mended ∧
        dispatch earlyContext firstLeft visitBySecond =
          judged earlyContext claims firstLeft visitBySecond .getAccount "1" := by
  obtain ⟨account, hmem, hactive, hlater⟩ := handleAll_standing twoAdmins secondContext loginOfSecond
    [] _ (by decide +kernel) loginOfSecond_token
  have hafter := hlater [(earlyContext, deletionByFirst)] earlyContext visitBySecond _ _
    (bearer_signed ..) (by decide) (by decide) visitBySecond_asks (by decide)
  have hrun : handleAll twoAdmins [(secondContext, loginOfSecond), (earlyContext, deletionByFirst)] =
      firstLeft := handleAll_secondDeleted
  rw [hrun, visitBySecond_handled] at hafter
  refine ⟨account, hmem, hactive, ?_⟩
  obtain hrefused | ⟨hfailed, -⟩ | ⟨claims, hid, hrole, hbranch, hjudged, -⟩ := hafter
  · exact absurd hrefused (by simp [answered, Response.json])
  · exact absurd hfailed (by simp [answered, Response.json])
  · exact ⟨claims, hid, hrole, hbranch, hjudged⟩

/-- The token of a deleted administrator opens what only administrators may see. -/
theorem twoAdmins_standing_lost :
    tokenIn (handle secondContext twoAdmins loginOfSecond).1 = bearer visitBySecond ∧
      (∀ account ∈ (handleAll twoAdmins secondDeleted).accounts,
        account.id = asSecond.userId → account.isActive = false) ∧
      (handle earlyContext (handleAll twoAdmins secondDeleted) visitBySecond).1.status = 200 := by
  rw [handleAll_secondDeleted, visitBySecond_handled, loginOfSecond_token, visitBySecond,
    bearer_signed]
  exact ⟨rfl, by decide, rfl⟩

end Api
end Stockroom

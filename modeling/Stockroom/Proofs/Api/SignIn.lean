import Stockroom.Proofs.Api.Standing

/-!
Who signs in. A name may have been given, taken away and given again, so that many deleted accounts
have it; the one that counts is the active one. Its password opens the door and no other does, and the
token that is issued is that of this account.

Main definitions and statements:
* `Credentials.Open`: credentials that sign in to an account;
* `login_opens`: what a login is answered to credentials that do;
* `runAll_login`: names after every history of calls, and who signs in then;
* `emptyPassword_turned_away`: an empty password signs nobody in, not even where its hash would do.
-/
namespace Stockroom
set_option autoImplicit false

namespace Api

/-! ## Asking for a login -/

section
variable {ctx : Context} {s s' : Store} {req : Request} {sent : Credentials} {account : Account}

/-- A request that asks for a login. -/
structure IsLogin (req : Request) : Prop where
  method : req.method = "POST"
  path : req.asked.path = "/api/auth/login"

theorem IsLogin.dispatch (h : IsLogin req) : dispatch ctx s req = login ctx s req := by
  have htarget : (req.target == Text.ofString "*") = false := by
    refine beq_eq_false_iff_ne.mpr fun hall => ?_
    have hpath := h.path
    rw [Request.asked, hall] at hpath
    revert hpath
    decide +kernel
  have hclean : (cleanPath req.asked.path != req.asked.path) = false := by
    rw [h.path]
    decide +kernel
  have hasks : asksFor req = some (Endpoint.login, []) := by
    rw [asksFor, h.method, h.path]
    decide +kernel
  exact dispatch_asked htarget hclean hasks

/-- Credentials that sign in to an account: a username and a password, of which the account has the
first and is active, and has the hash of the second. -/
structure Credentials.Open (sent : Credentials) (s : Store) (account : Account) : Prop where
  username : sent.username ≠ []
  password : sent.password ≠ []
  known : account ∈ s.accounts
  active : account.isActive = true
  named : account.username = sent.username
  fits : account.passwordHash.fits sent.password.bytes = true

/-- Whoever sends such credentials is answered with the token of the account. -/
theorem login_opens (hsound : s.Sound) (hs : s.Keyed) (hnames : s.NamedApart)
    (hsent : sentRecord Credentials.wireFields req = .ok sent) (h : sent.Open s account) :
    login ctx s req = .ok (loginAnswer ctx account, s) := by
  obtain ⟨found, hfound, hstands⟩ := Store.accountNamed?_standsFor hsound hs hnames sent.username
  obtain rfl := (hstands _).mp (.active h.known h.named h.active)
  exact login_issues hsent (by simp [h.username, h.password]) hfound (by simp [h.active, h.fits])

/-- Nobody else signs in. -/
theorem opens_of_login {response : Response} (h : login ctx s req = .ok (response, s')) :
    ∃ sent account, sentRecord Credentials.wireFields req = .ok sent ∧ sent.Open s account := by
  obtain ⟨sent, account, hsent, hname, hpassword, hfound, hactive, hfits, -⟩ := login_eq_ok h
  obtain ⟨_, -, hload⟩ := bind_eq_ok.mp hfound
  obtain ⟨hmem, hnamed⟩ := Store.mem_of_accountOf? (Store.loadAccount_eq_ok hload)
  exact ⟨sent, account, hsent, hname, hpassword, hmem, hactive, hnamed, hfits⟩

theorem handle_login (h : IsLogin req) (hlogin : login ctx s req = .ok (loginAnswer ctx account, s)) :
    handle ctx s req = (answered req (loginAnswer ctx account), s) := by
  rw [handle_eq, h.dispatch, hlogin]

/-- A login succeeds exactly if the credentials sign in to an account, and leaves the store alone. -/
theorem handle_login_status (ctx : Context) (hsound : s.Sound) (hs : s.Keyed)
    (hnames : s.NamedApart) (h : IsLogin req) : (handle ctx s req).2 = s ∧
    ((handle ctx s req).1.status = 200 ↔
      ∃ sent account, sentRecord Credentials.wireFields req = .ok sent ∧ sent.Open s account) := by
  cases hlogin : login ctx s req with
  | ok answer =>
    obtain ⟨sent, account, hsent, hopen⟩ := opens_of_login hlogin
    rw [handle_login h (login_opens hsound hs hnames hsent hopen)]
    exact ⟨rfl, iff_of_true rfl ⟨sent, account, hsent, hopen⟩⟩
  | error response =>
    rw [handle_eq, h.dispatch, hlogin]
    refine ⟨rfl, iff_of_false ((login_explains ctx s req).status_ne hlogin (by decide)) ?_⟩
    rintro ⟨sent, account, hsent, hopen⟩
    rw [login_opens hsound hs hnames hsent hopen] at hlogin
    cases hlogin

end

/-! ## After every history -/

/-- After every history of calls no two active accounts share a username and no two active branches a
name, and what is found under a username is the active account that has it, or else the last of the
deleted ones. Hence a login succeeds exactly if it gives a username and a password and an active account
of that username has the hash of the password, and is answered with the token of that account. -/
theorem runAll_login (calls : List (Instant × StoreCall)) :
    let s := StoreCall.runAll {} calls
    ((s.accounts.filter (·.isActive)).map (·.username)).Nodup ∧
    ((s.branches.filter (·.isActive)).map (·.name)).Nodup ∧
    (∀ username, ∃ found, s.accountNamed? username = .ok found ∧
      ∀ r, s.StandsFor username r ↔ r = found) ∧
    ∀ (ctx : Context) (req : Request), IsLogin req →
      (handle ctx s req).2 = s ∧
      ((handle ctx s req).1.status = 200 ↔ ∃ sent account,
        sentRecord Credentials.wireFields req = .ok sent ∧ sent.Open s account) ∧
      ∀ sent account, sentRecord Credentials.wireFields req = .ok sent → sent.Open s account →
        (handle ctx s req).1 = answered req (loginAnswer ctx account) := by
  intro s
  obtain ⟨hkeyed, hnames⟩ : s.Keyed ∧ s.NamedApart :=
    StoreCall.runAll_namedApart {} calls Store.keyed_empty Store.namedApart_empty
  have hsound : s.Sound := StoreCall.runAll_invariant
    (fun _ _ change hsound => change.keeps_sound hsound) {} calls Store.sound_empty
  refine ⟨hnames.accounts.nodup, hnames.branches.nodup,
    Store.accountNamed?_standsFor hsound hkeyed hnames, fun ctx req hlogin => ?_⟩
  obtain ⟨hleft, hstatus⟩ := handle_login_status ctx hsound hkeyed hnames hlogin
  refine ⟨hleft, hstatus, fun sent account hsent hopen => ?_⟩
  rw [handle_login hlogin (login_opens hsound hkeyed hnames hsent hopen)]

/-! ## A username that is given again -/

/-- The first administrator is added, deleted, and added again with the password of the second. -/
def firstReturns : List (Instant × StoreCall) :=
  [({ unix := 0 }, .createAccount "first" firstAdmin.passwordHash "admin" []),
    ({ unix := 0 }, .deleteAccount 1),
    ({ unix := 0 }, .createAccount "first" secondAdmin.passwordHash "admin" [])]

def firstAgain : Account := { secondAdmin with username := "first", createdAt := { unix := 0 } }

def loginOfFirstAgain : Request :=
  { loginOfFirst with
    body := .text "\x7b\"username\":\"first\",\"password\":\"password2\"\x7d".toList }

theorem loginOfFirstAgain_sends :
    sentRecord Credentials.wireFields loginOfFirstAgain = .ok ⟨"first", "password2"⟩ :=
  toOption_eq_some.mp (by decide +kernel)

theorem firstAgain_opens :
    Credentials.Open ⟨"first", "password2"⟩ (StoreCall.runAll {} firstReturns) firstAgain where
  username := by decide
  password := by decide
  known := by decide
  active := rfl
  named := rfl
  fits := by decide +kernel

/-- The old password opens nothing: the account that had it is deleted, and the other has another. -/
theorem firstReturns_shut (account : Account) :
    ¬ Credentials.Open ⟨"first", "password1"⟩ (StoreCall.runAll {} firstReturns) account := by
  intro hopen
  have hrows : (StoreCall.runAll {} firstReturns).accounts =
      [{ firstAdmin with createdAt := { unix := 0 }, deletedAt := some { unix := 0 } }, firstAgain] := by
    rfl
  have hknown := hopen.known
  rw [hrows] at hknown
  obtain rfl | hknown := List.mem_cons.mp hknown
  · exact absurd hopen.active (by decide)
  · obtain rfl := List.mem_singleton.mp hknown
    exact absurd hopen.fits (by decide +kernel)

/-- Of the two accounts the active one signs in, and not with the password of the other. -/
theorem firstReturns_login :
    IsLogin loginOfFirstAgain ∧ IsLogin loginOfFirst ∧
      (handle secondContext (StoreCall.runAll {} firstReturns) loginOfFirstAgain).1 =
        answered loginOfFirstAgain (loginAnswer secondContext firstAgain) ∧
      (handle secondContext (StoreCall.runAll {} firstReturns) loginOfFirst).1.status ≠ 200 := by
  have hagain : IsLogin loginOfFirstAgain := ⟨rfl, by decide +kernel⟩
  have hbefore : IsLogin loginOfFirst := ⟨rfl, by decide +kernel⟩
  have hall := (runAll_login firstReturns).2.2.2 secondContext
  refine ⟨hagain, hbefore, (hall _ hagain).2.2 _ _ loginOfFirstAgain_sends firstAgain_opens, ?_⟩
  intro hstatus
  obtain ⟨sent, account, hsent, hopen⟩ := (hall _ hbefore).2.1.mp hstatus
  have hold : sentRecord Credentials.wireFields loginOfFirst = .ok ⟨"first", "password1"⟩ :=
    toOption_eq_some.mp (by decide +kernel)
  obtain rfl := Except.ok.inj (hold.symm.trans hsent)
  exact firstReturns_shut account hopen

/-! ## An empty password -/

/-- The hash of eight zeros is also that of nothing. -/
def zerosAdded : List (Instant × StoreCall) :=
  [({ unix := 0 },
    .createAccount "first" (.ofKey (Bcrypt.keyOf (List.replicate 8 0))) "admin" [])]

def emptyLogin : Request :=
  { loginOfFirst with
    body := .text "\x7b\"username\":\"first\",\"password\":\"\"\x7d".toList }

theorem emptyLogin_sends : sentRecord Credentials.wireFields emptyLogin = .ok ⟨"first", []⟩ :=
  toOption_eq_some.mp (by decide +kernel)

/-- An active account has the username and the hash of the password, yet nobody signs in. -/
theorem emptyPassword_turned_away :
    IsLogin emptyLogin ∧ sentRecord Credentials.wireFields emptyLogin = .ok ⟨"first", []⟩ ∧
      (∃ account ∈ (StoreCall.runAll {} zerosAdded).accounts, account.isActive = true ∧
        account.username = "first" ∧ account.passwordHash.fits (Text.bytes []) = true) ∧
      (handle secondContext (StoreCall.runAll {} zerosAdded) emptyLogin).1.status = 400 := by
  have hlogin : IsLogin emptyLogin := ⟨rfl, by decide +kernel⟩
  refine ⟨hlogin, emptyLogin_sends, ⟨_, List.mem_singleton_self _, rfl, rfl, by decide +kernel⟩, ?_⟩
  have hrefused : login secondContext (StoreCall.runAll {} zerosAdded) emptyLogin =
      refuse 400 "username and password required" := by
    rw [login, emptyLogin_sends]
    rfl
  rw [handle_eq, hlogin.dispatch, hrefused]
  rfl

end Api
end Stockroom

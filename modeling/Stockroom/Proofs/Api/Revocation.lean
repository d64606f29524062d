import Stockroom.Proofs.Api.Refusal
import Stockroom.Proofs.Api.Run
import Stockroom.Proofs.Calendar.Instant
import Stockroom.Proofs.Token.Content

/-!
Signing out. A token that was given up is remembered until it would have expired, and an expired
token is refused anyway, so it is never accepted again by whatever asks for a token. Forgetting goes
by the texts of the expiry times, which are in order through the year 9999.

Main definitions and statements:
* `Event`, `Event.applyAll`: requests and the forgetting of expired tokens, one after another;
* `Spent`, `Event.apply_spent`: the token is remembered, or has expired;
* `logout_permanent`: whoever has signed out is not let in again with the same token.
-/
namespace Stockroom
set_option autoImplicit false

/-! ## Time -/

namespace Instant

variable {a b c : Instant}

theorem isBefore_iff : a.isBefore b = true ↔ a.unix < b.unix ∨ a.unix = b.unix ∧ a.nano < b.nano := by
  simp [isBefore]

/-- Once a time has come, it has come for good. -/
theorem isBefore_mono (h : b.isBefore a = false) (hc : a.isBefore c = false) :
    b.isBefore c = false := by
  rw [← Bool.not_eq_true, isBefore_iff] at *
  omega

end Instant

namespace Token

/-- A time in a year of four digits is kept as it is. -/
theorem pointOf_eq {t : Int} (h : Instant.FourDigitYear { unix := t }) :
    pointOf t = { unix := t } := by
  obtain ⟨hlow, hhigh⟩ := h
  simp only [pointOf, wrapInt64, Instant.unset] at *
  congr 1
  omega

end Token

namespace Api

/-! ## Requests and what is forgotten between them -/

/-- Something that happens to the server: a request, or the forgetting of expired tokens. -/
inductive Event where
  | request (ctx : Context) (req : Request)
  | purge (now : Instant)

namespace Event

def time : Event → Instant
  | .request ctx _ => ctx.now
  | .purge now => now

/-- The store after an event; where expired tokens cannot be forgotten, nothing changes. -/
def apply (s : Store) : Event → Store
  | .request ctx req => (handle ctx s req).2
  | .purge now =>
    match s.forgetRevoked now with
    | .ok (_, s) => s
    | .error _ => s

/-- The store after events one after the other. -/
def applyAll (s : Store) (events : List Event) : Store := events.foldl apply s

end Event

/-- The token of a request. -/
def bearer (req : Request) : Option Text := Text.after? "Bearer " (req.header "Authorization")

/-- The request asks for something that takes a token. -/
def AsksWithToken (req : Request) : Prop :=
  (req.target == Text.ofString "*") = false ∧
    (cleanPath req.asked.path != req.asked.path) = false ∧
    ∃ endpoint segment, asksFor req = some (endpoint, segment) ∧ endpoint.access ≠ .anyone

/-! ## What acts do to the revoked tokens -/

/-- Revoked tokens can be looked up. -/
def Remembers (s : Store) : Prop := ∀ activity, s.readable [.revocations] activity = .ok ()

section
variable {claims : Claims} {s s' : Store} {endpoint : Endpoint}

theorem remembers_congr (hclosed : s'.faults.closed = s.faults.closed)
    (hdropped : s'.faults.dropped = s.faults.dropped) (h : Remembers s) : Remembers s' := by
  intro activity
  rw [← h activity, Store.readable, Store.readable, hclosed, hdropped]

theorem Act.remembers (act : Act claims s endpoint s') (h : Remembers s) : Remembers s' := by
  cases act <;> exact remembers_congr rfl rfl h

/-- Only signing out revokes a token, and it revokes that of whoever signs out. -/
theorem Act.revocations (act : Act claims s endpoint s') :
    s'.revocations = s.revocations ∨ endpoint = .logout ∧
      ∃ r : Revocation, r.tokenId = claims.id ∧ s'.revocations = s.revocations ++ [r] := by
  cases act with
  | logout r hid => exact .inr ⟨rfl, r, hid, rfl⟩
  | _ => exact .inl rfl

theorem isRevoked_eq (h : Remembers s) (id : Text) :
    s.isRevoked id = .ok (s.revocations.any (·.tokenId == id)) := by
  rw [Store.isRevoked, h]
  rfl

theorem remembers_of_isRevoked {id : Text} {b : Bool} (h : s.isRevoked id = .ok b) :
    Remembers s := by
  obtain ⟨_, hreadable, -⟩ := bind_eq_ok.mp h
  intro activity
  unfold Store.readable at hreadable ⊢
  split at hreadable
  · cases hreadable
  · next hsound => rw [if_neg hsound]

end

/-! ## Tokens that were given up -/

/-- The token with the id is remembered as given up, or has expired. -/
structure Spent (s : Store) (now : Instant) (id : Text) (expiry : Instant) : Prop where
  remembers : Remembers s
  given_up : ⟨id, expiry⟩ ∈ s.revocations ∨ now.isBefore expiry = false

section
variable {s : Store} {now : Instant} {id : Text} {expiry : Instant}

theorem Spent.later {then_ : Instant} (h : Spent s now id expiry)
    (htime : then_.isBefore now = false) : Spent s then_ id expiry :=
  ⟨h.remembers, h.given_up.imp_right (Instant.isBefore_mono htime)⟩

theorem Spent.request (h : Spent s now id expiry) (ctx : Context) (req : Request) :
    Spent (handle ctx s req).2 now id expiry := by
  obtain ⟨claims, endpoint, act⟩ := (handle_step ctx s req).act
  refine ⟨act.remembers h.remembers, h.given_up.imp_left fun hrow => ?_⟩
  obtain hsame | ⟨-, r, -, hmore⟩ := act.revocations
  · rw [hsame]
    exact hrow
  · rw [hmore]
    exact List.mem_append_left _ hrow

/-- A token is forgotten only after it has expired. -/
theorem isOver_expired {r : Revocation} (h : r.isOver now = true)
    (hyear : r.expiresAt.FourDigitYear) (hwhole : r.expiresAt.nano = 0) :
    now.isBefore r.expiresAt = false := by
  rw [← Bool.not_eq_true, Instant.isBefore_iff, hwhole]
  rintro (hbefore | ⟨-, hnano⟩)
  · simp [Revocation.isOver, Instant.column_le hbefore hyear] at h
  · exact absurd hnano (Nat.not_lt_zero _)

theorem Spent.purge (h : Spent s now id expiry) (hyear : expiry.FourDigitYear)
    (hwhole : expiry.nano = 0) : Spent (Event.apply s (.purge now)) now id expiry := by
  simp only [Event.apply]
  split
  · next count after hforget =>
    obtain ⟨_, -, hforget⟩ := bind_eq_ok.mp hforget
    cases hforget
    refine ⟨remembers_congr rfl rfl h.remembers, ?_⟩
    by_cases hover : now.isBefore expiry = false
    · exact .inr hover
    · refine .inl (List.mem_filter.mpr ⟨h.given_up.resolve_right hover, ?_⟩)
      rw [Bool.not_eq_true']
      exact Bool.eq_false_iff.mpr fun hisOver => hover (isOver_expired hisOver hyear hwhole)
  · exact h

theorem Event.apply_spent (event : Event) (h : Spent s now id expiry)
    (htime : event.time.isBefore now = false) (hyear : expiry.FourDigitYear)
    (hwhole : expiry.nano = 0) : Spent (event.apply s) event.time id expiry := by
  cases event with
  | request ctx req => exact (h.later htime).request ctx req
  | purge time => exact (h.later htime).purge hyear hwhole

/-- Whatever happens, a token that was given up stays so until it has expired. -/
theorem Event.applyAll_spent (events : List Event) (then_ : Instant) (h : Spent s now id expiry)
    (htimes : (now :: (events.map time ++ [then_])).Pairwise fun a b => b.isBefore a = false)
    (hyear : expiry.FourDigitYear) (hwhole : expiry.nano = 0) :
    Spent (applyAll s events) then_ id expiry := by
  induction events generalizing s now with
  | nil => exact h.later (List.rel_of_pairwise_cons htimes (by simp))
  | cons event rest ih =>
    have hnext := event.apply_spent h (List.rel_of_pairwise_cons htimes (by simp)) hyear hwhole
    exact ih hnext htimes.tail

end

/-! ## Signing out -/

section
variable {ctx : Context} {s : Store} {req : Request} {token segment : Text} {claims : Claims}

theorem authenticate_eq_ok (h : authenticate ctx s req = .ok claims) :
    ∃ token, bearer req = some token ∧ Token.validate ctx.secret ctx.now token = .ok claims ∧
      s.isRevoked claims.id = .ok false := by
  unfold authenticate at h
  split at h
  · cases h
  · next token hbearer =>
    split at h
    · cases h
    · next c hvalid =>
      split at h
      · cases h
      · cases h
      · next hrevoked =>
        cases h
        exact ⟨token, hbearer, hvalid, hrevoked⟩

/-- Whoever is answered 200 was admitted and served, where an endpoint explains what it refuses. -/
theorem served_of_status {endpoint : Endpoint} (hasks : asksFor req = some (endpoint, segment))
    (hguarded : endpoint.access ≠ .anyone)
    (hexplains : ∀ claims, Explains (serve ctx claims s req segment endpoint))
    (hanswer : (handle ctx s req).1.status = 200) :
    ∃ claims response, caller ctx s req = some claims ∧
      serve ctx claims s req segment endpoint = .ok (response, (handle ctx s req).2) ∧
      (handle ctx s req).1 = answered req response := by
  unfold asksFor at hasks
  rw [handle_eq] at hanswer ⊢
  simp only [dispatch, hasks] at hanswer ⊢
  split at hanswer
  · next response s' hserved =>
    split at hserved
    · cases hserved
    split at hserved
    · cases hserved
    unfold guarded at hserved
    split at hserved
    · next hanyone => exact absurd hanyone hguarded
    · obtain ⟨claims, hauth, hserved⟩ := bind_eq_ok.mp hserved
      obtain ⟨_, -, hserved⟩ := bind_eq_ok.mp hserved
      exact ⟨claims, response, toOption_eq_some.mpr hauth, hserved, rfl⟩
  · next response hrefused =>
    exfalso
    split at hrefused
    · cases hrefused
      exact absurd hanswer (by simp [answered])
    split at hrefused
    · cases hrefused
      exact absurd hanswer (by simp [answered, redirect])
    exact (guarded_explains hexplains).status_ne hrefused (by decide : 200 < 400) hanswer

/-- A request to sign out that is answered 200 was served. -/
theorem logout_served (hasks : asksFor req = some (.logout, segment))
    (hanswer : (handle ctx s req).1.status = 200) :
    ∃ claims response, authenticate ctx s req = .ok claims ∧
      logout claims s = .ok (response, (handle ctx s req).2) := by
  obtain ⟨claims, response, hcaller, hlogout, -⟩ := served_of_status hasks (by decide)
    (fun claims => logout_explains claims s) hanswer
  exact ⟨claims, response, toOption_eq_some.mp hcaller, hlogout⟩

/-- Whoever has signed out is remembered until the token expires. -/
theorem logout_revokes (hasks : asksFor req = some (.logout, segment))
    (hbearer : bearer req = some token) (hanswer : (handle ctx s req).1.status = 200) :
    ∃ claims t, Token.content? token = some claims ∧ claims.expiry = some t ∧
      s.isRevoked claims.id = .ok false ∧
      (handle ctx s req).2 =
        { s with revocations := s.revocations ++ [⟨claims.id, { unix := t }⟩] } := by
  obtain ⟨claims, response, hauth, hlogout⟩ := logout_served hasks hanswer
  obtain ⟨sent, hsent, hvalid, hrevoked⟩ := authenticate_eq_ok hauth
  obtain rfl : sent = token := Option.some.inj (hsent.symm.trans hbearer)
  obtain ⟨hcontent, hfault⟩ := Token.validate_eq_ok hvalid
  obtain ⟨t, ht, -⟩ := Token.fault_eq_none hfault
  refine ⟨claims, t, hcontent, ht, hrevoked, ?_⟩
  have hnew : s.revocations.any (·.tokenId == claims.id) = false := by
    rw [isRevoked_eq (remembers_of_isRevoked hrevoked)] at hrevoked
    exact Except.ok.inj hrevoked
  obtain ⟨after, hrevoke, hstore⟩ := bind_eq_ok.mp hlogout
  obtain ⟨_, -, hrevoke⟩ := bind_eq_ok.mp (orRefuse_eq_ok hrevoke)
  rw [hnew, ht] at hrevoke
  cases hrevoke
  exact (Prod.mk.inj (pure_eq_ok.mp hstore)).2.symm

/-- A token that was given up is not accepted. -/
theorem Spent.refused {expiry : Instant} (h : Spent s ctx.now claims.id expiry)
    (hbearer : bearer req = some token) (hcontent : Token.content? token = some claims)
    (hexpiry : claims.expiry.map Token.pointOf = some expiry) :
    ∃ response, authenticate ctx s req = .error response ∧ response.status = 401 := by
  unfold bearer at hbearer
  unfold authenticate
  rw [hbearer]
  simp only
  split
  · exact ⟨_, rfl, rfl⟩
  · next c hvalid =>
    obtain ⟨hsame, hfault⟩ := Token.validate_eq_ok hvalid
    obtain rfl : c = claims := Option.some.inj (hsame.symm.trans hcontent)
    obtain ⟨t, ht, hbefore⟩ := Token.fault_eq_none hfault
    obtain rfl : Token.pointOf t = expiry := by simpa [ht] using hexpiry
    have hrow := h.given_up.resolve_right (by simp [hbefore])
    have hrevoked : s.isRevoked c.id = .ok true := by
      rw [isRevoked_eq h.remembers]
      congr 1
      exact List.any_eq_true.mpr ⟨_, hrow, by simp⟩
    rw [hrevoked]
    exact ⟨_, rfl, rfl⟩

theorem handle_unauthorized {response : Response} (hasks : AsksWithToken req)
    (hauth : authenticate ctx s req = .error response) :
    (handle ctx s req).1.status = response.status := by
  obtain ⟨htarget, hclean, endpoint, segment, hroute, hguarded⟩ := hasks
  have hrefused : guarded ctx s req endpoint segment = .error response := by
    unfold guarded
    split
    · next hanyone => exact absurd hanyone hguarded
    · rw [hauth]
      rfl
  rw [handle_eq, dispatch_asked htarget hclean hroute, hrefused]
  rfl

/-- The token of nobody who signs out in a run has the id. -/
def NoLogout (id : Text) (events : List Event) : Prop :=
  ∀ ctx req segment token claims, Event.request ctx req ∈ events →
    asksFor req = some (.logout, segment) → bearer req = some token →
    Token.content? token = some claims → claims.id ≠ id

theorem isRevoked_eq_false {id : Text} :
    s.isRevoked id = .ok false ↔ Remembers s ∧ ∀ r ∈ s.revocations, r.tokenId ≠ id := by
  constructor
  · intro h
    have hremembers := remembers_of_isRevoked h
    rw [isRevoked_eq hremembers] at h
    exact ⟨hremembers, by simpa using Except.ok.inj h⟩
  · rintro ⟨hremembers, hnone⟩
    rw [isRevoked_eq hremembers]
    congr 1
    simpa using hnone

theorem Act.unrevoked {s' : Store} {endpoint : Endpoint} {id : Text}
    (act : Act claims s endpoint s') (h : s.isRevoked id = .ok false)
    (hother : endpoint = .logout → claims.id ≠ id) : s'.isRevoked id = .ok false := by
  obtain ⟨hremembers, hnone⟩ := isRevoked_eq_false.mp h
  refine isRevoked_eq_false.mpr ⟨act.remembers hremembers, ?_⟩
  obtain hsame | ⟨hlogout, r, hid, hmore⟩ := act.revocations
  · rw [hsame]
    exact hnone
  · rw [hmore]
    intro row hrow
    obtain hold | rfl := (List.mem_append.mp hrow).imp_right List.mem_singleton.mp
    · exact hnone row hold
    · rw [hid]
      exact hother hlogout

/-- A token that is not revoked stays so unless someone signs out with it. -/
theorem Event.apply_unrevoked {id : Text} (event : Event) (h : s.isRevoked id = .ok false)
    (hlogout : NoLogout id [event]) : (event.apply s).isRevoked id = .ok false := by
  cases event with
  | request ctx req =>
    have hstep := handle_step ctx s req
    simp only [apply]
    generalize (handle ctx s req).2 = after at hstep ⊢
    cases hstep with
    | refused => exact h
    | unguarded endpoint segment hasks haccess act =>
      refine act.unrevoked h ?_
      rintro rfl
      cases haccess
    | admitted claims endpoint segment hasks hcaller haccess act =>
      refine act.unrevoked h ?_
      rintro rfl
      obtain ⟨token, hbearer, hvalid, -⟩ := authenticate_eq_ok (toOption_eq_some.mp hcaller)
      exact hlogout ctx req segment token claims (by simp) hasks hbearer
        (Token.validate_eq_ok hvalid).1
  | purge now =>
    simp only [apply]
    split
    · next count after hforget =>
      obtain ⟨_, -, hforget⟩ := bind_eq_ok.mp hforget
      cases hforget
      obtain ⟨hremembers, hnone⟩ := isRevoked_eq_false.mp h
      refine isRevoked_eq_false.mpr ⟨remembers_congr rfl rfl hremembers, ?_⟩
      exact fun r hr => hnone r (List.mem_of_mem_filter hr)
    · exact h

theorem Event.applyAll_unrevoked {id : Text} (events : List Event) (h : s.isRevoked id = .ok false)
    (hlogout : NoLogout id events) : (applyAll s events).isRevoked id = .ok false := by
  induction events generalizing s with
  | nil => exact h
  | cons event rest ih =>
    have hfirst : NoLogout id [event] := fun ctx req segment token claims hmem =>
      hlogout ctx req segment token claims (by simp [List.mem_singleton.mp hmem])
    have hrest : NoLogout id rest := fun ctx req segment token claims hmem =>
      hlogout ctx req segment token claims (List.mem_cons_of_mem _ hmem)
    exact ih (event.apply_unrevoked h hfirst) hrest

/-- Tokens that are not revoked are judged by what they say alone. -/
theorem authenticate_unrevoked {s' : Store} (hbearer : bearer req = some token)
    (hcontent : Token.content? token = some claims) (h : s.isRevoked claims.id = .ok false)
    (h' : s'.isRevoked claims.id = .ok false) :
    authenticate ctx s' req = authenticate ctx s req := by
  unfold bearer at hbearer
  unfold authenticate
  rw [hbearer]
  simp only
  split
  · rfl
  · next c hvalid =>
    obtain rfl : c = claims :=
      Option.some.inj ((Token.validate_eq_ok hvalid).1.symm.trans hcontent)
    rw [h, h']

end

/-- Whoever has signed out with a token is answered 401 by everything that takes a token, whatever
happens in between and however often expired tokens are forgotten. Tokens with another id are judged
as if nobody had signed out, unless someone signs out with them. -/
theorem logout_permanent (ctx : Context) (s : Store) (req : Request) (segment token : Text)
    (run : List Event) (hasks : asksFor req = some (.logout, segment))
    (hbearer : bearer req = some token) (hanswer : (handle ctx s req).1.status = 200)
    (hexpiry : ∀ t, Token.expiry? token = some t → Instant.FourDigitYear { unix := t })
    (htimes : (ctx.now :: run.map Event.time).Pairwise fun a b => b.isBefore a = false) :
    (∀ before later again after, run = before ++ .request later again :: after →
      bearer again = some token → AsksWithToken again →
      (handle later (Event.applyAll (handle ctx s req).2 before) again).1.status = 401) ∧
    (∀ later again other claims, bearer again = some other → Token.content? other = some claims →
      (∀ c, Token.content? token = some c → claims.id ≠ c.id) →
      s.isRevoked claims.id = .ok false → NoLogout claims.id run →
      authenticate later (Event.applyAll (handle ctx s req).2 run) again =
        authenticate later s again) := by
  obtain ⟨claims, t, hcontent, ht, hrevoked, hstore⟩ := logout_revokes hasks hbearer hanswer
  constructor
  · intro before later again after hrun hagain hguarded
    have hyear : Instant.FourDigitYear { unix := t } :=
      hexpiry t (by rw [Token.expiry?, hcontent, Option.bind_some, ht])
    have hspent : Spent (handle ctx s req).2 ctx.now claims.id { unix := t } := by
      rw [hstore]
      exact ⟨remembers_congr (s := s) rfl rfl (remembers_of_isRevoked hrevoked), .inl (by simp)⟩
    have hbefore : (ctx.now :: (before.map Event.time ++ [later.now])).Pairwise
        fun a b => b.isBefore a = false := by
      refine htimes.sublist (List.Sublist.cons_cons _ ?_)
      rw [hrun, List.map_append, List.map_cons]
      exact (List.Sublist.refl _).append ((List.nil_sublist _).cons_cons _)
    obtain ⟨response, hauth, hstatus⟩ :=
      (Event.applyAll_spent before later.now hspent hbefore hyear rfl).refused hagain hcontent
        (by rw [ht, Option.map_some, Token.pointOf_eq hyear])
    rw [handle_unauthorized hguarded hauth, hstatus]
  · intro later again other c hagain hother hdiffer hunrevoked hnobody
    refine authenticate_unrevoked hagain hother hunrevoked ?_
    refine Event.applyAll_unrevoked run ?_ hnobody
    obtain ⟨hremembers, hnone⟩ := isRevoked_eq_false.mp hunrevoked
    rw [hstore]
    refine isRevoked_eq_false.mpr ⟨remembers_congr rfl rfl hremembers, ?_⟩
    intro r hr
    obtain hold | rfl := (List.mem_append.mp hr).imp_right List.mem_singleton.mp
    · exact hnone r hold
    · exact (hdiffer claims hcontent).symm

/-! ## An administrator who signs out -/

section
variable {ctx : Context} {claims : Claims} {s s' : Store} {req : Request} {endpoint : Endpoint}
  {segment : Text} {response : Response}

/-- Whoever is admitted is given the answer of the endpoint. -/
theorem handle_served (htarget : (req.target == Text.ofString "*") = false)
    (hclean : (cleanPath req.asked.path != req.asked.path) = false)
    (hasks : asksFor req = some (endpoint, segment)) (hguarded : endpoint.access ≠ .anyone)
    (hcaller : caller ctx s req = some claims) (hadmits : endpoint.access.admits claims = true)
    (hserve : serve ctx claims s req segment endpoint = .ok (response, s')) :
    handle ctx s req = (answered req response, s') := by
  have hgranted : guarded ctx s req endpoint segment = .ok (response, s') := by
    unfold guarded
    split
    · next hanyone => exact absurd hanyone hguarded
    · exact bind_eq_ok.mpr ⟨claims, toOption_eq_some.mp hcaller,
        bind_eq_ok.mpr ⟨(), by rw [requireAccess, if_pos hadmits], hserve⟩⟩
  rw [handle_eq, dispatch_asked htarget hclean hasks, hgranted]

end

theorem bearer_signed (claims : Claims) (method target : Text) (body : List Char) :
    bearer (signed claims method target body) =
      some (Token.sign earlyContext.secret claims) := by
  rw [bearer, header_authorization rfl]
  exact after?_append _ _

def onlyFirst : Store := { accounts := [firstAdmin] }

/-- The first administrator signs out. -/
def logoutOfFirst : Request := signed asFirst "POST" "/api/auth/logout" []

def firstSignedOut : Store := { onlyFirst with revocations := [⟨"1", { unix := 604800 }⟩] }

/-- Method and target say what is asked for, whoever asks. -/
theorem asksFor_signed (claims : Claims) (method target : Text) (body : List Char) :
    asksFor (signed claims method target body) = asksFor { method, target } := rfl

theorem asksFor_paths :
    asksFor { method := "POST", target := "/api/auth/logout" } = some (Endpoint.logout, []) ∧
      asksFor { method := "GET", target := "/api/branches" } = some (Endpoint.listBranches, []) ∧
      asksFor { method := "GET", target := "/api/auth/me" } = some (Endpoint.me, []) := by
  decide +kernel

theorem logoutOfFirst_asks : asksFor logoutOfFirst = some (Endpoint.logout, []) := by
  rw [logoutOfFirst, asksFor_signed]
  exact asksFor_paths.1

theorem logoutOfFirst_handled :
    handle earlyContext onlyFirst logoutOfFirst =
      (answered logoutOfFirst (.done "logged out"), firstSignedOut) :=
  handle_served (by decide) (by decide) logoutOfFirst_asks (by decide)
    (caller_signed rfl asFirst_content (by decide) rfl) (by decide) rfl

/-- The first administrator asks for the branches. -/
def listingByFirst : Request := signed asFirst "GET" "/api/branches" []

theorem listingByFirst_asks : asksFor listingByFirst = some (Endpoint.listBranches, []) := by
  rw [listingByFirst, asksFor_signed]
  exact asksFor_paths.2.1

theorem listingByFirst_guarded : AsksWithToken listingByFirst :=
  ⟨by decide, by decide, .listBranches, [], listingByFirst_asks, by decide⟩

/-- An hour after signing out the token is refused, though expired tokens were forgotten. -/
theorem logoutOfFirst_permanent :
    (handle earlyContext onlyFirst logoutOfFirst).1.status = 200 ∧
      (handle { earlyContext with now := { unix := 3600 } }
        (Event.applyAll (handle earlyContext onlyFirst logoutOfFirst).2
          [.purge { unix := 1800 }]) listingByFirst).1.status = 401 := by
  have hanswer : (handle earlyContext onlyFirst logoutOfFirst).1.status = 200 := by
    rw [logoutOfFirst_handled]
    rfl
  refine ⟨hanswer, ?_⟩
  refine (logout_permanent earlyContext onlyFirst logoutOfFirst [] _
    [.purge { unix := 1800 }, .request { earlyContext with now := { unix := 3600 } } listingByFirst]
    logoutOfFirst_asks (bearer_signed ..) hanswer ?_ (by decide)).1 [.purge { unix := 1800 }] _
    listingByFirst [] rfl (bearer_signed ..) listingByFirst_guarded
  intro t ht
  rw [Token.expiry?, Token.content?_sign, asFirst_content, Option.bind_some] at ht
  cases ht
  decide

/-- A request that takes no token, with a token all the same. -/
def messageOfFirst : Request :=
  signed asFirst "POST" "/api/password-requests"
    "\x7b\"name\":\"n\",\"email\":\"a@b.c\",\"message\":\"lost password\"\x7d".toList

/-- The last day of the year 9999. -/
def lateContext : Context := { earlyContext with now := { unix := 253402214400 } }

/-- What a token of the first administrator says that expires in the year 10000. -/
def asLateFirst : Claims := Claims.ofAccount firstAdmin "1" lateContext.now.unix

theorem asLateFirst_content :
    Token.claimsOf (Token.encodePart asLateFirst.toJson) = some asLateFirst :=
  Token.claimsOf_ofAccount 253402819200 253402214400 (by decide) (by decide) (by decide)

def lateLogout : Request := signed asLateFirst "POST" "/api/auth/logout" []

def lateVisit : Request := signed asLateFirst "GET" "/api/auth/me" []

theorem lateLogout_handled :
    handle lateContext onlyFirst lateLogout = (answered lateLogout (.done "logged out"),
      { onlyFirst with revocations := [⟨"1", { unix := 253402819200 }⟩] }) := by
  have hasks : asksFor lateLogout = some (Endpoint.logout, []) := by
    rw [lateLogout, asksFor_signed]
    exact asksFor_paths.1
  exact handle_served (by decide) (by decide) hasks (by decide)
    (caller_signed rfl asLateFirst_content (by decide) rfl) (by decide) rfl

theorem lateVisit_handled :
    handle lateContext onlyFirst lateVisit =
      (answered lateVisit (.json 200 firstAdmin.toJson), onlyFirst) := by
  have hasks : asksFor lateVisit = some (Endpoint.me, []) := by
    rw [lateVisit, asksFor_signed]
    exact asksFor_paths.2.2
  exact handle_served (by decide) (by decide) hasks (by decide)
    (caller_signed rfl asLateFirst_content (by decide) rfl) (by decide) rfl

/-- What takes no token does not look at one, and a token that expires in the year 10000 is forgotten
before it has expired, since the text of its expiry time comes first. -/
theorem logoutOfFirst_ignored :
    (handle earlyContext onlyFirst logoutOfFirst).1.status = 200 ∧
      bearer messageOfFirst = bearer logoutOfFirst ∧
      (handle earlyContext (handle earlyContext onlyFirst logoutOfFirst).2
        messageOfFirst).1.status = 201 ∧
      (handle lateContext onlyFirst lateLogout).1.status = 200 ∧
      bearer lateVisit = bearer lateLogout ∧
      (handle lateContext (Event.applyAll (handle lateContext onlyFirst lateLogout).2
        [.purge lateContext.now]) lateVisit).1.status = 200 := by
  have hpurged : Event.applyAll { onlyFirst with revocations := [⟨"1", { unix := 253402819200 }⟩] }
      [.purge lateContext.now] = onlyFirst := by decide
  rw [logoutOfFirst_handled, lateLogout_handled, hpurged, lateVisit_handled]
  refine ⟨rfl, ?_, by decide +kernel, rfl, ?_, rfl⟩
  · rw [messageOfFirst, logoutOfFirst, bearer_signed, bearer_signed]
  · rw [lateVisit, lateLogout, bearer_signed, bearer_signed]

end Api
end Stockroom

import Stockroom.Proofs.Api.Act

/-!
Requests one after another. Every request is a step: it was refused, it asked for what anyone may
have, or it was admitted for what its token says.

Main definitions and statements:
* `caller`: what the token of a request says, if it is valid and has not been revoked;
* `Step`, `handle_step`: every request is a step;
* `handle_admitted`, `dispatch_served`: whoever is admitted is served, and whoever is answered was
  served;
* `handleAll`, `handleAll_keeps`, `handleAll_invariant`: what every request keeps, a run of requests
  keeps.
-/
namespace Stockroom
set_option autoImplicit false

namespace Api

/-! ## Requests -/

/-- The claims of the token of a request, if it is valid and has not been revoked. -/
def caller (ctx : Context) (s : Store) (req : Request) : Option Claims :=
  (authenticate ctx s req).toOption

/-- A store and the store after one request. -/
inductive Step (ctx : Context) (s : Store) (req : Request) : Store → Prop where
  | refused : Step ctx s req s
  | unguarded {s' : Store} (endpoint : Endpoint) (segment : Text)
      (hasks : asksFor req = some (endpoint, segment)) (haccess : endpoint.access = .anyone)
      (act : Act {} s endpoint s') : Step ctx s req s'
  | admitted {s' : Store} (claims : Claims) (endpoint : Endpoint) (segment : Text)
      (hasks : asksFor req = some (endpoint, segment)) (hcaller : caller ctx s req = some claims)
      (haccess : endpoint.access.admits claims = true) (act : Act claims s endpoint s') :
      Step ctx s req s'

section
variable {ctx : Context} {claims : Claims} {s s' : Store} {req : Request}

theorem guarded_step {response : Response} {endpoint : Endpoint} {segment : Text}
    (hasks : asksFor req = some (endpoint, segment))
    (h : guarded ctx s req endpoint segment = .ok (response, s')) : Step ctx s req s' := by
  have hadmitted : ∀ claims, authenticate ctx s req = .ok claims →
      endpoint.access.admits claims = true → Act claims s endpoint s' → Step ctx s req s' := by
    intro claims hauth haccess act
    have hcaller : caller ctx s req = some claims := toOption_eq_some.mpr hauth
    exact .admitted claims endpoint segment hasks hcaller haccess act
  cases haccess : endpoint.access with
  | anyone =>
    simp only [guarded, haccess] at h
    exact .unguarded endpoint segment hasks haccess (serve_act h)
  | signedIn | manager | admin =>
    simp only [guarded, haccess] at h
    obtain ⟨claims, hauth, h⟩ := bind_eq_ok.mp h
    obtain ⟨_, hrequire, h⟩ := bind_eq_ok.mp h
    refine hadmitted claims hauth ?_ (serve_act h)
    rw [haccess]
    unfold requireAccess at hrequire
    split at hrequire
    · assumption
    · cases hrequire

theorem handle_step (ctx : Context) (s : Store) (req : Request) :
    Step ctx s req (handle ctx s req).2 := by
  rw [handle_eq]
  cases hdispatch : dispatch ctx s req with
  | error response => exact .refused
  | ok answer =>
    obtain ⟨response, s'⟩ := answer
    simp only [dispatch] at hdispatch
    split at hdispatch
    · cases hdispatch
    split at hdispatch
    · cases hdispatch
    split at hdispatch
    · next endpoint segment hroute => exact guarded_step hroute hdispatch
    · split at hdispatch
      · cases hdispatch
      · cases hdispatch

theorem Step.act (step : Step ctx s req s') : ∃ claims endpoint, Act claims s endpoint s' := by
  cases step with
  | refused => exact ⟨{}, .me, .same _⟩
  | unguarded endpoint segment hasks haccess act => exact ⟨{}, endpoint, act⟩
  | admitted claims endpoint segment hasks hcaller haccess act => exact ⟨claims, endpoint, act⟩

theorem Step.change (step : Step ctx s req s') : s.Change s' := by
  obtain ⟨claims, endpoint, act⟩ := step.act
  exact act.change

theorem handle_keyed (ctx : Context) (req : Request) (h : s.Keyed) : (handle ctx s req).2.Keyed :=
  (handle_step ctx s req).change.keyed h

/-- Of a request only its headers say who asks, and of the store only what was revoked. -/
theorem caller_congr {t : Store} {other : Request} (hheaders : other.headers = req.headers)
    (hrevoked : t.isRevoked = s.isRevoked) : caller ctx t other = caller ctx s req := by
  have hheader : other.header "Authorization" = req.header "Authorization" := by
    rw [Request.header, Request.header, hheaders]
  rw [caller, caller, authenticate, authenticate, hheader, hrevoked]

variable {endpoint : Endpoint} {segment : Text}

theorem dispatch_asked (htarget : (req.target == Text.ofString "*") = false)
    (hclean : (cleanPath req.asked.path != req.asked.path) = false)
    (hasks : asksFor req = some (endpoint, segment)) :
    dispatch ctx s req = guarded ctx s req endpoint segment := by
  unfold asksFor at hasks
  simp only [dispatch, htarget, hclean, hasks, Bool.false_and, Bool.false_eq_true, if_false]

/-- Whoever is admitted is served. -/
theorem handle_admitted (htarget : (req.target == Text.ofString "*") = false)
    (hclean : (cleanPath req.asked.path != req.asked.path) = false)
    (hasks : asksFor req = some (endpoint, segment)) (hguarded : endpoint.access ≠ .anyone)
    (hcaller : caller ctx s req = some claims) (hadmits : endpoint.access.admits claims = true)
    (hserve : (serve ctx claims s req segment endpoint).toOption.map (·.2) = some s') :
    (handle ctx s req).2 = s' := by
  have hauth : authenticate ctx s req = .ok claims := toOption_eq_some.mp hcaller
  have hrequire : requireAccess endpoint.access claims = .ok () := by
    rw [requireAccess, if_pos hadmits]
  obtain ⟨⟨response, after⟩, hanswer, rfl⟩ := Option.map_eq_some_iff.mp hserve
  have hgranted : guarded ctx s req endpoint segment = .ok (response, after) := by
    unfold guarded
    split
    · next hanyone => exact absurd hanyone hguarded
    · exact bind_eq_ok.mpr ⟨claims, hauth,
        bind_eq_ok.mpr ⟨(), hrequire, toOption_eq_some.mp hanswer⟩⟩
  rw [handle_eq, dispatch_asked htarget hclean hasks, hgranted]

/-- Whatever is answered, rather than refused, is answered by the endpoint that was asked for. -/
theorem dispatch_served {response : Response} (h : dispatch ctx s req = .ok (response, s')) :
    ∃ claims endpoint segment, asksFor req = some (endpoint, segment) ∧
      serve ctx claims s req segment endpoint = .ok (response, s') := by
  simp only [dispatch] at h
  split at h
  · cases h
  split at h
  · cases h
  split at h
  · next endpoint segment hroute =>
    unfold guarded at h
    split at h
    · exact ⟨{}, endpoint, segment, hroute, h⟩
    · obtain ⟨claims, -, h⟩ := bind_eq_ok.mp h
      obtain ⟨_, -, h⟩ := bind_eq_ok.mp h
      exact ⟨claims, endpoint, segment, hroute, h⟩
  · split at h
    · cases h
    · cases h

theorem handle_serves (ctx : Context) (s : Store) (req : Request) :
    (handle ctx s req).2 = s ∨ ∃ claims endpoint segment response,
      serve ctx claims s req segment endpoint = .ok (response, (handle ctx s req).2) := by
  rw [handle_eq]
  cases hdispatch : dispatch ctx s req with
  | error response => exact .inl rfl
  | ok answer =>
    obtain ⟨response, s'⟩ := answer
    obtain ⟨claims, endpoint, segment, -, hserve⟩ := dispatch_served hdispatch
    exact .inr ⟨claims, endpoint, segment, response, hserve⟩

end

/-! ## Runs -/

/-- The store after some requests, each handled at its own time. -/
def handleAll (s : Store) : List (Context × Request) → Store
  | [] => s
  | (ctx, req) :: rest => handleAll (handle ctx s req).2 rest

/-- Every request of a run meets a condition on the stores before and after it. -/
def Throughout (cond : Context → Request → Store → Store → Prop) (s : Store) :
    List (Context × Request) → Prop
  | [] => True
  | (ctx, req) :: rest =>
    cond ctx req s (handle ctx s req).2 ∧ Throughout cond (handle ctx s req).2 rest

/-- What every request that meets the condition keeps, a run of such requests keeps. -/
theorem handleAll_keeps {P : Store → Prop} (cond : Context → Request → Store → Store → Prop)
    (step : ∀ ctx req s, P s → cond ctx req s (handle ctx s req).2 → P (handle ctx s req).2)
    (s : Store) (run : List (Context × Request)) (hrun : Throughout cond s run) (hs : P s) :
    P (handleAll s run) := by
  induction run generalizing s with
  | nil => exact hs
  | cons first rest ih =>
    obtain ⟨ctx, req⟩ := first
    exact ih (handle ctx s req).2 hrun.2 (step ctx req s hs hrun.1)

/-- What holds of every time at which a request of a run is handled. -/
theorem throughout_of_forall {cond : Context → Prop} (s : Store) {run : List (Context × Request)}
    (h : ∀ step ∈ run, cond step.1) : Throughout (fun ctx _ _ _ => cond ctx) s run := by
  induction run generalizing s with
  | nil => trivial
  | cons first rest ih =>
    exact ⟨h first List.mem_cons_self, ih _ fun step hstep => h step (List.mem_cons_of_mem _ hstep)⟩

theorem handleAll_append (s : Store) (before after : List (Context × Request)) :
    handleAll s (before ++ after) = handleAll (handleAll s before) after := by
  induction before generalizing s with
  | nil => rfl
  | cons first rest ih => exact ih _

theorem handleAll_invariant {P : Store → Prop}
    (step : ∀ ctx req s, P s → P (handle ctx s req).2) (s : Store)
    (run : List (Context × Request)) (hs : P s) : P (handleAll s run) := by
  induction run generalizing s with
  | nil => exact hs
  | cons first rest ih =>
    obtain ⟨ctx, req⟩ := first
    exact ih (handle ctx s req).2 (step ctx req s hs)

/-! ## Someone who signed in -/

/-- A request with the token of claims. -/
def signed (claims : Claims) (method target : Text) (body : List Char) : Request :=
  { method, target, body := .text body
    headers := [("Authorization", "Bearer " ++ Token.sign earlyContext.secret claims)] }

/-- A token is accepted at a time at which it has no fault. -/
theorem caller_signed {ctx : Context} {claims : Claims} {s : Store} {method target : Text}
    {body : List Char} (hsecret : ctx.secret = earlyContext.secret)
    (hcontent : Token.claimsOf (Token.encodePart claims.toJson) = some claims)
    (hfault : Token.fault claims ctx.now = none) (hrevoked : s.isRevoked claims.id = .ok false) :
    caller ctx s (signed claims method target body) = some claims :=
  toOption_eq_some.mpr (authenticate_signed (by rw [hsecret]; rfl) hcontent hfault hrevoked)

theorem signed_caller {claims : Claims} {s : Store} {method target : Text} {body : List Char}
    (hvalid : caller earlyContext {} (signed claims "GET" "/" []) = some claims)
    (hrevoked : s.isRevoked = Store.isRevoked {}) :
    caller earlyContext s (signed claims method target body) = some claims :=
  (caller_congr rfl hrevoked).trans hvalid

theorem managerOfB_valid :
    caller earlyContext {} (signed managerOfB "GET" "/" []) = some managerOfB := by
  have hsame : caller earlyContext {} (signed managerOfB "GET" "/" []) =
      caller earlyContext storeOfA requestFromB := caller_congr rfl rfl
  exact hsame.trans (toOption_eq_some.mpr requestFromB_authenticated)

def firstAdmin : Account :=
  { id := 1, username := "first", role := Role.admin.tag
    passwordHash := .ofKey (Bcrypt.keyOf (Text.bytes "password1")) }

/-- What the token of the first administrator says. -/
def asFirst : Claims := Claims.ofAccount firstAdmin "1" earlyContext.now.unix

theorem readSeconds_zero : Claims.readSeconds (Text.ofInt 0).toChars = some 0 := by decide +kernel

theorem asFirst_content : Token.claimsOf (Token.encodePart asFirst.toJson) = some asFirst :=
  Token.claimsOf_ofAccount 604800 0 (by decide) (by decide) readSeconds_zero

theorem asFirst_valid : caller earlyContext {} (signed asFirst "GET" "/" []) = some asFirst :=
  caller_signed rfl asFirst_content (by decide) rfl

end Api
end Stockroom

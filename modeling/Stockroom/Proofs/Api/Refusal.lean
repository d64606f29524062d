import Stockroom.Api.Router

/-!
What a refusal looks like. Whatever an endpoint refuses is answered with a failure: a status of at
least 400 and the reason in words. So nobody takes a refusal for success.

Main definitions and statements:
* `Explains`: every refusal of a computation is a failure, with a lemma for each way in which
  computations are put together;
* `guarded_explains`: whoever is not signed in, or not let in, is told so.
-/
namespace Stockroom
set_option autoImplicit false

namespace Api

/-- Every refusal is a failure. -/
def Explains {α : Type} (x : Except Response α) : Prop :=
  ∀ r, x = .error r → ∃ status message, 400 ≤ status ∧ r = .failure status message

namespace Explains

variable {α β : Type} {x : Except Response α}

theorem refuse (status : Nat) (message : Text) (h : 400 ≤ status) :
    Explains (Api.refuse status message : Except Response α) := by
  rintro r ⟨⟩
  exact ⟨status, message, h, rfl⟩

theorem ok (a : α) : Explains (.ok a : Except Response α) := by
  intro r h
  cases h

theorem bind {f : α → Except Response β} (hx : Explains x) (hf : ∀ a, Explains (f a)) :
    Explains (x >>= f) := by
  cases x with
  | ok a => exact hf a
  | error e =>
    rintro r ⟨⟩
    exact hx e rfl

theorem orRefuse (x : Except StoreError α) (status : Nat) (message : Text) (h : 400 ≤ status) :
    Explains (Api.orRefuse x status message) := by
  cases x with
  | ok a => exact ok a
  | error e => exact refuse status message h

theorem orExplain (x : Except StoreError α) (action : Text) :
    Explains (Api.orExplain x action) := by
  unfold Api.orExplain
  split
  · exact ok _
  · exact refuse _ _ (by decide)
  · exact refuse _ _ (by decide)

theorem sentRecord {ε : Type} [Inhabited α] (fields : List (Json.Field ε α)) (req : Request) :
    Explains (Api.sentRecord fields req) := by
  unfold Api.sentRecord
  split
  · exact ok _
  · exact refuse _ _ (by decide)

theorem requireAccess (access : Access) (claims : Claims) :
    Explains (Api.requireAccess access claims) := by
  unfold Api.requireAccess
  split
  · exact ok _
  · exact refuse _ _ (by decide)

theorem authenticate (ctx : Context) (s : Store) (req : Request) :
    Explains (Api.authenticate ctx s req) := by
  unfold Api.authenticate
  split
  · exact refuse _ _ (by decide)
  · split
    · exact refuse _ _ (by decide)
    · split
      · exact refuse _ _ (by decide)
      · exact refuse _ _ (by decide)
      · exact ok _

theorem idOf (segment what : Text) : Explains (Api.idOf segment what) := by
  unfold Api.idOf
  split
  · exact ok _
  · exact refuse _ _ (by decide)

theorem orMissing (r : Option α) (message : Text) : Explains (Api.orMissing r message) := by
  unfold Api.orMissing
  split
  · exact ok _
  · exact refuse _ _ (by decide)

theorem listedBranch (claims : Claims) (req : Request) : Explains (Api.listedBranch claims req) := by
  unfold Api.listedBranch
  split
  · exact ok _
  · exact refuse _ _ (by decide)

theorem status_ne (h : Explains x) {r : Response} (hx : x = .error r) {status : Nat}
    (hstatus : status < 400) : r.status ≠ status := by
  obtain ⟨given, message, hgiven, rfl⟩ := h r hx
  intro heq
  have hsame : given = status := heq
  omega

end Explains

section
variable {ctx : Context} {claims : Claims} {s : Store} {req : Request} {endpoint : Endpoint}
  {segment : Text}

theorem guarded_explains (h : ∀ claims, Explains (serve ctx claims s req segment endpoint)) :
    Explains (guarded ctx s req endpoint segment) := by
  unfold guarded
  split
  · exact h _
  · exact .bind (.authenticate ctx s req) fun claims => .bind (.requireAccess _ claims) fun _ =>
      h claims

/-! ## Accounts -/

theorem login_explains (ctx : Context) (s : Store) (req : Request) : Explains (login ctx s req) := by
  refine .bind (.sentRecord _ _) fun sent => ?_
  split
  · exact .refuse _ _ (by decide)
  refine .bind (.orRefuse _ _ _ (by decide)) fun found => ?_
  split
  · exact .refuse _ _ (by decide)
  · split
    · exact .refuse _ _ (by decide)
    · exact .ok _

theorem logout_explains (claims : Claims) (s : Store) : Explains (logout claims s) :=
  .bind (.orRefuse _ _ _ (by decide)) fun _ => .ok _

theorem me_explains (claims : Claims) (s : Store) : Explains (me claims s) := by
  refine .bind (.orRefuse _ _ _ (by decide)) fun found => ?_
  split
  · exact .refuse _ _ (by decide)
  · split
    · exact .refuse _ _ (by decide)
    · exact .ok _

/-! ## New items and consumables -/

theorem branchForWrite_explains (claims : Claims) (s : Store) (branch : Text) :
    Explains (branchForWrite claims s branch) := by
  unfold branchForWrite
  generalize (if branch.isEmpty && claims.role == Role.manager.tag then claims.branch
    else branch) = branch
  dsimp only
  split
  · exact .refuse _ _ (by decide)
  split
  · exact .refuse _ _ (by decide)
  refine .bind (.orRefuse _ _ _ (by decide)) fun found => ?_
  split
  · exact .ok _
  · exact .refuse _ _ (by decide)

theorem createItem_explains (ctx : Context) (claims : Claims) (s : Store) (req : Request) :
    Explains (createItem ctx claims s req) :=
  .bind (.sentRecord _ _) fun sent => .bind (branchForWrite_explains claims s sent.branch)
    fun _ => .bind (.orExplain _ _) fun _ => .ok _

theorem sentConsumable_explains (req : Request) : Explains (sentConsumable req) := by
  unfold sentConsumable
  split
  · exact .ok _
  · exact .refuse _ _ (by decide)
  · exact .refuse _ _ (by decide)

theorem createConsumable_explains (ctx : Context) (claims : Claims) (s : Store) (req : Request) :
    Explains (createConsumable ctx claims s req) :=
  .bind (sentConsumable_explains req) fun sent => .bind
    (branchForWrite_explains claims s sent.branch) fun _ => .bind (.orExplain _ _) fun _ => .ok _

theorem getConsumable_explains (claims : Claims) (s : Store) (segment : Text) :
    Explains (getConsumable claims s segment) := by
  refine .bind (.bind (.idOf _ _) fun id => .bind (.orRefuse _ _ _ (by decide)) fun found =>
    .bind (.orMissing _ _) fun row => ?_) fun _ => .ok _
  split
  · exact .ok _
  · exact .refuse _ _ (by decide)

theorem listConsumables_explains (claims : Claims) (s : Store) (req : Request) :
    Explains (listConsumables claims s req) := by
  refine .bind (.listedBranch _ _) fun branch => ?_
  simp only
  split
  · exact .refuse _ _ (by decide)
  · exact .bind (.orRefuse _ _ _ (by decide)) fun _ => .ok _

end

end Api
end Stockroom

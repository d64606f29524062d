import Stockroom.Proofs.Api.Run
import Stockroom.Proofs.Store.Readback

/-!
Requests statement by statement. Every statement of the database runs by itself on the store of the
moment; between two of them other requests may run theirs. A handler is written as a program that
asks for one statement after another. A request that is left alone is answered as by the endpoint
that was asked for, and leaves the same store.

Main definitions and statements:
* `Statement`, `Statement.run`: the statements and what each does to a store;
* `Program`, `Handler`: statements one after another, each chosen by the answers so far;
* `Concern`, `Concern.handler`: the endpoints that delete a branch, or add or change inventory;
* `handling`: a whole request; `handling_alone`: a request that is left alone.
-/
namespace Stockroom
set_option autoImplicit false

/-! ## Statements -/

namespace Store

/-- Adds the row of a consumable, which is not read back. -/
def addConsumableRow (s : Store) (now : Instant) (c : Consumable) :
    Except StoreError (Int × Store) := do
  s.writable .consumables true "creating consumable"
  let id := nextId (s.consumables.map (·.id))
  let row ← consumableRow c id now.stored now.stored "creating consumable"
  return (id, { s with consumables := s.consumables ++ [row] })

/-- Writes over the item with an id, if there is one. -/
def overwriteItem (s : Store) (now : Instant) (id : Int) (r : Item) :
    Except StoreError (Unit × Store) :=
  match s.items.find? (·.id == id) with
  | none => do
    s.writable .items false "updating inventory item"
    return ((), s)
  | some current => do
    let (_, s) ← s.replaceItem now current r
    return ((), s)

/-- Writes over the consumable with an id, if there is one. -/
def overwriteConsumable (s : Store) (now : Instant) (id : Int) (c : Consumable) :
    Except StoreError (Unit × Store) :=
  match s.consumables.find? (·.id == id) with
  | none => do
    s.writable .consumables false "updating consumable"
    return ((), s)
  | some current => do
    s.writable .consumables true "updating consumable"
    let row ← consumableRow c current.id current.createdAt now.stored "updating consumable"
    return ((), { s with
      consumables := s.consumables.map fun old => if old.id == current.id then row else old })

end Store

/-! ## Statements that are part of an operation -/

namespace Store

section
variable {s : Store} {now : Instant}

theorem countHeld_failsOnly (name : Text) :
    FailsOnly (· = .database "checking branch inventory") (s.countHeld name) :=
  .bind (readable_failsOnly _ _) fun _ _ => .ok _

theorem retireBranch_failsOnly (id : Int) :
    FailsOnly (· = .database "deleting branch") (s.retireBranch now id) :=
  .bind (writable_failsOnly _ _ _) fun _ _ => .ok _

theorem deleteBranch_eq {id : Int} {b : Branch} (now : Instant)
    (hfound : s.branch? id = .ok (some b)) :
    s.deleteBranch now id = s.countHeld b.name >>= fun held =>
      if held > 0 then .error (.branchInUse held) else s.retireBranch now id := by
  rw [deleteBranch, hfound]
  rfl

/-- Reading back what was added does not fail. -/
theorem addConsumableRow_eq (hs : s.Keyed) {c : Consumable} (hvalid : c.validate = .ok ()) :
    s.addConsumableRow now c = (s.insertConsumable now c).map fun p => (p.1.id, p.2) := by
  obtain ⟨row, loaded, hrow, hload, hid, hloaded⟩ := consumableRow_loads hvalid
    (nextId (s.ids .consumables)) now.stored now.stored "creating consumable"
  have hread : loadConsumable { s with consumables := s.consumables ++ [row] } "getting consumable"
      row = .ok loaded := loadConsumable_whole hload (hid ▸ hs.fresh .consumables)
  change consumableRow c (nextId (s.consumables.map (·.id))) _ _ _ = _ at hrow
  unfold addConsumableRow insertConsumable
  cases s.writable .consumables true "creating consumable" with
  | error e => rfl
  | ok _ =>
    simp only [bind, Except.bind, hrow, hread, pure, Except.pure, Except.map, hloaded]
    rfl

/-- Reading back what was replaced does not fail. -/
theorem overwriteConsumable_eq {c existing : Consumable} {id : Int} (hvalid : c.validate = .ok ())
    (hfound : s.consumable? id = .ok (some existing)) :
    s.overwriteConsumable now id c =
      (s.replaceConsumable now existing c).map fun p => ((), p.2) := by
  obtain ⟨old, hold, hexisting⟩ := consumable?_some hfound
  have holdid : existing.id = old.id := ConsumableRow.load_id hexisting
  have hcreated : existing.createdAt = old.createdAt := ConsumableRow.load_createdAt hexisting
  obtain ⟨row, loaded, hrow, hload, hid, -⟩ := consumableRow_loads hvalid
    existing.id existing.createdAt now.stored "updating consumable"
  have hread : loadConsumable { s with consumables := s.consumables.map fun old =>
      if old.id == existing.id then row else old } "getting consumable" row = .ok loaded :=
    loadConsumable_whole hload (hid ▸ consumable?_whole hfound)
  unfold overwriteConsumable replaceConsumable
  rw [hold]
  dsimp only
  rw [← holdid, ← hcreated]
  cases s.writable .consumables true "updating consumable" with
  | error e => rfl
  | ok _ => simp only [bind, Except.bind, hrow, hread, pure, Except.pure, Except.map]

theorem overwriteItem_eq {r existing : Item} {id : Int}
    (hfound : s.item? id = .ok (some existing)) :
    s.overwriteItem now id r = (s.replaceItem now existing r).map fun p => ((), p.2) := by
  unfold overwriteItem
  rw [item?_some hfound]
  dsimp only
  cases s.replaceItem now existing r with
  | error e => rfl
  | ok p => rfl

end

end Store

/-- A statement of the database. -/
inductive Statement where
  | isRevoked (tokenId : Text)
  | branch (id : Int)
  | branchNamed (name : Text)
  | countHeld (name : Text)
  | retireBranch (now : Instant) (id : Int)
  | item (id : Int)
  | insertItem (now : Instant) (r : Item)
  | overwriteItem (now : Instant) (id : Int) (r : Item)
  | consumable (id : Int)
  | insertConsumable (now : Instant) (c : Consumable)
  | overwriteConsumable (now : Instant) (id : Int) (c : Consumable)
  deriving DecidableEq, Repr

namespace Statement

/-- What a statement gives when it succeeds; one that adds a row gives its id. -/
def Result : Statement → Type
  | isRevoked _ => Bool
  | branch _ | branchNamed _ => Option Branch
  | countHeld _ => Nat
  | item _ => Option Item
  | consumable _ => Option Consumable
  | insertItem .. | insertConsumable .. => Int
  | retireBranch .. | overwriteItem .. | overwriteConsumable .. => Unit

abbrev Answer (st : Statement) : Type := Except StoreError st.Result

/-- A statement that fails changes nothing. -/
def settle {α : Type} (s : Store) : Except StoreError (α × Store) → Except StoreError α × Store
  | .ok (a, s') => (.ok a, s')
  | .error e => (.error e, s)

/-- The answer to a statement, and the store after it. -/
def run (s : Store) : (st : Statement) → st.Answer × Store
  | isRevoked tokenId => (s.isRevoked tokenId, s)
  | branch id => (s.branch? id, s)
  | branchNamed name => (s.branchNamed? name, s)
  | countHeld name => (s.countHeld name, s)
  | item id => (s.item? id, s)
  | consumable id => (s.consumable? id, s)
  | retireBranch now id => settle s ((s.retireBranch now id).map fun s' => ((), s'))
  | insertItem now r => settle s ((s.insertItem now r).map fun (row, s') => (row.id, s'))
  | overwriteItem now id r => settle s (s.overwriteItem now id r)
  | insertConsumable now c => settle s (s.addConsumableRow now c)
  | overwriteConsumable now id c => settle s (s.overwriteConsumable now id c)

end Statement

/-! ## Programs -/

/-- Statements one after another, each chosen by the answers to those before it. -/
inductive Program (α : Type) : Type where
  | done (a : α)
  | call (st : Statement) (next : st.Answer → Program α)

namespace Program

variable {α β : Type}

def bind (f : α → Program β) : Program α → Program β
  | done a => f a
  | call st next => call st fun answer => (next answer).bind f

instance : Monad Program where
  pure := done
  bind p f := p.bind f

/-- A program that runs while nothing else does. -/
def alone (s : Store) : Program α → α × Store
  | done a => (a, s)
  | call st next => (next (st.run s).1).alone (st.run s).2

theorem alone_bind (p : Program α) (f : α → Program β) (s : Store) :
    (p.bind f).alone s = (f (p.alone s).1).alone (p.alone s).2 := by
  induction p generalizing s with
  | done a => rfl
  | call st next ih => exact ih _ _

end Program

namespace Api

/-! ## The handlers -/

/-- A program that may refuse a request. -/
abbrev Handler := ExceptT Response Program

/-- Runs one statement. -/
def ask (st : Statement) : Handler st.Answer := ExceptT.mk (.call st fun answer => .done (.ok answer))

/-- The claims of a token that was not given up. -/
def unrevoked (claims : Claims) : Handler Claims := do
  match ← ask (.isRevoked claims.id) with
  | .error _ => refuse 500 "internal error"
  | .ok true => refuse 401 "token revoked"
  | .ok false => return claims

/-- The claims of the token that came with a request. -/
def authenticating (ctx : Context) (req : Request) : Handler Claims :=
  match Text.after? "Bearer " (req.header "Authorization") with
  | none => refuse 401 "missing or invalid authorization header"
  | some token =>
    match Token.validate ctx.secret ctx.now token with
    | .error _ => refuse 401 "invalid token"
    | .ok claims => unrevoked claims

/-- The branch of a record that is to be stored. -/
def placing (claims : Claims) (branch : Text) : Handler Text := do
  let branch :=
    if branch.isEmpty && claims.role == Role.manager.tag then claims.branch else branch
  if branch.isEmpty then refuse 400 "branch required"
  if !mayAccess claims branch then refuse 403 ("no access to branch " ++ branch)
  match ← orRefuse (← ask (.branchNamed branch)) 500 "failed to check branch" with
  | some _ => return branch
  | none => refuse 400 ("unknown branch " ++ branch)

/-- What was stored is read back. A row that is gone by then breaks the handling off. -/
def readBack {ρ : Type} : Option ρ → Except Response ρ
  | some row => .ok row
  | none => .error { status := 0, body := .nothing }

def findingBranch (id : Int) : Handler Branch := do
  orMissing (← orRefuse (← ask (.branch id)) 404 "branch not found") "branch not found"

def deletingBranch (ctx : Context) (segment : Text) : Handler Response := do
  let id ← idOf segment "branch"
  let _ ← findingBranch id
  match ← orRefuse (← ask (.branch id)) 500 "failed to delete branch" with
  | none => return .done "branch deleted"
  | some b =>
    let held : Nat ← orRefuse (← ask (.countHeld b.name)) 500 "failed to delete branch"
    if held > 0 then refuse 409 (StoreError.branchInUse held).message
    let _ ← orRefuse (← ask (.retireBranch ctx.now id)) 500 "failed to delete branch"
    return .done "branch deleted"

def creatingItem (ctx : Context) (claims : Claims) (req : Request) : Handler Response := do
  let sent ← sentRecord Item.wireFields req
  let branch ← placing claims sent.branch
  let r := { sent with branch }
  let _ ← orExplain (Store.checkItem r) "create inventory item"
  let id : Int ← orExplain (← ask (.insertItem ctx.now r)) "create inventory item"
  let row ← readBack (← orExplain (← ask (.item id)) "create inventory item")
  return .json 201 (Item.toJson row)

def reachingItem (claims : Claims) (segment : Text) : Handler Item := do
  let id ← idOf segment "inventory item"
  let row : Item ← orMissing (← orRefuse (← ask (.item id)) 500 "failed to get inventory item")
    "inventory item not found"
  if mayAccess claims row.branch then return row else refuse 404 "inventory item not found"

def updatingItem (ctx : Context) (claims : Claims) (segment : Text) (req : Request) :
    Handler Response := do
  let existing ← reachingItem claims segment
  let sent ← sentRecord Item.wireFields req
  let branch ← placing claims (if sent.branch.isEmpty then existing.branch else sent.branch)
  let current : Item ← orMissing (← orExplain (← ask (.item existing.id)) "update inventory item")
    "inventory item not found"
  let r := { sent with branch, kind := current.kind }
  let _ ← orExplain (Store.checkItem r) "update inventory item"
  let _ ← orExplain (← ask (.overwriteItem ctx.now existing.id r)) "update inventory item"
  let row ← orMissing (← orExplain (← ask (.item existing.id)) "update inventory item")
    "inventory item not found"
  return .json 200 (Item.toJson row)

def creatingConsumable (ctx : Context) (claims : Claims) (req : Request) : Handler Response := do
  let sent ← sentConsumable req
  let branch ← placing claims sent.branch
  let c ← orExplain (readyConsumable { sent with branch }) "create consumable"
  let id : Int ← orExplain (← ask (.insertConsumable ctx.now c)) "create consumable"
  let row ← readBack (← orExplain (← ask (.consumable id)) "create consumable")
  return .json 201 (shownConsumable row)

def reachingConsumable (claims : Claims) (segment : Text) : Handler Consumable := do
  let id ← idOf segment "consumable"
  let row : Consumable ← orMissing (← orRefuse (← ask (.consumable id)) 500
    "failed to get consumable") "consumable not found"
  if mayAccess claims row.branch then return row else refuse 404 "consumable not found"

def updatingConsumable (ctx : Context) (claims : Claims) (segment : Text) (req : Request) :
    Handler Response := do
  let existing ← reachingConsumable claims segment
  let sent ← sentConsumable req
  let branch ← placing claims (if sent.branch.isEmpty then existing.branch else sent.branch)
  let current : Consumable ← orMissing (← orExplain (← ask (.consumable existing.id))
    "update consumable") "consumable not found"
  let c ← orExplain (Store.retyped current { sent with branch }) "update consumable"
  let c ← orExplain (readyConsumable c) "update consumable"
  let _ ← orExplain (← ask (.overwriteConsumable ctx.now existing.id c)) "update consumable"
  let row ← orMissing (← orExplain (← ask (.consumable existing.id)) "update consumable")
    "consumable not found"
  return .json 200 (shownConsumable row)

/-- The endpoints that delete a branch, or add or change what is in one. -/
inductive Concern where
  | deleteBranch
  | createItem
  | updateItem
  | createConsumable
  | updateConsumable
  deriving DecidableEq, Repr

namespace Concern

def endpoint : Concern → Endpoint
  | deleteBranch => .deleteBranch
  | createItem => .createItem
  | updateItem => .updateItem
  | createConsumable => .createConsumable
  | updateConsumable => .updateConsumable

def handler (ctx : Context) (claims : Claims) (req : Request) (segment : Text) :
    Concern → Handler Response
  | deleteBranch => deletingBranch ctx segment
  | createItem => creatingItem ctx claims req
  | updateItem => updatingItem ctx claims segment req
  | createConsumable => creatingConsumable ctx claims req
  | updateConsumable => updatingConsumable ctx claims segment req

end Concern

/-- A request, with what it asks for. -/
structure Asked where
  ctx : Context
  req : Request
  segment : Text
  concern : Concern

namespace Asked

/-- What is done for someone whose claims are known. -/
def attending (a : Asked) (claims : Claims) : Handler Response := do
  requireAccess a.concern.endpoint.access claims
  a.concern.handler a.ctx claims a.req a.segment

/-- A request from its token to its answer. -/
def handling (a : Asked) : Handler Response := authenticating a.ctx a.req >>= a.attending

end Asked

/-! ## Left alone -/

/-- A handler that runs while nothing else does. -/
def Handler.alone {α : Type} (s : Store) (h : Handler α) : Except Response α × Store :=
  Program.alone s h

section
variable {α β : Type} {s : Store}

theorem alone_bind (h : Handler α) (f : α → Handler β) : Handler.alone s (h >>= f) =
    match h.alone s with
    | (.ok a, s') => (f a).alone s'
    | (.error e, s') => (.error e, s') := by
  have hbind : Handler.alone s (h >>= f) =
      (ExceptT.bindCont f (h.alone s).1 : Program (Except Response β)).alone (h.alone s).2 :=
    Program.alone_bind h (ExceptT.bindCont f) s
  rw [hbind]
  cases hresult : h.alone s with
  | mk result s' => cases result <;> rfl

/-- Left alone, the handler gives the result and changes nothing. -/
def Gives (s : Store) (h : Handler α) (x : Except Response α) : Prop := h.alone s = (x, s)

/-- Left alone, the handler answers as the outcome says, and leaves the store of the outcome. -/
def Follows (s : Store) (h : Handler Response) (x : Outcome) : Prop :=
  h.alone s = match x with
    | .ok (response, s') => (.ok response, s')
    | .error response => (.error response, s)

theorem Gives.lift (x : Except Response α) : Gives s (liftM x) x := rfl

theorem Gives.bind {h : Handler α} {x : Except Response α} {f : α → Handler β}
    {g : α → Except Response β} (hh : Gives s h x) (hf : ∀ a, x = .ok a → Gives s (f a) (g a)) :
    Gives s (h >>= f) (x >>= g) := by
  unfold Gives at hh
  rw [Gives, alone_bind, hh]
  cases x with
  | error e => rfl
  | ok a => exact hf a rfl

theorem Gives.follows {h : Handler α} {x : Except Response α} {f : α → Handler Response}
    {g : α → Outcome} (hh : Gives s h x) (hf : ∀ a, x = .ok a → Follows s (f a) (g a)) :
    Follows s (h >>= f) (x >>= g) := by
  unfold Gives at hh
  unfold Follows
  rw [alone_bind, hh]
  cases x with
  | error e => rfl
  | ok a => exact hf a rfl

/-- A statement that only reads. -/
theorem Gives.asked {st : Statement} {f : st.Answer → Handler β} {y : Except Response β}
    (hread : (st.run s).2 = s) (h : Gives s (f (st.run s).1) y) : Gives s (ask st >>= f) y := by
  unfold Gives at h ⊢
  rw [alone_bind]
  show Handler.alone (st.run s).2 (f (st.run s).1) = (y, s)
  rw [hread, h]

theorem Follows.asked {st : Statement} {f : st.Answer → Handler Response} {y : Outcome}
    (hread : (st.run s).2 = s) (h : Follows s (f (st.run s).1) y) : Follows s (ask st >>= f) y := by
  unfold Follows at h ⊢
  rw [alone_bind]
  show Handler.alone (st.run s).2 (f (st.run s).1) = _
  rw [hread, h]

end

section
variable {s : Store} {ctx : Context} {claims : Claims} {req : Request} {segment : Text}

theorem authenticating_gives : Gives s (authenticating ctx req) (authenticate ctx s req) := by
  unfold authenticating authenticate
  cases Text.after? "Bearer " (req.header "Authorization") with
  | none => exact .lift _
  | some token =>
    dsimp only
    cases Token.validate ctx.secret ctx.now token with
    | error e => exact .lift _
    | ok claims =>
      refine .asked rfl ?_
      dsimp only [Statement.run]
      rcases s.isRevoked claims.id with e | ⟨⟨⟩ | ⟨⟩⟩
      · exact .lift _
      · exact .lift (.ok _)
      · exact .lift _

theorem placing_gives (branch : Text) :
    Gives s (placing claims branch) (branchForWrite claims s branch) := by
  unfold placing branchForWrite
  generalize (if branch.isEmpty && claims.role == Role.manager.tag then claims.branch
    else branch) = named
  dsimp only
  split
  · exact .bind (.lift (refuse 400 "branch required")) fun _ h => nomatch h
  split
  · exact .bind (.lift (refuse 403 ("no access to branch " ++ named))) fun _ h => nomatch h
  refine .asked rfl (.bind (.lift _) fun found _ => ?_)
  cases found with
  | none => exact .lift _
  | some b => exact .lift (.ok _)

theorem reachingItem_gives : Gives s (reachingItem claims segment) (reachedItem claims s segment) := by
  refine .bind (.lift _) fun id _ => .asked rfl ?_
  refine .bind (.lift _) fun found _ => .bind (.lift _) fun row _ => ?_
  split
  · exact .lift (.ok _)
  · exact .lift _

theorem reachingConsumable_gives :
    Gives s (reachingConsumable claims segment) (reachedConsumable claims s segment) := by
  refine .bind (.lift _) fun id _ => .asked rfl ?_
  refine .bind (.lift _) fun found _ => .bind (.lift _) fun row _ => ?_
  split
  · exact .lift (.ok _)
  · exact .lift _

theorem findingBranch_gives (id : Int) : Gives s (findingBranch id) (foundBranch s id) :=
  .asked rfl (.bind (.lift _) fun _ _ => .lift _)

end

/-! ### Writes that are read back -/

/-- A step that is known to succeed. -/
theorem Follows.passed {α : Type} {s : Store} {a : α} {f : α → Handler Response} {y : Outcome}
    (h : Follows s (f a) y) : Follows s (liftM (.ok a : Except Response α) >>= f) y := h

/-- The first of the steps whose errors are explained alike. -/
theorem Follows.explained {α β : Type} {s : Store} {x : Except StoreError α} {action : Text}
    {rest : α → Except StoreError β} {f : α → Handler Response} {g : β → Outcome}
    (h : ∀ a, x = .ok a → Follows s (f a) (orExplain (rest a) action >>= g)) :
    Follows s (liftM (orExplain x action) >>= f) (orExplain (x >>= rest) action >>= g) := by
  cases x with
  | error e => cases e <;> rfl
  | ok a => exact h a rfl

/-- A statement that writes. When it succeeds, the rest only reads, and the response is given. -/
theorem Follows.written {γ : Type} {s : Store} (st : Statement) {f : st.Answer → Handler Response}
    (x : Except StoreError γ) (g : γ → st.Result × Store) {y : Outcome}
    (hrun : st.run s = Statement.settle s (x.map g))
    (herror : ∀ e, x = .error e → Follows s (f (.error e)) y)
    (hok : ∀ c, x = .ok c → ∃ response,
      y = .ok (response, (g c).2) ∧ Gives (g c).2 (f (.ok (g c).1)) (.ok response)) :
    Follows s (ask st >>= f) y := by
  unfold Follows
  rw [alone_bind]
  show Handler.alone (st.run s).2 (f (st.run s).1) = _
  rw [hrun]
  cases x with
  | error e => exact herror e rfl
  | ok c =>
    obtain ⟨response, rfl, hgives⟩ := hok c rfl
    exact hgives

section
variable {s : Store} {ctx : Context} {claims : Claims} {req : Request} {segment : Text}

theorem deletingBranch_follows :
    Follows s (deletingBranch ctx segment) (deleteBranch ctx s segment) := by
  refine Gives.follows (.lift _) fun id _ => Gives.follows (findingBranch_gives id) fun b hb => ?_
  have hfound : s.branch? id = .ok (some b) := by
    obtain ⟨found, hfound, h⟩ := bind_eq_ok.mp hb
    rw [orMissing_eq_ok h] at hfound
    exact orRefuse_eq_ok hfound
  have hdelete := Store.deleteBranch_eq ctx.now hfound
  refine .asked rfl ?_
  dsimp only [Statement.run]
  rw [hfound]
  refine .asked rfl ?_
  dsimp only [Statement.run]
  cases hheld : s.countHeld b.name with
  | error e =>
    cases Store.countHeld_failsOnly b.name e hheld
    rw [hdelete, hheld]
    rfl
  | ok held =>
    rw [hheld] at hdelete
    refine .passed ?_
    by_cases hpos : held > 0
    · have hrefused := hdelete.trans (if_pos hpos)
      simp only [if_pos hpos, hrefused]
      rfl
    · have hretired := hdelete.trans (if_neg hpos)
      simp only [if_neg hpos, hretired]
      refine Follows.written (.retireBranch ctx.now id) (s.retireBranch ctx.now id)
        (fun s' => ((), s')) rfl ?_ ?_
      · intro e hretire
        cases Store.retireBranch_failsOnly id e hretire
        rw [hretire]
        rfl
      · intro s' hretire
        rw [hretire]
        exact ⟨_, rfl, .lift (.ok _)⟩

theorem creatingItem_follows (hs : s.Keyed) :
    Follows s (creatingItem ctx claims req) (createItem ctx claims s req) := by
  refine Gives.follows (.lift _) fun sent _ => Gives.follows (placing_gives _) fun branch _ => ?_
  refine .explained fun _ _ => ?_
  refine Follows.written (.insertItem ctx.now { sent with branch })
    (s.insertItem ctx.now { sent with branch }) (fun p => (p.1.id, p.2)) rfl ?_ ?_
  · intro e hinsert
    rw [hinsert]
    cases e <;> rfl
  · rintro ⟨row, s'⟩ hinsert
    rw [hinsert]
    refine ⟨_, rfl, .asked rfl ?_⟩
    dsimp only [Statement.run]
    rw [Store.item?_inserted hs hinsert]
    exact .lift (.ok _)

theorem updatingItem_follows :
    Follows s (updatingItem ctx claims segment req) (updateItem ctx claims s segment req) := by
  refine Gives.follows reachingItem_gives fun existing hexisting => ?_
  refine Gives.follows (.lift _) fun sent _ => Gives.follows (placing_gives _) fun branch _ => ?_
  refine .asked rfl (.explained fun found hfound => ?_)
  cases found with
  | none => rfl
  | some current =>
    refine .passed (.explained fun _ _ => ?_)
    refine Follows.written (.overwriteItem ctx.now existing.id _)
      (s.replaceItem ctx.now current { sent with branch, kind := current.kind })
      (fun p => ((), p.2)) ?_ ?_ ?_
    · exact congrArg (Statement.settle s) (Store.overwriteItem_eq hfound)
    · intro e hreplace
      rw [hreplace]
      cases e <;> rfl
    · rintro ⟨row, s'⟩ hreplace
      rw [hreplace]
      refine ⟨_, rfl, .asked rfl ?_⟩
      dsimp only [Statement.run]
      rw [Store.item?_replaced hfound hreplace]
      exact .lift (.ok _)

theorem creatingConsumable_follows (hs : s.Keyed) :
    Follows s (creatingConsumable ctx claims req) (createConsumable ctx claims s req) := by
  refine Gives.follows (.lift _) fun sent _ => Gives.follows (placing_gives _) fun branch _ => ?_
  refine .explained fun c hready => ?_
  refine Follows.written (.insertConsumable ctx.now c) (s.insertConsumable ctx.now c)
    (fun p => (p.1.id, p.2)) ?_ ?_ ?_
  · exact congrArg (Statement.settle s)
      (Store.addConsumableRow_eq hs (Store.readyConsumable_eq_ok hready).2)
  · intro e hinsert
    rw [hinsert]
    cases e <;> rfl
  · rintro ⟨row, s'⟩ hinsert
    rw [hinsert]
    refine ⟨_, rfl, .asked rfl ?_⟩
    dsimp only [Statement.run]
    rw [Store.consumable?_inserted hinsert]
    exact .lift (.ok _)

theorem updatingConsumable_follows :
    Follows s (updatingConsumable ctx claims segment req)
      (updateConsumable ctx claims s segment req) := by
  refine Gives.follows reachingConsumable_gives fun existing hexisting => ?_
  refine Gives.follows (.lift _) fun sent _ => Gives.follows (placing_gives _) fun branch _ => ?_
  refine .asked rfl (.explained fun found hfound => ?_)
  cases found with
  | none => rfl
  | some current =>
    refine .passed (.explained fun typed _ => .explained fun c hready => ?_)
    refine Follows.written (.overwriteConsumable ctx.now existing.id c)
      (s.replaceConsumable ctx.now current c) (fun p => ((), p.2)) ?_ ?_ ?_
    · exact congrArg (Statement.settle s)
        (Store.overwriteConsumable_eq (Store.readyConsumable_eq_ok hready).2 hfound)
    · intro e hreplace
      rw [hreplace]
      cases e <;> rfl
    · rintro ⟨row, s'⟩ hreplace
      rw [hreplace]
      refine ⟨_, rfl, .asked rfl ?_⟩
      dsimp only [Statement.run]
      rw [Store.consumable?_replaced hfound hreplace]
      exact .lift (.ok _)

theorem Concern.handler_follows (hs : s.Keyed) (concern : Concern) :
    Follows s (concern.handler ctx claims req segment)
      (serve ctx claims s req segment concern.endpoint) := by
  cases concern with
  | deleteBranch => exact deletingBranch_follows
  | createItem => exact creatingItem_follows hs
  | updateItem => exact updatingItem_follows
  | createConsumable => exact creatingConsumable_follows hs
  | updateConsumable => exact updatingConsumable_follows

end

/-- A request that is left alone is answered as by the endpoint, and leaves the same store. -/
theorem handling_alone {s : Store} (hs : s.Keyed) (a : Asked) :
    Follows s a.handling (guarded a.ctx s a.req a.concern.endpoint a.segment) := by
  have hguarded : guarded a.ctx s a.req a.concern.endpoint a.segment =
      authenticate a.ctx s a.req >>= fun claims =>
        requireAccess a.concern.endpoint.access claims >>= fun _ =>
          serve a.ctx claims s a.req a.segment a.concern.endpoint := by
    cases a.concern <;> rfl
  rw [hguarded]
  refine Gives.follows authenticating_gives fun claims _ => Gives.follows (.lift _) fun _ _ => ?_
  exact a.concern.handler_follows hs

end Api
end Stockroom

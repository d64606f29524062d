import Stockroom.Proofs.Api.Integrity
import Stockroom.Proofs.Api.Revocation
import Stockroom.Proofs.Api.Statements

/-!
Requests beside each other on one connection, each a statement at a time. A record is put into a
branch by a statement that follows the look-up of the branch, and a branch is deleted by one that
follows the count of what is in it. As long as no such pair of statements crosses another, all
inventory is in a branch that exists. Where they cross, a record is left in a deleted branch.

Main definitions and statements:
* `Pool`, `Pool.run`: requests beside each other, and what they do in the order of a schedule;
* `Crossing`: a look-up and a count that were both made before the other request had written;
* `Program.Heeds`, `Asked.handling_heeds`: a request writes only after it has looked;
* `Exchange.Accounted`: what an answer goes on to say of the store, or what has come between;
* `interleaved_placed`: without a crossing all inventory is in a branch that exists;
* `crossing_unplaced`: a deletion and an addition that cross.
-/
namespace Stockroom
set_option autoImplicit false

open scoped List

/-! ## What statements do -/

section
variable {ρ : Type} {rows : List ρ} {row r : ρ}

theorem mem_replaced {wanted : ρ → Bool} (branch : ρ → Text)
    (hr : r ∈ rows.map fun old => if wanted old then row else old) :
    r ∈ rows ∨ branch r = branch row :=
  forall_mem_map_if (P := fun r => r ∈ rows ∨ branch r = branch row) (fun _ hr => .inl hr)
    (fun _ _ _ => .inr rfl) r hr

theorem mem_added (branch : ρ → Text)
    (hr : r ∈ rows ++ [row]) : r ∈ rows ∨ branch r = branch row := by
  rcases List.mem_append.mp hr with hr | hr
  · exact .inl hr
  · exact .inr (by rw [List.mem_singleton.mp hr])

end

theorem Store.heldBy_eq_zero {s : Store} {name : Text} (hitems : ∀ r ∈ s.items, r.branch ≠ name)
    (hconsumables : ∀ r ∈ s.consumables, r.branch ≠ name) : s.heldBy name = 0 := by
  rw [heldBy, List.countP_eq_zero.mpr fun r hr => by simpa using hitems r hr,
    List.countP_eq_zero.mpr fun r hr => by simpa using hconsumables r hr]

namespace Statement

/-- The branch into which a statement puts a record. -/
def enters : Statement → Option Text
  | insertItem _ r | overwriteItem _ _ r => some r.branch
  | insertConsumable _ c | overwriteConsumable _ _ c => some c.branch
  | _ => none

/-- The branch that a statement marks as deleted. -/
def retires : Statement → Option Int
  | retireBranch _ id => some id
  | _ => none

/-- All that a statement may do to the store. -/
inductive Effect (s : Store) (st : Statement) : Store → Prop where
  | same : Effect s st s
  | entered (name : Text) (s' : Store) (hname : st.enters = some name)
      (hbranches : s'.branches = s.branches)
      (hitems : ∀ r ∈ s'.items, r ∈ s.items ∨ r.branch = name)
      (hconsumables : ∀ r ∈ s'.consumables, r ∈ s.consumables ∨ r.branch = name) : Effect s st s'
  | retired (id : Int) (time : Instant) (hid : st.retires = some id) :
      Effect s st (s.mapBranches (fun b => b.id == id && b.isActive) fun b =>
        { b with deletedAt := some time })

section
variable {s : Store}

theorem settle_effect {st : Statement} {α : Type} {x : Except StoreError (α × Store)}
    (h : ∀ a s', x = .ok (a, s') → st.Effect s s') : st.Effect s (settle s x).2 := by
  cases x with
  | error e => exact .same
  | ok p => exact h p.1 p.2 rfl

theorem retireBranch_effect (now : Instant) (id : Int) :
    Effect s (retireBranch now id) (run s (retireBranch now id)).2 := by
  refine settle_effect fun _ s' h => ?_
  obtain ⟨after, h, hpair⟩ := map_eq_ok.mp h
  cases hpair
  obtain ⟨_, -, h⟩ := bind_eq_ok.mp h
  cases pure_eq_ok.mp h
  exact .retired id now.stored rfl

theorem insertItem_effect (now : Instant) (r : Item) :
    Effect s (insertItem now r) (run s (insertItem now r)).2 := by
  refine settle_effect fun _ s' h => ?_
  obtain ⟨⟨row, after⟩, h, hpair⟩ := map_eq_ok.mp h
  cases hpair
  obtain ⟨_, -, h⟩ := bind_eq_ok.mp h
  obtain ⟨rfl, rfl⟩ := Prod.mk.inj (pure_eq_ok.mp h)
  exact .entered r.branch _ rfl rfl (fun _ => mem_added Item.branch) fun _ => .inl

theorem overwriteItem_effect (now : Instant) (id : Int) (r : Item) :
    Effect s (overwriteItem now id r) (run s (overwriteItem now id r)).2 := by
  refine settle_effect fun _ s' h => ?_
  unfold Store.overwriteItem at h
  split at h
  · obtain ⟨_, -, h⟩ := bind_eq_ok.mp h
    obtain ⟨-, rfl⟩ := Prod.mk.inj (pure_eq_ok.mp h)
    exact .same
  · obtain ⟨⟨row, after⟩, hwritten, h⟩ := bind_eq_ok.mp h
    obtain ⟨-, rfl⟩ := Prod.mk.inj (pure_eq_ok.mp h)
    obtain ⟨_, -, h⟩ := bind_eq_ok.mp hwritten
    obtain ⟨rfl, rfl⟩ := Prod.mk.inj (pure_eq_ok.mp h)
    exact .entered r.branch _ rfl rfl (fun _ => mem_replaced Item.branch) fun _ => .inl

theorem insertConsumable_effect (now : Instant) (c : Consumable) :
    Effect s (insertConsumable now c) (run s (insertConsumable now c)).2 := by
  refine settle_effect fun _ s' h => ?_
  obtain ⟨_, -, h⟩ := bind_eq_ok.mp h
  obtain ⟨row, hrow, h⟩ := bind_eq_ok.mp h
  obtain ⟨-, rfl⟩ := Prod.mk.inj (pure_eq_ok.mp h)
  have hbranch := Store.ofConsumable_branch (Store.consumableRow_eq_ok hrow)
  exact .entered row.branch _ (congrArg some hbranch.symm) rfl (fun _ => .inl)
    fun _ => mem_added ConsumableRow.branch

theorem overwriteConsumable_effect (now : Instant) (id : Int) (c : Consumable) :
    Effect s (overwriteConsumable now id c) (run s (overwriteConsumable now id c)).2 := by
  refine settle_effect fun _ s' h => ?_
  unfold Store.overwriteConsumable at h
  split at h
  · obtain ⟨_, -, h⟩ := bind_eq_ok.mp h
    obtain ⟨-, rfl⟩ := Prod.mk.inj (pure_eq_ok.mp h)
    exact .same
  · obtain ⟨_, -, h⟩ := bind_eq_ok.mp h
    obtain ⟨row, hrow, h⟩ := bind_eq_ok.mp h
    obtain ⟨-, rfl⟩ := Prod.mk.inj (pure_eq_ok.mp h)
    have hbranch := Store.ofConsumable_branch (Store.consumableRow_eq_ok hrow)
    exact .entered row.branch _ (congrArg some hbranch.symm) rfl (fun _ => .inl)
      fun _ => mem_replaced ConsumableRow.branch

theorem run_effect (s : Store) (st : Statement) : st.Effect s (st.run s).2 := by
  cases st with
  | isRevoked | branch | branchNamed | countHeld | item | consumable => exact .same
  | retireBranch now id => exact retireBranch_effect now id
  | insertItem now r => exact insertItem_effect now r
  | overwriteItem now id r => exact overwriteItem_effect now id r
  | insertConsumable now c => exact insertConsumable_effect now c
  | overwriteConsumable now id c => exact overwriteConsumable_effect now id c

end

/-! ### What is kept -/

section
variable {s s' : Store} {st : Statement} {name : Text}

/-- A statement neither adds a branch nor changes its name. -/
theorem Effect.branches (effect : st.Effect s s') :
    ∀ b ∈ s'.branches, ∃ before ∈ s.branches, b.id = before.id ∧ b.name = before.name := by
  intro b hb
  cases effect with
  | same => exact ⟨b, hb, rfl, rfl⟩
  | entered _ _ _ hbranches => exact ⟨b, hbranches ▸ hb, rfl, rfl⟩
  | retired id time =>
    obtain ⟨before, hbefore, rfl⟩ := List.mem_map.mp hb
    refine ⟨before, hbefore, ?_⟩
    split
    · exact ⟨rfl, rfl⟩
    · exact ⟨rfl, rfl⟩

theorem Effect.branch_ids (effect : st.Effect s s') : s'.ids .branches = s.ids .branches := by
  cases effect with
  | same => rfl
  | entered _ _ _ hbranches => exact congrArg (List.map BranchRow.id) hbranches
  | retired id time =>
    exact Store.mapBranches_ids s _ (fun b => { b with deletedAt := some time }) (fun _ => rfl)
      .branches

/-- Only a deletion takes a branch away. -/
theorem Effect.hasBranch (effect : st.Effect s s') (h : s.HasBranch name) :
    s'.HasBranch name ∨ ∃ id ∈ st.retires, ∃ b ∈ s.branches, b.id = id ∧ b.name = name := by
  cases effect with
  | same => exact .inl h
  | entered _ _ _ hbranches =>
    obtain ⟨b, hb, hactive, hname⟩ := h
    exact .inl ⟨b, hbranches ▸ hb, hactive, hname⟩
  | retired id time hid =>
    obtain ⟨b, hb, hactive, hname⟩ := h
    by_cases hsame : b.id = id
    · exact .inr ⟨id, hid, b, hb, hsame, hname⟩
    · exact .inl ⟨b, kept_mem_map_if hb (by simp [hsame]), hactive, hname⟩

/-- Only what enters a branch makes it hold something. -/
theorem Effect.heldBy (effect : st.Effect s s') (h : s.heldBy name = 0) :
    s'.heldBy name = 0 ∨ name ∈ st.enters := by
  cases effect with
  | same => exact .inl h
  | retired => exact .inl h
  | entered other _ hother _ hitems hconsumables =>
    by_cases hsame : other = name
    · exact .inr (hsame ▸ hother)
    · obtain ⟨hnoItem, hnoConsumable⟩ := Store.not_heldBy h
      refine .inl (Store.heldBy_eq_zero ?_ ?_)
      · intro r hr hbranch
        rcases hitems r hr with hr | hr
        · exact hnoItem r hr hbranch
        · exact hsame (hr.symm.trans hbranch)
      · intro r hr hbranch
        rcases hconsumables r hr with hr | hr
        · exact hnoConsumable r hr hbranch
        · exact hsame (hr.symm.trans hbranch)

/-- Where a record enters a branch that exists and an empty one is deleted, all inventory stays in a
branch that exists. -/
theorem Effect.placed (effect : st.Effect s s') (h : s.Placed)
    (henters : ∀ name ∈ st.enters, s.HasBranch name)
    (hretires : ∀ id ∈ st.retires, ∃ name, s.heldBy name = 0 ∧
      ∀ b ∈ s.branches, b.id = id → b.name = name) : s'.Placed := by
  -- a branch that holds something is not deleted
  have hkept : ∀ other, s.HasBranch other → s.heldBy other ≠ 0 → s'.HasBranch other := by
    intro other hbranch hheld
    rcases effect.hasBranch hbranch with hbranch | ⟨id, hid, b, hb, hsame, rfl⟩
    · exact hbranch
    · obtain ⟨name, hnone, hnamed⟩ := hretires id hid
      exact absurd (hnamed b hb hsame ▸ hnone) hheld
  cases effect with
  | same => exact h
  | entered name s' hname hbranches hitems hconsumables =>
    have hbranch : ∀ other, s.HasBranch other → s'.HasBranch other := by
      rintro other ⟨b, hb, hactive, hnamed⟩
      exact ⟨b, hbranches ▸ hb, hactive, hnamed⟩
    constructor
    · intro r hr
      rcases hitems r hr with hr | hr
      · exact hbranch _ (h.items r hr)
      · exact hbranch _ (hr ▸ henters name hname)
    · intro r hr
      rcases hconsumables r hr with hr | hr
      · exact hbranch _ (h.consumables r hr)
      · exact hbranch _ (hr ▸ henters name hname)
  | retired =>
    exact ⟨fun r hr => hkept _ (h.items r hr) fun hnone => (Store.not_heldBy hnone).1 r hr rfl,
      fun r hr => hkept _ (h.consumables r hr) fun hnone => (Store.not_heldBy hnone).2 r hr rfl⟩

end
end Statement

/-! ## Requests beside each other -/

/-- A statement with its answer. -/
structure Exchange where
  statement : Statement
  answer : statement.Answer

/-- Who ran which statement, in the order of time. -/
abbrev Trace := List (Nat × Statement)

def Exchange.trace (exchanges : List (Nat × Exchange)) : Trace :=
  exchanges.map fun e => (e.1, e.2.statement)

namespace Api

/-- Requests that are handled beside each other, and the store between them. -/
structure Pool where
  store : Store
  running : List (Program (Except Response Response))

namespace Pool

/-- Requests of which none has run a statement. -/
def start (s : Store) (requests : List Asked) : Pool :=
  { store := s, running := requests.map Asked.handling }

/-- A request runs its next statement; one that has none does nothing. -/
def step (pool : Pool) (i : Nat) : List (Nat × Exchange) × Pool :=
  match pool.running[i]? with
  | some (.call st next) =>
    let (answer, s) := st.run pool.store
    ([(i, ⟨st, answer⟩)], { store := s, running := pool.running.set i (next answer) })
  | _ => ([], pool)

/-- The requests in the order of a schedule run a statement each. -/
def run (pool : Pool) : List Nat → List (Nat × Exchange) × Pool
  | [] => ([], pool)
  | i :: rest =>
    let (first, pool) := pool.step i
    let (later, pool) := pool.run rest
    (first ++ later, pool)

end Pool

/-- A record was let into a branch before its deletion, which had counted before the record was
there. -/
def Crossing (trace : Trace) : Prop :=
  ∃ e ∈ trace, ∃ r ∈ trace, ∃ name ∈ e.2.enters, r.2.retires.isSome ∧
    [(e.1, .branchNamed name), r] <+ trace ∧ [(r.1, .countHeld name), e] <+ trace

instance (trace : Trace) : Decidable (Crossing trace) :=
  inferInstanceAs (Decidable (∃ e ∈ trace, ∃ r ∈ trace, ∃ name ∈ e.2.enters, r.2.retires.isSome ∧
    [(e.1, .branchNamed name), r] <+ trace ∧ [(r.1, .countHeld name), e] <+ trace))

theorem Crossing.mono {before after : Trace} (h : Crossing before) (hsub : before <+ after) :
    Crossing after := by
  obtain ⟨e, he, r, hr, name, hname, hretires, hlooked, hcounted⟩ := h
  exact ⟨e, hsub.subset he, r, hsub.subset hr, name, hname, hretires, hlooked.trans hsub,
    hcounted.trans hsub⟩

end Api

/-! ## What a request finds out before it writes -/

/-- Before a record enters a branch, the branch was found, and before a branch is deleted, it was
found to hold nothing. -/
structure Statement.Warranted (past : List Exchange) (st : Statement) : Prop where
  enters : ∀ name ∈ st.enters, ∃ b, ⟨.branchNamed name, .ok (some b)⟩ ∈ past
  retires : ∀ id ∈ st.retires, ∃ b : Branch, ⟨.branch id, .ok (some b)⟩ ∈ past ∧
    ⟨.countHeld b.name, .ok (0 : Nat)⟩ ∈ past

namespace Statement

variable {past : List Exchange} {st : Statement}

theorem Warranted.of_reads (henters : st.enters = none) (hretires : st.retires = none) :
    st.Warranted past where
  enters := by simp [henters]
  retires := by simp [hretires]

theorem Warranted.of_found {name : Text} {b : Branch} (henters : st.enters = some name)
    (hretires : st.retires = none) (hfound : ⟨.branchNamed name, .ok (some b)⟩ ∈ past) :
    st.Warranted past where
  enters := by
    intro other hother
    obtain rfl : name = other := Option.some.inj (henters.symm.trans hother)
    exact ⟨b, hfound⟩
  retires := by simp [hretires]

theorem Warranted.of_counted {id : Int} {b : Branch} (henters : st.enters = none)
    (hretires : st.retires = some id) (hfound : ⟨.branch id, .ok (some b)⟩ ∈ past)
    (hcounted : ⟨.countHeld b.name, .ok (0 : Nat)⟩ ∈ past) : st.Warranted past where
  enters := by simp [henters]
  retires := by
    intro other hother
    obtain rfl : id = other := Option.some.inj (hretires.symm.trans hother)
    exact ⟨b, hfound, hcounted⟩

end Statement

/-- Every statement of the program is warranted by what was found out before it, and so is what the
program gives in the end. -/
def Program.Heeds {α : Type} (Q : List Exchange → α → Prop) : List Exchange → Program α → Prop
  | past, .done a => Q past a
  | past, .call st next => st.Warranted past ∧ ∀ answer, (next answer).Heeds Q (⟨st, answer⟩ :: past)

theorem Program.Heeds.bind {α β : Type} {R : List Exchange → α → Prop}
    {Q : List Exchange → β → Prop} {p : Program α} {f : α → Program β} {past : List Exchange}
    (hp : p.Heeds R past) (hf : ∀ past a, R past a → (f a).Heeds Q past) :
    (p.bind f).Heeds Q past := by
  induction p generalizing past with
  | done a => exact hf past a hp
  | call st next ih => exact ⟨hp.1, fun answer => ih answer (hp.2 answer)⟩

namespace Api

/-- A handler that heeds, where a refusal needs no warrant. -/
def Handler.Heeds {α : Type} (Q : List Exchange → α → Prop) (past : List Exchange)
    (h : Handler α) : Prop :=
  Program.Heeds (fun past result => ∀ a, result = .ok a → Q past a) past h

section
variable {α β : Type} {R : List Exchange → α → Prop} {Q : List Exchange → β → Prop}
  {past : List Exchange}

theorem Handler.Heeds.bind {h : Handler α} {f : α → Handler β} (hh : h.Heeds R past)
    (hf : ∀ past a, R past a → (f a).Heeds Q past) : Handler.Heeds Q past (h >>= f) := by
  refine Program.Heeds.bind hh fun past result hresult => ?_
  cases result with
  | error e => exact fun _ h => nomatch h
  | ok a => exact hf past a (hresult a rfl)

theorem Handler.Heeds.lift {x : Except Response β} (h : ∀ b, x = .ok b → Q past b) :
    Handler.Heeds Q past (liftM x) := h

theorem Handler.Heeds.lifted {x : Except Response α} {f : α → Handler β}
    (h : ∀ a, x = .ok a → (f a).Heeds Q past) : Handler.Heeds Q past (liftM x >>= f) :=
  .bind (R := fun before a => before = past ∧ x = .ok a) (.lift fun _ ha => ⟨rfl, ha⟩)
    (by
      rintro _ a ⟨rfl, ha⟩
      exact h a ha)

theorem Handler.Heeds.asked {st : Statement} {f : st.Answer → Handler β} (hst : st.Warranted past)
    (h : ∀ answer, (f answer).Heeds Q (⟨st, answer⟩ :: past)) :
    Handler.Heeds Q past (ask st >>= f) := ⟨hst, h⟩

theorem Handler.Heeds.done {b : β} : Handler.Heeds (fun _ _ => True) past (pure b : Handler β) :=
  .lift (x := .ok b) fun _ _ => trivial

/-- A statement that only reads is always warranted. -/
theorem Handler.Heeds.looked {st : Statement} {f : st.Answer → Handler β}
    (h : ∀ answer, (f answer).Heeds Q (⟨st, answer⟩ :: past)) (henters : st.enters = none)
    (hretires : st.retires = none) : Handler.Heeds Q past (ask st >>= f) :=
  .asked (.of_reads henters hretires) h

end

section
variable {ctx : Context} {claims : Claims} {req : Request} {segment : Text} {past : List Exchange}

theorem authenticating_heeds : (authenticating ctx req).Heeds (fun _ _ => True) past := by
  unfold authenticating
  split
  · exact .lift fun _ _ => trivial
  split
  · exact .lift fun _ _ => trivial
  · refine .looked (fun answer => ?_) rfl rfl
    split
    · exact .lift fun _ _ => trivial
    · exact .lift fun _ _ => trivial
    · exact .done

theorem placing_heeds (branch : Text) : (placing claims branch).Heeds
    (fun past branch => ∃ b, ⟨.branchNamed branch, .ok (some b)⟩ ∈ past) past := by
  unfold placing
  generalize (if branch.isEmpty && claims.role == Role.manager.tag then claims.branch
    else branch) = named
  dsimp only
  split
  · exact .lifted (x := refuse 400 "branch required") fun _ h => nomatch h
  split
  · exact .lifted (x := refuse 403 ("no access to branch " ++ named)) fun _ h => nomatch h
  refine .looked (fun answer => .lifted fun found hfound => ?_) rfl rfl
  cases found with
  | none => exact .lift fun _ h => nomatch h
  | some b =>
    refine .lift (x := .ok named) fun _ h => ?_
    cases h
    exact ⟨b, orRefuse_eq_ok hfound ▸ List.mem_cons_self⟩

theorem findingBranch_heeds (id : Int) : (findingBranch id).Heeds (fun _ _ => True) past :=
  .looked (fun _ => .lifted fun _ _ => .lift fun _ _ => trivial) rfl rfl

theorem reachingItem_heeds : (reachingItem claims segment).Heeds (fun _ _ => True) past := by
  refine .lifted fun id _ => .looked (fun _ => .lifted fun _ _ => .lifted fun row _ => ?_) rfl rfl
  split
  · exact .done
  · exact .lift fun _ _ => trivial

theorem reachingConsumable_heeds :
    (reachingConsumable claims segment).Heeds (fun _ _ => True) past := by
  refine .lifted fun id _ => .looked (fun _ => .lifted fun _ _ => .lifted fun row _ => ?_) rfl rfl
  split
  · exact .done
  · exact .lift fun _ _ => trivial

theorem deletingBranch_heeds : (deletingBranch ctx segment).Heeds (fun _ _ => True) past := by
  refine .lifted fun id _ => (findingBranch_heeds id).bind fun past _ _ => ?_
  refine .looked (fun answer => .lifted fun found hfound => ?_) rfl rfl
  cases found with
  | none => exact .done
  | some b =>
    refine .looked (fun count => .lifted fun held hheld => ?_) rfl rfl
    dsimp only
    split
    · exact .lifted (x := refuse 409 _) fun _ h => nomatch h
    · next hnone =>
      obtain rfl : held = 0 := by omega
      have hbefore : ⟨.branch id, .ok (some b)⟩ ∈ (⟨.countHeld b.name, count⟩ ::
          ⟨.branch id, answer⟩ :: past : List Exchange) :=
        orRefuse_eq_ok hfound ▸ List.mem_cons_of_mem _ List.mem_cons_self
      have hcounted : ⟨.countHeld b.name, .ok (0 : Nat)⟩ ∈ (⟨.countHeld b.name, count⟩ ::
          ⟨.branch id, answer⟩ :: past : List Exchange) :=
        orRefuse_eq_ok hheld ▸ List.mem_cons_self
      exact .asked (.of_counted rfl rfl hbefore hcounted) fun _ => .lifted fun _ _ => .done

theorem creatingItem_heeds : (creatingItem ctx claims req).Heeds (fun _ _ => True) past := by
  refine .lifted fun sent _ => (placing_heeds _).bind fun past branch ⟨b, hfound⟩ => ?_
  refine .lifted fun _ _ => .asked (.of_found rfl rfl hfound) fun _ => .lifted fun id _ => ?_
  exact .looked (fun _ => .lifted fun _ _ => .lifted fun _ _ => .done) rfl rfl

theorem updatingItem_heeds :
    (updatingItem ctx claims segment req).Heeds (fun _ _ => True) past := by
  refine reachingItem_heeds.bind fun past existing _ => .lifted fun sent _ => ?_
  refine (placing_heeds _).bind fun past branch ⟨b, hfound⟩ => .looked (fun _ => ?_) rfl rfl
  have hstill := List.mem_cons_of_mem ⟨.item existing.id, ‹_›⟩ hfound
  refine .lifted fun _ _ => .lifted fun _ _ => .lifted fun _ _ =>
    .asked (.of_found rfl rfl hstill) fun _ => .lifted fun _ _ => ?_
  exact .looked (fun _ => .lifted fun _ _ => .lifted fun _ _ => .done) rfl rfl

theorem creatingConsumable_heeds :
    (creatingConsumable ctx claims req).Heeds (fun _ _ => True) past := by
  refine .lifted fun sent _ => (placing_heeds _).bind fun past branch ⟨b, hfound⟩ => ?_
  refine .lifted fun c hc => ?_
  have hbranch : c.branch = branch := by
    rw [(Store.readyConsumable_eq_ok (orExplain_eq_ok hc)).1, Store.filledIn_branch]
  refine .asked (.of_found (congrArg some hbranch) rfl hfound) fun _ => .lifted fun id _ => ?_
  exact .looked (fun _ => .lifted fun _ _ => .lifted fun _ _ => .done) rfl rfl

theorem updatingConsumable_heeds :
    (updatingConsumable ctx claims segment req).Heeds (fun _ _ => True) past := by
  refine reachingConsumable_heeds.bind fun past existing _ => .lifted fun sent _ => ?_
  refine (placing_heeds _).bind fun past branch ⟨b, hfound⟩ => .looked (fun _ => ?_) rfl rfl
  have hstill := List.mem_cons_of_mem ⟨.consumable existing.id, ‹_›⟩ hfound
  refine .lifted fun _ _ => .lifted fun current _ => .lifted fun typed htyped =>
    .lifted fun c hc => ?_
  have hbranch : c.branch = branch := by
    rw [(Store.readyConsumable_eq_ok (orExplain_eq_ok hc)).1, Store.filledIn_branch,
      Store.retyped_branch (orExplain_eq_ok htyped)]
  refine .asked (.of_found (congrArg some hbranch) rfl hstill) fun _ => .lifted fun _ _ => ?_
  exact .looked (fun _ => .lifted fun _ _ => .lifted fun _ _ => .done) rfl rfl

theorem Concern.handler_heeds (concern : Concern) :
    (concern.handler ctx claims req segment).Heeds (fun _ _ => True) past := by
  cases concern with
  | deleteBranch => exact deletingBranch_heeds
  | createItem => exact creatingItem_heeds
  | updateItem => exact updatingItem_heeds
  | createConsumable => exact creatingConsumable_heeds
  | updateConsumable => exact updatingConsumable_heeds

theorem Asked.handling_heeds (a : Asked) : a.handling.Heeds (fun _ _ => True) past :=
  authenticating_heeds.bind fun _ _ _ => .lifted fun _ _ => a.concern.handler_heeds

end

end Api

/-! ## What answers go on to say -/

/-- What an answer to a request goes on to say of the store, or which statement has come between. -/
structure Exchange.Accounted (s : Store) (trace : Trace) (i : Nat) (x : Exchange) : Prop where
  /-- A branch that was found by its name is there until a request that counted deletes it. -/
  found : ∀ name b, x = ⟨.branchNamed name, .ok (some b)⟩ → s.HasBranch name ∨
    ∃ r ∈ trace, r.2.retires.isSome ∧ [(i, .branchNamed name), r] <+ trace ∧
      (r.1, .countHeld name) ∈ trace
  /-- A branch that was found by its id keeps its name. -/
  known : ∀ id b, x = ⟨.branch id, .ok (some b)⟩ →
    ∀ row ∈ s.branches, row.id = id → row.name = b.name
  /-- A branch that held nothing does so until a request that looked lets a record in. -/
  unheld : ∀ name, x = ⟨.countHeld name, .ok (0 : Nat)⟩ → s.heldBy name = 0 ∨
    ∃ e ∈ trace, name ∈ e.2.enters ∧ [(i, .countHeld name), e] <+ trace ∧
      (e.1, .branchNamed name) ∈ trace

theorem appended_sublist {α : Type} {before : List α} {a b : α} (h : a ∈ before) :
    [a, b] <+ before ++ [b] :=
  (List.singleton_sublist.mpr h).append (.refl [b])

namespace Exchange.Accounted

variable {s s' : Store} {trace : Trace} {i j : Nat} {x : Exchange} {st : Statement}

/-- What was known before a statement is known after it. -/
theorem keep (h : x.Accounted s trace j) (effect : st.Effect s s') (hx : (j, x.statement) ∈ trace)
    (henters : ∀ name ∈ st.enters, (i, .branchNamed name) ∈ trace)
    (hretires : ∀ id ∈ st.retires, ∃ name, (i, .countHeld name) ∈ trace ∧
      ∀ b ∈ s.branches, b.id = id → b.name = name) :
    x.Accounted s' (trace ++ [(i, st)]) j where
  found := by
    rintro name b rfl
    rcases h.found name b rfl with hbranch | ⟨r, hr, hretired, hbetween, hcounted⟩
    · rcases effect.hasBranch hbranch with hbranch | ⟨id, hid, row, hrow, hsame, rfl⟩
      · exact .inl hbranch
      · obtain ⟨other, hcounted, hnamed⟩ := hretires id hid
        rw [← hnamed row hrow hsame] at hcounted
        refine .inr ⟨(i, st), by simp, ?_, appended_sublist hx, List.mem_append_left _ hcounted⟩
        exact Option.isSome_of_mem hid
    · exact .inr ⟨r, List.mem_append_left _ hr, hretired, hbetween.trans (by simp),
        List.mem_append_left _ hcounted⟩
  known := by
    rintro id b rfl row hrow hid
    obtain ⟨before, hbefore, hsame, hname⟩ := effect.branches row hrow
    rw [hname, h.known id b rfl before hbefore (hsame ▸ hid)]
  unheld := by
    rintro name rfl
    rcases h.unheld name rfl with hnone | ⟨e, he, hentered, hbetween, hlooked⟩
    · rcases effect.heldBy hnone with hnone | hentered
      · exact .inl hnone
      · exact .inr ⟨(i, st), by simp, hentered, appended_sublist hx,
          List.mem_append_left _ (henters name hentered)⟩
    · exact .inr ⟨e, List.mem_append_left _ he, hentered, hbetween.trans (by simp),
        List.mem_append_left _ hlooked⟩

/-- What an answer says when it is given. -/
theorem given (hs : (s.ids .branches).Nodup) :
    Accounted (st.run s).2 trace i ⟨st, (st.run s).1⟩ where
  found := by
    intro name b hx
    obtain ⟨rfl, hanswer⟩ := Exchange.mk.inj hx
    exact .inl (Store.branchNamed?_some (eq_of_heq hanswer))
  known := by
    intro id b hx row hrow hid
    obtain ⟨rfl, hanswer⟩ := Exchange.mk.inj hx
    obtain ⟨found, hfound, rfl⟩ := Store.branch?_some (eq_of_heq hanswer)
    obtain ⟨hmem, hfoundId, -⟩ := Store.activeBranch?_some hfound
    obtain rfl : row = found := List.inj_on_of_nodup_map hs hrow hmem (hid.trans hfoundId.symm)
    rfl
  unheld := by
    intro name hx
    obtain ⟨rfl, hanswer⟩ := Exchange.mk.inj hx
    obtain ⟨_, -, hnone⟩ := bind_eq_ok.mp (eq_of_heq hanswer)
    exact .inl (pure_eq_ok.mp hnone)

end Exchange.Accounted

namespace Api

/-! ## Runs -/

/-- What holds of requests that have run some statements beside each other. -/
structure Pool.Steady (past : List (Nat × Exchange)) (pool : Pool) : Prop where
  distinct : (pool.store.ids .branches).Nodup
  placed : pool.store.Placed
  accounted : ∀ e ∈ past, e.2.Accounted pool.store (Exchange.trace past) e.1
  heeding : ∀ i p, pool.running[i]? = some p → ∃ own : List Exchange,
    (∀ x ∈ own, (i, x) ∈ past) ∧ Handler.Heeds (fun _ (_ : Response) => True) own p

theorem Pool.start_steady {s : Store} (hs : s.Keyed) (hplaced : s.Placed)
    (requests : List Asked) : (Pool.start s requests).Steady [] where
  distinct := hs.distinct .branches
  placed := hplaced
  accounted := fun _ h => nomatch h
  heeding := by
    intro i p hp
    rw [start, List.getElem?_map, Option.map_eq_some_iff] at hp
    obtain ⟨a, -, rfl⟩ := hp
    exact ⟨[], by simp, a.handling_heeds⟩

theorem Exchange.trace_append (past : List (Nat × Exchange)) (i : Nat) (x : Exchange) :
    Exchange.trace (past ++ [(i, x)]) = Exchange.trace past ++ [(i, x.statement)] := by
  simp [Exchange.trace]

section
variable {pool : Pool} {past : List (Nat × Exchange)}

section
variable {own : List Exchange} {i : Nat} {st : Statement}

/-- A branch that a record enters is there. -/
theorem Pool.Steady.enters (h : pool.Steady past) (hown : ∀ x ∈ own, (i, x) ∈ past)
    (hst : st.Warranted own) (hcrossing : ¬Crossing (Exchange.trace past ++ [(i, st)])) :
    ∀ name ∈ st.enters,
      (i, .branchNamed name) ∈ Exchange.trace past ∧ pool.store.HasBranch name := by
  intro name hname
  obtain ⟨b, hfound⟩ := hst.enters name hname
  refine ⟨List.mem_map_of_mem (hown _ hfound), ?_⟩
  rcases (h.accounted _ (hown _ hfound)).found name b rfl with
    hbranch | ⟨r, hr, hretired, hbetween, hcounted⟩
  · exact hbranch
  · exact absurd ⟨(i, st), by simp, r, List.mem_append_left _ hr, name, hname, hretired,
      hbetween.trans (by simp), appended_sublist hcounted⟩ hcrossing

/-- A branch that is deleted holds nothing. -/
theorem Pool.Steady.retires (h : pool.Steady past) (hown : ∀ x ∈ own, (i, x) ∈ past)
    (hst : st.Warranted own) (hcrossing : ¬Crossing (Exchange.trace past ++ [(i, st)])) :
    ∀ id ∈ st.retires, ∃ name, (i, .countHeld name) ∈ Exchange.trace past ∧
      pool.store.heldBy name = 0 ∧ ∀ b ∈ pool.store.branches, b.id = id → b.name = name := by
  intro id hid
  obtain ⟨b, hfound, hcounted⟩ := hst.retires id hid
  refine ⟨b.name, List.mem_map_of_mem (hown _ hcounted), ?_,
    (h.accounted _ (hown _ hfound)).known id b rfl⟩
  rcases (h.accounted _ (hown _ hcounted)).unheld b.name rfl with
    hnone | ⟨e, he, hentered, hbetween, hlooked⟩
  · exact hnone
  · exact absurd ⟨e, List.mem_append_left _ he, (i, st), by simp, b.name, hentered,
      Option.isSome_of_mem hid, appended_sublist hlooked, hbetween.trans (by simp)⟩ hcrossing

end

/-- A statement that crosses no other keeps what holds. -/
theorem Pool.Steady.step (h : pool.Steady past) (i : Nat)
    (hcrossing : ¬Crossing (Exchange.trace (past ++ (pool.step i).1))) :
    (pool.step i).2.Steady (past ++ (pool.step i).1) := by
  unfold Pool.step at hcrossing ⊢
  split at hcrossing
  case h_2 => simpa using h
  case h_1 st next hrunning =>
    rw [Exchange.trace_append] at hcrossing
    obtain ⟨own, hown, hst, hnext⟩ := h.heeding i _ hrunning
    have henters := h.enters hown hst hcrossing
    have hretires := h.retires hown hst hcrossing
    have effect := Statement.run_effect pool.store st
    refine ⟨?_, ?_, ?_, ?_⟩
    · rw [effect.branch_ids]
      exact h.distinct
    · refine effect.placed h.placed (fun name hname => (henters name hname).2) fun id hid => ?_
      obtain ⟨name, -, hnone, hnamed⟩ := hretires id hid
      exact ⟨name, hnone, hnamed⟩
    · intro e he
      rw [Exchange.trace_append]
      rcases List.mem_append.mp he with he | he
      · refine (h.accounted e he).keep effect (List.mem_map_of_mem he)
          (fun name hname => (henters name hname).1) fun id hid => ?_
        obtain ⟨name, hcounted, -, hnamed⟩ := hretires id hid
        exact ⟨name, hcounted, hnamed⟩
      · rw [List.mem_singleton.mp he]
        exact .given h.distinct
    · intro j p hp
      by_cases hsame : i = j
      · subst hsame
        rw [List.getElem?_set_self (List.getElem?_eq_some_iff.mp hrunning).1] at hp
        cases hp
        refine ⟨⟨st, _⟩ :: own, ?_, hnext _⟩
        intro x hx
        rcases List.mem_cons.mp hx with rfl | hx
        · exact List.mem_append_right _ List.mem_cons_self
        · exact List.mem_append_left _ (hown x hx)
      · rw [List.getElem?_set_ne hsame] at hp
        obtain ⟨others, hothers, hp⟩ := h.heeding j p hp
        exact ⟨others, fun x hx => List.mem_append_left _ (hothers x hx), hp⟩

/-- Statements that do not cross keep what holds. -/
theorem Pool.Steady.run (h : pool.Steady past) (schedule : List Nat)
    (hcrossing : ¬Crossing (Exchange.trace (past ++ (pool.run schedule).1))) :
    (pool.run schedule).2.Steady (past ++ (pool.run schedule).1) := by
  induction schedule generalizing pool past with
  | nil => simpa [Pool.run] using h
  | cons i rest ih =>
    rw [Pool.run] at hcrossing ⊢
    rw [← List.append_assoc] at hcrossing ⊢
    refine ih (h.step i fun hcrosses => hcrossing ?_) hcrossing
    exact hcrosses.mono (by simp [Exchange.trace])

end

/-- Deletions of branches beside additions and changes of inventory, each a statement at a time in
whatever order. As long as no look-up and count cross, all inventory is in a branch that exists; and
a request that is left alone is answered as by its endpoint. -/
theorem interleaved_placed (s : Store) (requests : List Asked) (schedule : List Nat) (hs : s.Keyed)
    (hplaced : s.Placed)
    (hcrossing : ¬Crossing (Exchange.trace ((Pool.start s requests).run schedule).1)) :
    ((Pool.start s requests).run schedule).2.store.Placed ∧
      ∀ a ∈ requests, Follows s a.handling (guarded a.ctx s a.req a.concern.endpoint a.segment) :=
  ⟨((Pool.start_steady hs hplaced requests).run schedule hcrossing).placed,
    fun a _ => handling_alone hs a⟩

/-! ## A deletion beside an addition -/

theorem authenticating_of_caller {ctx : Context} {s : Store} {req : Request} {claims : Claims}
    (h : caller ctx s req = some claims) : authenticating ctx req = unrevoked claims := by
  obtain ⟨token, hbearer, hvalid, -⟩ := authenticate_eq_ok (toOption_eq_some.mp h)
  rw [bearer] at hbearer
  simp only [authenticating, hbearer, hvalid]

/-- The first administrator deletes branch B. -/
def askedDeletion : Asked :=
  { ctx := earlyContext, req := deletionOfB, segment := "1", concern := .deleteBranch }

/-- The manager of B adds an item. -/
def askedAddition : Asked :=
  { ctx := earlyContext, req := additionByB, segment := [], concern := .createItem }

/-- Branch B, which holds nothing, with its deletion and an addition to it. -/
def besides : Pool := Pool.start branchOfManager [askedDeletion, askedAddition]

theorem besides_eq : besides =
    { store := branchOfManager
      running := [(unrevoked asFirst >>= askedDeletion.attending : Handler Response),
        (unrevoked managerOfB >>= askedAddition.attending : Handler Response)] } := by
  have hdeletion : askedDeletion.handling = unrevoked asFirst >>= askedDeletion.attending :=
    congrArg (· >>= askedDeletion.attending) (authenticating_of_caller deletionOfB_caller)
  have haddition : askedAddition.handling = unrevoked managerOfB >>= askedAddition.attending :=
    congrArg (· >>= askedAddition.attending) (authenticating_of_caller (s := branchOfManager)
      (signed_caller managerOfB_valid rfl))
  rw [besides, Pool.start, List.map_cons, List.map_cons, hdeletion, haddition, List.map_nil]

/-- The statuses of the requests that are done. -/
def Pool.statuses (pool : Pool) : List (Option Nat) :=
  pool.running.map fun
    | .done (.ok response) | .done (.error response) => some response.status
    | .call .. => none

/-- The item is added after the branch was found for its deletion and before the count, by which the
deletion is refused. -/
theorem besides_placed :
    ¬Crossing (Exchange.trace (besides.run [1, 1, 0, 0, 1, 0, 0, 1]).1) ∧
      (besides.run [1, 1, 0, 0, 1, 0, 0, 1]).2.statuses = [some 409, some 201] ∧
      (besides.run [1, 1, 0, 0, 1, 0, 0, 1]).2.store.Placed := by
  have hcrossing : ¬Crossing (Exchange.trace (besides.run [1, 1, 0, 0, 1, 0, 0, 1]).1) := by
    rw [besides_eq]
    decide +kernel
  refine ⟨hcrossing, ?_, ?_⟩
  · rw [besides_eq]
    decide +kernel
  · exact (interleaved_placed branchOfManager [askedDeletion, askedAddition] _
      branchOfManager_keyed (Store.placed_of_empty rfl rfl) hcrossing).1

theorem crossing_leaves : (besides.run [1, 1, 0, 0, 0, 0, 0, 1, 1]).2.store =
    { branchOfManager with
      branches := [{ branchB with deletedAt := some { unix := 0 } }], items := [itemInB] } := by
  rw [besides_eq]
  decide +kernel

/-- The branch is found for the item, then deleted as it holds nothing, and then the item is added.
Both requests succeed, and the item is in a branch that is deleted. -/
theorem crossing_unplaced : branchOfManager.Keyed ∧ branchOfManager.Placed ∧
    (besides.run [1, 1, 0, 0, 0, 0, 0, 1, 1]).2.statuses = [some 200, some 201] ∧
      ¬(besides.run [1, 1, 0, 0, 0, 0, 0, 1, 1]).2.store.Placed := by
  refine ⟨branchOfManager_keyed, Store.placed_of_empty rfl rfl, ?_, ?_⟩
  · rw [besides_eq]
    decide +kernel
  · rw [crossing_leaves]
    intro hplaced
    have hnone : ¬Store.HasBranch { branchOfManager with
        branches := [{ branchB with deletedAt := some { unix := 0 } }], items := [itemInB] }
        itemInB.branch := by decide
    exact hnone (hplaced.items itemInB List.mem_cons_self)

end Api
end Stockroom

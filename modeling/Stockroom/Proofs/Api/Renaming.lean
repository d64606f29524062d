import Stockroom.Proofs.Api.Atomicity
import Stockroom.Proofs.Api.Refusal
import Stockroom.Proofs.Store.Names

/-!
A branch with a new name. All that was in the branch under its old name is in it under the new one,
and nothing else is: nothing was under the new name before, because inventory is only ever in branches
that exist, and no two of them share a name.

Main definitions and statements:
* `MovedRows`, `movedRows_map_if`: the rows of a table when one branch moved to where none was;
* `Store.Renamed`, `Store.withBranch_renamed`: a store with a new name of one branch;
* `Store.Renamed.countsOf`: its numbers are those of the branch under its old name;
* `handleAll_renamed`: so it is for every request that gives a branch a new name, after every run of
  requests; whatever is refused changes nothing.
-/
namespace Stockroom
set_option autoImplicit false

/-! ## Rows that moved -/

/-- The rows of a table after all that was in one branch moved to another. `move` is what is done to
a row that moves. -/
structure MovedRows {ρ : Type} (branch : ρ → Text) (move : ρ → ρ) (old new : Text)
    (before after : List ρ) : Prop where
  /-- What is in the new branch is what was in the old one. -/
  arrived : after.filter (branch · = new) = (before.filter (branch · = old)).map move
  left : ∀ r ∈ after, branch r ≠ old
  others : after.filter (branch · ≠ new) = before.filter (branch · ≠ old)

section
variable {ρ : Type} {branch : ρ → Text} {move : ρ → ρ} {old new : Text} {before : List ρ}

/-- Moving the rows of one branch to another mixes them with nothing, when nothing was there. -/
theorem movedRows_map_if (hmove : ∀ r, branch (move r) = new) (hname : old ≠ new)
    (hfree : ∀ r ∈ before, branch r ≠ new) :
    MovedRows branch move old new before
      (before.map fun r => if branch r == old then move r else r) := by
  have hmoves (r : ρ) (hr : r ∈ before) :
      branch (if branch r == old then move r else r) = new ↔ branch r = old := by
    split
    · next hold => simp [hmove, beq_iff_eq.mp hold]
    · next hold => exact iff_of_false (hfree r hr) (by simpa using hold)
  refine ⟨?_, ?_, ?_⟩
  · have hfilter : before.filter ((branch · = new) ∘ fun r => if branch r == old then move r else r) =
        before.filter (branch · = old) :=
      List.filter_congr fun r hr => decide_eq_decide.mpr (hmoves r hr)
    rw [List.filter_map, hfilter]
    refine List.map_congr_left fun r hr => if_pos ?_
    simpa using (List.mem_filter.mp hr).2
  · intro r hr
    obtain ⟨was, hwas, rfl⟩ := List.mem_map.mp hr
    split
    · rw [hmove]
      exact hname.symm
    · next hold => simpa using hold
  · have hfilter : before.filter ((branch · ≠ new) ∘ fun r => if branch r == old then move r else r) =
        before.filter (branch · ≠ old) :=
      List.filter_congr fun r hr => decide_eq_decide.mpr (not_congr (hmoves r hr))
    rw [List.filter_map, hfilter]
    conv_rhs => rw [← List.map_id (before.filter _)]
    refine List.map_congr_left fun r hr => if_neg ?_
    simpa using (List.mem_filter.mp hr).2

/-- As many rows meet a condition in the new branch as did in the old one. -/
theorem MovedRows.countP {after : List ρ} (h : MovedRows branch move old new before after)
    (cond : ρ → Bool) (hcond : ∀ r, cond (move r) = cond r) :
    after.countP (fun r => branch r == new && cond r) =
      before.countP fun r => branch r == old && cond r := by
  have hfilter (rows : List ρ) (name : Text) :
      rows.countP (fun r => branch r == name && cond r) =
        (rows.filter (branch · = name)).countP cond := by
    rw [List.countP_filter]
    refine List.countP_congr fun r _ => ?_
    simp [and_comm]
  rw [hfilter, hfilter, h.arrived, List.countP_map]
  exact List.countP_congr fun r _ => by simp [hcond]

end

/-! ## Stores -/

namespace Store

/-- A store and the store in which a branch has a new name and location. -/
structure Renamed (s s' : Store) (id : Int) (old new location : Text) : Prop where
  items : MovedRows Item.branch (fun r => { r with branch := new }) old new s.items s'.items
  consumables : MovedRows ConsumableRow.branch (fun r => { r with branch := new }) old new
    s.consumables s'.consumables
  accounts : s'.accounts =
    s.accounts.map fun r => if r.branch = old then { r with branch := new } else r
  branches : s'.branches =
    s.branches.map fun b => if b.id = id then { b with name := new, location } else b
  rest : { s' with
    items := s.items, consumables := s.consumables, accounts := s.accounts
    branches := s.branches } = s

section
variable {s s' : Store} {id : Int} {b : BranchRow} {name location : Text}

/-- No other branch has the new name, so nothing is in a branch of that name. -/
theorem not_hasBranch (hs : s.Keyed) (hb : s.activeBranch? id = some b)
    (hfree : s.branchNameTaken name id = false) (hname : b.name ≠ name) : ¬s.HasBranch name := by
  rintro ⟨c, hc, hactive, rfl⟩
  have hother : c.id ≠ id := fun hid => hname (branch_eq_of_id hs hb hc hid ▸ rfl)
  exact name_ne_of_free hfree hc hactive hother rfl

theorem withBranch_renamed (location : Text) (hs : s.Keyed) (hplaced : s.Placed)
    (hb : s.activeBranch? id = some b) (hfree : s.branchNameTaken name id = false)
    (hname : b.name ≠ name) :
    s.Renamed (s.withBranch id b.name name location) id b.name name location := by
  have habsent := not_hasBranch hs hb hfree hname
  refine ⟨?_, ?_, ?_, ?_, rfl⟩
  · exact movedRows_map_if (fun _ => rfl) hname fun r hr heq => habsent (heq ▸ hplaced.items r hr)
  · exact movedRows_map_if (fun _ => rfl) hname fun r hr heq =>
      habsent (heq ▸ hplaced.consumables r hr)
  · simp [withBranch]
  · simp [withBranch]

variable {old new : Text}

/-- The numbers of a branch do not depend on its name. -/
theorem Renamed.countsOf (h : s.Renamed s' id old new location) :
    s'.countsOf new = { s.countsOf old with branch := new } := by
  have hitems (kind : ItemKind) := h.items.countP (·.kind == kind.tag) fun _ => rfl
  have hstock := h.consumables.countP (·.state == inStockState) fun _ => rfl
  simp only [Store.countsOf, hitems, hstock]

theorem Renamed.branchCounts (h : s.Renamed s' id old new location) :
    (s'.branchCounts new).toOption =
      (s.branchCounts old).toOption.map fun c => { c with branch := new } := by
  have hfaults := congrArg faults h.rest
  change s'.faults = s.faults at hfaults
  simp only [Store.branchCounts, readable, hfaults, h.countsOf]
  split
  · rfl
  · rfl

end
end Store

namespace Api

section
variable {s s' : Store} {req : Request} {segment : Text} {response : Response}

theorem updateBranch_explains : Explains (updateBranch s segment req) := by
  refine .bind (.idOf _ _) fun id => .bind ?_ fun sent => .bind (.orRefuse _ _ _ (by decide))
    fun found => .bind (.orMissing _ _) fun _ => .bind (.orRefuse _ _ _ (by decide)) fun after => ?_
  · refine .bind (.sentRecord _ _) fun sent => ?_
    dsimp only
    split
    · exact .refuse _ _ (by decide)
    · exact .ok _
  · split
    · exact .ok _
    · exact .ok _

/-- Whoever is not refused has named an active branch, and a name that no other one has. -/
theorem updateBranch_eq_ok (h : updateBranch s segment req = .ok (response, s')) :
    ∃ id b sent, idOf segment "branch" = .ok id ∧ s.activeBranch? id = some b ∧
      sentBranch req = .ok sent ∧ s.branchNameTaken sent.name id = false ∧
      s' = s.withBranch id b.name sent.name sent.location := by
  obtain ⟨id, hid, h⟩ := bind_eq_ok.mp h
  obtain ⟨sent, hsent, h⟩ := bind_eq_ok.mp h
  obtain ⟨found, hfound, h⟩ := bind_eq_ok.mp h
  obtain ⟨shown, hshown, h⟩ := bind_eq_ok.mp h
  obtain ⟨after, hupdate, h⟩ := bind_eq_ok.mp h
  have hafter : after = s' := by
    split at h
    · exact congrArg Prod.snd (pure_eq_ok.mp h)
    · exact congrArg Prod.snd (pure_eq_ok.mp h)
  subst hafter
  cases found with
  | none => cases hshown
  | some found =>
    obtain ⟨row, hrow, -⟩ := Store.branch?_some (orRefuse_eq_ok hfound)
    obtain ⟨hnone, -⟩ | ⟨b, hb, hfree, hrenamed⟩ :=
      Store.updateBranch_effect (orRefuse_eq_ok hupdate)
    · rw [hnone] at hrow
      cases hrow
    · exact ⟨id, b, sent, hid, hb, hsent, hfree, hrenamed⟩

end

section
variable {ctx : Context} {s : Store} {req : Request} {segment : Text}

/-- Whoever is not answered is told of a failure, or, where the path is not written as it should be, of
another path. -/
theorem dispatch_refuses {endpoint : Endpoint} {response : Response}
    (hasks : asksFor req = some (endpoint, segment))
    (hexplains : ∀ claims, Explains (serve ctx claims s req segment endpoint))
    (h : dispatch ctx s req = .error response) :
    300 ≤ response.status ∧ (cleanPath req.asked.path = req.asked.path → 400 ≤ response.status) := by
  have hroute : findRoute req.method (pathSegments req.asked.path) = some (endpoint, segment) := hasks
  simp only [dispatch] at h
  split at h
  · cases h
    exact ⟨by decide, fun _ => by decide⟩
  split at h
  · next hother =>
    cases h
    have hstatus : 300 ≤ 307 := by decide
    exact ⟨hstatus, fun hclean => by simp [hclean] at hother⟩
  · rw [hroute] at h
    obtain ⟨status, message, hstatus, rfl⟩ := guarded_explains hexplains response h
    exact ⟨Nat.le_trans (by decide) hstatus, fun _ => hstatus⟩

/-- A change of a branch is refused, or it is one of an active branch to a name that no other one
has. -/
theorem handle_updateBranch (ctx : Context) (s : Store)
    (hasks : asksFor req = some (.updateBranch, segment)) :
    (300 ≤ (handle ctx s req).1.status ∧
      (cleanPath req.asked.path = req.asked.path → 400 ≤ (handle ctx s req).1.status) ∧
      (handle ctx s req).2 = s) ∨
    ∃ id b sent, idOf segment "branch" = .ok id ∧ s.activeBranch? id = some b ∧
      sentBranch req = .ok sent ∧ s.branchNameTaken sent.name id = false ∧
      (handle ctx s req).2 = s.withBranch id b.name sent.name sent.location := by
  rw [handle_eq]
  cases hdispatch : dispatch ctx s req with
  | ok answer =>
    obtain ⟨response, s'⟩ := answer
    obtain ⟨claims, endpoint, other, hsame, hserve⟩ := dispatch_served hdispatch
    rw [hasks] at hsame
    cases hsame
    exact .inr (updateBranch_eq_ok hserve)
  | error response =>
    have hrefused := dispatch_refuses hasks (fun _ => updateBranch_explains) hdispatch
    exact .inl ⟨hrefused.1, hrefused.2, rfl⟩

/-- After every run of requests on a store that had no inventory at first: a request that is answered
with a success and gives an active branch another name has moved all that was in the branch, and the
branch alone, and its numbers are those it had. A request for a branch that does not exist, or for the
name of another branch, is refused, or sent to another path where its own is not written as it should
be, and the store stays as it is. -/
theorem handleAll_renamed (s : Store) (run : List (Context × Request)) (hs : s.Keyed)
    (hitems : s.items = []) (hconsumables : s.consumables = []) (ctx : Context) (req : Request)
    (segment : Text) (hasks : asksFor req = some (.updateBranch, segment)) :
    ((handle ctx (handleAll s run) req).1.status < 300 →
      ∃ id b sent, idOf segment "branch" = .ok id ∧
        (handleAll s run).activeBranch? id = some b ∧ sentBranch req = .ok sent ∧
        (b.name ≠ sent.name →
          (handleAll s run).Renamed (handle ctx (handleAll s run) req).2 id b.name sent.name
            sent.location ∧
          ((handle ctx (handleAll s run) req).2.branchCounts sent.name).toOption =
            ((handleAll s run).branchCounts b.name).toOption.map fun c =>
              { c with branch := sent.name })) ∧
    (((∀ b ∈ (handleAll s run).branches, b.isActive = true → idOf segment "branch" ≠ .ok b.id) ∨
        ∃ b ∈ (handleAll s run).branches, ∃ sent, b.isActive = true ∧ sentBranch req = .ok sent ∧
          b.name = sent.name ∧ idOf segment "branch" ≠ .ok b.id) →
      300 ≤ (handle ctx (handleAll s run) req).1.status ∧
        (cleanPath req.asked.path = req.asked.path →
          400 ≤ (handle ctx (handleAll s run) req).1.status) ∧
        (handle ctx (handleAll s run) req).2 = handleAll s run) := by
  have hkeyed : (handleAll s run).Keyed := handleAll_invariant (fun _ _ _ => handle_keyed _ _) s run hs
  have hplaced := handleAll_placed s run hs hitems hconsumables
  generalize handleAll s run = s at hkeyed hplaced ⊢
  obtain hrefused | ⟨id, b, sent, hid, hb, hsent, hfree, hafter⟩ := handle_updateBranch ctx s hasks
  · exact ⟨fun hstatus => absurd hstatus (Nat.not_lt.mpr hrefused.1), fun _ => hrefused⟩
  · refine ⟨fun _ => ⟨id, b, sent, hid, hb, hsent, fun hname => ?_⟩, ?_⟩
    · have hrenamed := Store.withBranch_renamed sent.location hkeyed hplaced hb hfree hname
      rw [hafter]
      exact ⟨hrenamed, hrenamed.branchCounts⟩
    · obtain ⟨hmem, hbid, hactive⟩ := Store.activeBranch?_some hb
      rintro (habsent | ⟨c, hc, given, hcactive, hgiven, hname, hother⟩)
      · exact absurd (hbid ▸ hid) (habsent b hmem hactive)
      · obtain rfl : sent = given := Except.ok.inj (hsent.symm.trans hgiven)
        exact absurd hname
          (Store.name_ne_of_free hfree hc hcactive fun heq => hother (heq ▸ hid))

end

/-- The item of branch B is in branch C. -/
theorem renamingToC_moves :
    branchOfManager.Keyed ∧ branchOfManager.items = [] ∧ branchOfManager.consumables = [] ∧
      asksFor renamingToC = some (Endpoint.updateBranch, Text.ofString "1") ∧
      (handle earlyContext (handleAll branchOfManager [(earlyContext, additionByB)])
        renamingToC).1.status = 200 ∧
      (handleAll branchOfManager [(earlyContext, additionByB)]).Renamed
        (handle earlyContext (handleAll branchOfManager [(earlyContext, additionByB)])
          renamingToC).2 1 "B" "C" [] := by
  have hasks : asksFor renamingToC = some (Endpoint.updateBranch, Text.ofString "1") := by
    decide +kernel
  have hadded : handleAll branchOfManager [(earlyContext, additionByB)] =
      { branchOfManager with items := [itemInB] } := by
    rw [handleAll, additionByB_adds, handleAll]
  have hstatus : (handle earlyContext (handleAll branchOfManager [(earlyContext, additionByB)])
      renamingToC).1.status = 200 := by
    have hcaller : caller earlyContext { branchOfManager with items := [itemInB] } renamingToC =
        some asFirst := signed_caller asFirst_valid rfl
    rw [hadded, handle_status (by decide) (by decide +kernel) hasks (by decide) hcaller (by decide)]
    decide +kernel
  obtain ⟨id, b, sent, hid, hb, hsent, hmoved⟩ :=
    (handleAll_renamed branchOfManager [(earlyContext, additionByB)] branchOfManager_keyed rfl rfl
      earlyContext renamingToC _ hasks).1 (by omega)
  have hone : readInt64 (Text.ofString "1").toChars = some 1 := by decide
  obtain rfl : id = 1 := Option.some.inj ((idOf_eq_ok hid).symm.trans hone)
  have hbranch : (handleAll branchOfManager [(earlyContext, additionByB)]).activeBranch? 1 =
      some branchB := by
    rw [hadded]
    decide
  obtain rfl : b = branchB := Option.some.inj (hb.symm.trans hbranch)
  have hform : sentBranch renamingToC = .ok { name := "C" } :=
    toOption_eq_some.mp (by decide +kernel)
  obtain rfl : sent = { name := "C" } := Except.ok.inj (hsent.symm.trans hform)
  exact ⟨branchOfManager_keyed, rfl, rfl, hasks, hstatus, (hmoved (by decide)).1⟩

end Api
end Stockroom

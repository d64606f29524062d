import Stockroom.Proofs.Store.Change

/-!
The ids of the rows. In every table the ids are distinct and a new row gets one that no row has;
what is known to be damaged is a row that is there. Every history of calls keeps this, and so does
damage to a row.

Main definitions and statements:
* `Store.Keyed`: ids are distinct, and damage is that of a row;
* `nextId_fresh`: a new id is not taken;
* `Store.Change.keyed`, `StoreCall.runAll_keyed`, `Store.corrupt_keyed`: the ids stay distinct.
-/
namespace Stockroom
set_option autoImplicit false

/-! ## New ids -/

theorem le_foldl_max (ids : List Int) (start : Int) :
    start ≤ ids.foldl max start ∧ ∀ id ∈ ids, id ≤ ids.foldl max start := by
  induction ids generalizing start with
  | nil => exact ⟨Int.le_refl start, by simp⟩
  | cons first rest ih =>
    obtain ⟨hstart, hrest⟩ := ih (max start first)
    rw [List.foldl_cons]
    refine ⟨Int.le_trans (Int.le_max_left ..) hstart, ?_⟩
    intro id hid
    rcases List.mem_cons.mp hid with rfl | hid
    · exact Int.le_trans (Int.le_max_right ..) hstart
    · exact hrest id hid

theorem nextId_fresh (ids : List Int) : nextId ids ∉ ids := by
  intro hmem
  have hle := (le_foldl_max ids 0).2 _ hmem
  unfold nextId at hle
  omega

/-! ## Ids of changed tables -/

section
variable {ρ : Type} (idOf : ρ → Int)

theorem map_if_ids (rows : List ρ) (wanted : ρ → Bool) (change : ρ → ρ)
    (h : ∀ r, idOf (change r) = idOf r) :
    (rows.map fun r => if wanted r then change r else r).map idOf = rows.map idOf := by
  rw [List.map_map]
  apply List.map_congr_left
  intro r _
  rw [Function.comp_apply]
  split
  · exact h r
  · rfl

theorem replaced_id (old row : ρ) :
    idOf (if idOf old == idOf row then row else old) = idOf old := by
  split
  · next h => exact (beq_iff_eq.mp h).symm
  · rfl

theorem replace_ids (rows : List ρ) (row : ρ) :
    (rows.map fun old => if idOf old == idOf row then row else old).map idOf = rows.map idOf := by
  rw [List.map_map]
  apply List.map_congr_left
  intro old _
  exact replaced_id idOf old row

theorem filter_ids (rows : List ρ) (keep : Int → Bool) :
    (rows.filter fun r => keep (idOf r)).map idOf = (rows.map idOf).filter keep := by
  rw [List.filter_map]
  rfl

end

/-! ## The invariant -/

namespace Store

/-- No two rows of a table have the same id, and only rows that are there are damaged. -/
structure Keyed (s : Store) : Prop where
  distinct : ∀ table, (s.ids table).Nodup
  damaged : ∀ table id, (table, id) ∈ s.faults.unreadable → id ∈ s.ids table

theorem keyed_empty : Keyed {} where
  distinct := by rintro ⟨⟩ <;> exact .nil
  damaged := by simp

namespace Keyed

variable {s s' : Store}

/-- A new row is not damaged. -/
theorem fresh (h : s.Keyed) (table : TableName) :
    s.faults.unreadable.contains (table, nextId (s.ids table)) = false := by
  rw [← Bool.not_eq_true, List.contains_iff_mem]
  exact fun hmark => nextId_fresh _ (h.damaged table _ hmark)

/-- The rows may change as long as the ids stay. -/
theorem same_ids (h : s.Keyed) (hids : ∀ table, s'.ids table = s.ids table)
    (hfaults : s'.faults = s.faults) : s'.Keyed where
  distinct := fun table => hids table ▸ h.distinct table
  damaged := by
    intro table id hmark
    rw [hfaults] at hmark
    rw [hids]
    exact h.damaged table id hmark

theorem add (h : s.Keyed) (table : TableName)
    (hids : ∀ other, s'.ids other =
      if other = table then s.ids table ++ [nextId (s.ids table)] else s.ids other)
    (hfaults : s'.faults = s.faults) : s'.Keyed where
  distinct := by
    intro other
    rw [hids]
    split
    · rw [List.nodup_append]
      refine ⟨h.distinct table, by simp, ?_⟩
      intro id hid new hnew heq
      rw [List.mem_singleton.mp hnew] at heq
      exact nextId_fresh _ (heq ▸ hid)
    · exact h.distinct other
  damaged := by
    intro other id hmark
    rw [hfaults] at hmark
    have hold := h.damaged other id hmark
    rw [hids]
    split
    · next hsame => exact List.mem_append_left _ (hsame ▸ hold)
    · exact hold

theorem remove (h : s.Keyed) (table : TableName) (gone : Int → Bool)
    (hids : ∀ other, s'.ids other =
      if other = table then (s.ids table).filter fun id => !gone id else s.ids other)
    (hmarks : s'.faults.unreadable =
      s.faults.unreadable.filter fun (other, id) => !(other == table && gone id)) : s'.Keyed where
  distinct := by
    intro other
    rw [hids]
    split
    · exact (h.distinct table).filter _
    · exact h.distinct other
  damaged := by
    intro other id hmark
    rw [hmarks, List.mem_filter] at hmark
    have hold := h.damaged other id hmark.1
    rw [hids]
    split
    · next hsame =>
      subst hsame
      exact List.mem_filter.mpr ⟨hold, by simpa using hmark.2⟩
    · exact hold

end Keyed

theorem mapBranches_ids (s : Store) (wanted : BranchRow → Bool) (change : BranchRow → BranchRow)
    (h : ∀ b, (change b).id = b.id) (table : TableName) :
    (s.mapBranches wanted change).ids table = s.ids table := by
  cases table with
  | branches => exact map_if_ids _ s.branches wanted change h
  | _ => rfl

theorem mapAccount_ids (s : Store) (id : Int) (change : Account → Account)
    (h : ∀ r, (change r).id = r.id) (table : TableName) :
    (s.mapAccount id change).ids table = s.ids table := by
  cases table with
  | accounts => exact map_if_ids _ s.accounts _ change h
  | _ => rfl

theorem withBranch_ids (s : Store) (id : Int) (old name location : Text) (table : TableName) :
    (s.withBranch id old name location).ids table = s.ids table := by
  cases table with
  | branches | items | consumables | accounts => exact map_if_ids _ _ _ _ fun _ => rfl
  | _ => rfl

theorem Change.keyed {s s' : Store} (change : s.Change s') (h : s.Keyed) : s'.Keyed := by
  cases change with
  | same => exact h
  | addBranch row hid => exact h.add .branches (by rintro ⟨⟩ <;> simp [ids, hid]) rfl
  | renameBranch => exact h.same_ids (withBranch_ids s _ _ _ _) rfl
  | retireBranch | setPhoto => exact h.same_ids (mapBranches_ids s _ _ fun _ => rfl) rfl
  | addAccount row hid => exact h.add .accounts (by rintro ⟨⟩ <;> simp [ids, hid]) rfl
  | setRole | setPassword | retireAccount =>
    exact h.same_ids (mapAccount_ids s _ _ fun _ => rfl) rfl
  | addItem row hid => exact h.add .items (by rintro ⟨⟩ <;> simp [ids, hid]) rfl
  | replaceItem existing row =>
    exact h.same_ids (by rintro ⟨⟩ <;> first | rfl | exact replace_ids _ s.items row) rfl
  | removeItem id =>
    refine h.remove .items (· == id) ?_ rfl
    rintro ⟨⟩ <;> first | rfl | exact filter_ids _ s.items fun i => !(i == id)
  | addConsumable c row hrow hvalid hid =>
    exact h.add .consumables (by rintro ⟨⟩ <;> simp [ids, hid]) rfl
  | replaceConsumable existing c row =>
    exact h.same_ids (by rintro ⟨⟩ <;> first | rfl | exact replace_ids _ s.consumables row) rfl
  | removeConsumable id =>
    refine h.remove .consumables (· == id) ?_ rfl
    rintro ⟨⟩ <;> first | rfl | exact filter_ids _ s.consumables fun i => !(i == id)
  | addDelivery row hid => exact h.add .deliveries (by rintro ⟨⟩ <;> simp [ids, hid]) rfl
  | replaceDelivery row =>
    exact h.same_ids (by rintro ⟨⟩ <;> first | rfl | exact replace_ids _ s.deliveries row) rfl
  | removeDelivery id =>
    refine h.remove .deliveries (· == id) ?_ rfl
    rintro ⟨⟩ <;> first | rfl | exact filter_ids _ s.deliveries fun i => !(i == id)
  | addRequest row hid => exact h.add .requests (by rintro ⟨⟩ <;> simp [ids, hid]) rfl
  | removeRequest id =>
    refine h.remove .requests (· == id) ?_ rfl
    rintro ⟨⟩ <;> first | rfl | exact filter_ids _ s.requests fun i => !(i == id)
  | removeRequests =>
    exact h.remove .requests (fun _ => true) (by rintro ⟨⟩ <;> simp [ids, forget]) rfl
  | addSetting | addRevocation | forgetRevocations => exact h.same_ids (by rintro ⟨⟩ <;> rfl) rfl

/-! ## Damage -/

theorem corrupt_keyed {s : Store} (h : s.Keyed) (table : TableName) (id : Int) :
    (s.corrupt table id).Keyed := by
  unfold corrupt
  split
  · next hrow =>
    refine ⟨fun other => h.distinct other, ?_⟩
    intro other mark hmark
    rcases List.mem_cons.mp hmark with heq | hmark
    · obtain ⟨rfl, rfl⟩ := Prod.mk.inj heq
      exact List.contains_iff_mem.mp hrow
    · exact h.damaged other mark hmark
  · exact h

end Store

/-- After every history of calls the ids are distinct. -/
theorem StoreCall.runAll_keyed (s : Store) (calls : List (Instant × StoreCall)) (h : s.Keyed) :
    (runAll s calls).Keyed :=
  runAll_invariant (fun _ _ change => change.keyed) s calls h

end Stockroom

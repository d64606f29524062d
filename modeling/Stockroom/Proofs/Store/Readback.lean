import Stockroom.Proofs.Store.Keys
import Stockroom.Proofs.Store.Soundness

/-!
Rows that were just written are read back. A row that was added or replaced is found under its id, and
shown as it was stored.

Main statements:
* `find?_append_new`, `find?_replaced`: rows found under their ids;
* `Store.item?_inserted`, `Store.item?_replaced`;
* `Store.consumable?_inserted`, `Store.consumable?_replaced`.
-/
namespace Stockroom
set_option autoImplicit false

theorem ConsumableRow.load_createdAt {r : ConsumableRow} {c : Consumable} (h : r.load = .ok c) :
    c.createdAt = r.createdAt := by
  simp only [load, bind_eq_ok, pure_eq_ok] at h
  obtain ⟨_, -, _, -, _, -, _, -, _, -, _, -, rfl⟩ := h
  rfl

section
variable {ρ : Type} (idOf : ρ → Int) {rows : List ρ}

theorem find?_append_new {row : ρ} (h : idOf row ∉ rows.map idOf) :
    (rows ++ [row]).find? (idOf · == idOf row) = some row := by
  have hnone : rows.find? (idOf · == idOf row) = none := by
    rw [List.find?_eq_none]
    intro r hr heq
    exact h (beq_iff_eq.mp heq ▸ List.mem_map_of_mem hr)
  rw [List.find?_append, hnone, Option.none_or, List.find?_singleton, if_pos (beq_self_eq_true _)]

theorem find?_replaced {id : Int} {old row : ρ} (h : rows.find? (idOf · == id) = some old)
    (hid : idOf row = id) :
    (rows.map fun r => if idOf r == id then row else r).find? (idOf · == id) = some row := by
  induction rows with
  | nil => cases h
  | cons first rest ih =>
    rw [List.map_cons]
    by_cases hfirst : idOf first = id
    · rw [if_pos (beq_iff_eq.mpr hfirst)]
      exact List.find?_cons_of_pos (by simpa using hid)
    · rw [List.find?_cons_of_neg (by simpa using hfirst)] at h
      rw [if_neg (by simpa using hfirst), List.find?_cons_of_neg (by simpa using hfirst), ih h]

end

namespace Store

section
variable {s s' : Store} {now : Instant}

theorem readable_of_writable {table : TableName} {touches : Bool} {activity : Text}
    (h : s.writable table touches activity = .ok ()) (other : Text) :
    s.readable [table] other = .ok () := by
  obtain ⟨_, hread, -⟩ := bind_eq_ok.mp h
  unfold readable at hread ⊢
  split at hread
  · cases hread
  · next hfaults => rw [if_neg hfaults]

theorem readable_failsOnly (tables : List TableName) (activity : Text) :
    FailsOnly (· = .database activity) (s.readable tables activity) := by
  unfold readable
  split
  · exact .error rfl
  · exact .ok ()

theorem writable_failsOnly (table : TableName) (touches : Bool) (activity : Text) :
    FailsOnly (· = .database activity) (s.writable table touches activity) := by
  refine .bind (readable_failsOnly _ _) fun _ _ => ?_
  split
  · exact .error rfl
  · exact .ok _

theorem loadConsumable_failsOnly (activity : Text) (r : ConsumableRow) :
    FailsOnly (· = .database activity) (s.loadConsumable activity r) := by
  refine .bind ?_ fun _ _ => ?_
  · unfold loadable
    split
    · exact .error rfl
    · exact .ok _
  · split
    · exact .ok _
    · exact .error rfl

theorem whole_of_loadable {table : TableName} {id : Int} {activity : Text}
    (h : s.loadable table id activity = .ok ()) :
    s.faults.unreadable.contains (table, id) = false := by
  unfold loadable at h
  split at h
  · cases h
  · next hwhole => simpa using hwhole

theorem item?_stored {id : Int} {row : Item} {activity : Text} {touches : Bool}
    (hwritable : s.writable .items touches activity = .ok ())
    (hfound : s.items.find? (·.id == id) = some row)
    (hwhole : s.faults.unreadable.contains (.items, row.id) = false) :
    s.item? id = .ok (some row) := by
  have hreadable := readable_of_writable hwritable "getting inventory item"
  have hloadable : s.loadable .items row.id "getting inventory item" = .ok () :=
    if_neg (by rw [hwhole]; decide)
  rw [item?, hreadable]
  simp only [hfound, hloadable, bind, Except.bind, pure, Except.pure]

/-- An item that was added is read back. -/
theorem item?_inserted (hs : s.Keyed) {r row : Item} (h : s.insertItem now r = .ok (row, s')) :
    s'.item? row.id = .ok (some row) := by
  obtain ⟨_, hwritable, h⟩ := bind_eq_ok.mp h
  obtain ⟨hrow, hstore⟩ := Prod.mk.inj (pure_eq_ok.mp h)
  have hid : row.id = nextId (s.ids .items) := hrow ▸ rfl
  rw [hrow] at hstore
  subst hstore
  refine item?_stored (s := { s with items := s.items ++ [row] }) hwritable
    (find?_append_new Item.id ?_) ?_
  · rw [hid]
    exact nextId_fresh _
  · rw [hid]
    exact hs.fresh .items

/-- An item that was replaced is read back. -/
theorem item?_replaced {id : Int} {existing r row : Item}
    (hfound : s.item? id = .ok (some existing))
    (h : s.replaceItem now existing r = .ok (row, s')) : s'.item? id = .ok (some row) := by
  obtain rfl : existing.id = id := by simpa using List.find?_some (item?_some hfound)
  obtain ⟨_, hwritable, h⟩ := bind_eq_ok.mp h
  obtain ⟨hrow, hstore⟩ := Prod.mk.inj (pure_eq_ok.mp h)
  have hid : row.id = existing.id := hrow ▸ rfl
  rw [hrow] at hstore
  subst hstore
  have hwhole : s.faults.unreadable.contains (.items, existing.id) = false := by
    obtain ⟨_, -, hload⟩ := bind_eq_ok.mp hfound
    rw [item?_some hfound] at hload
    obtain ⟨_, hload, -⟩ := bind_eq_ok.mp hload
    exact whole_of_loadable hload
  refine item?_stored (s := { s with items := _ }) hwritable
    (find?_replaced Item.id (item?_some hfound) hid) ?_
  rw [hid]
  exact hwhole

theorem consumable?_stored {id : Int} {row : ConsumableRow} {c : Consumable} {activity : Text}
    {touches : Bool} (hwritable : s.writable .consumables touches activity = .ok ())
    (hfound : s.consumables.find? (·.id == id) = some row)
    (hload : s.loadConsumable "getting consumable" row = .ok c) :
    s.consumable? id = .ok (some c) := by
  have hreadable := readable_of_writable hwritable "getting consumable"
  rw [consumable?, hreadable]
  simp only [hfound, hload, bind, Except.bind, pure, Except.pure]

/-- A consumable that was added is read back. -/
theorem consumable?_inserted {c shown : Consumable}
    (h : s.insertConsumable now c = .ok (shown, s')) : s'.consumable? shown.id = .ok (some shown) := by
  obtain ⟨_, hwritable, h⟩ := bind_eq_ok.mp h
  obtain ⟨row, hrow, h⟩ := bind_eq_ok.mp h
  obtain ⟨loaded, hload, h⟩ := bind_eq_ok.mp h
  obtain ⟨rfl, rfl⟩ := Prod.mk.inj (pure_eq_ok.mp h)
  have hid : row.id = nextId (s.ids .consumables) :=
    ConsumableRow.ofConsumable_id (consumableRow_eq_ok hrow)
  rw [ConsumableRow.load_id (loadConsumable_eq_ok hload)]
  refine consumable?_stored (s := { s with consumables := _ }) hwritable
    (find?_append_new ConsumableRow.id ?_) hload
  rw [hid]
  exact nextId_fresh _

/-- A consumable that was replaced is read back. -/
theorem consumable?_replaced {id : Int} {existing c shown : Consumable}
    (hfound : s.consumable? id = .ok (some existing))
    (h : s.replaceConsumable now existing c = .ok (shown, s')) :
    s'.consumable? id = .ok (some shown) := by
  obtain ⟨old, hold, hexisting⟩ := consumable?_some hfound
  obtain rfl : old.id = id := by simpa using List.find?_some hold
  rw [← ConsumableRow.load_id hexisting] at hold ⊢
  obtain ⟨_, hwritable, h⟩ := bind_eq_ok.mp h
  obtain ⟨written, hrow, h⟩ := bind_eq_ok.mp h
  obtain ⟨loaded, hload, h⟩ := bind_eq_ok.mp h
  obtain ⟨rfl, rfl⟩ := Prod.mk.inj (pure_eq_ok.mp h)
  have hid := ConsumableRow.ofConsumable_id (consumableRow_eq_ok hrow)
  exact consumable?_stored (s := { s with consumables := _ }) hwritable
    (find?_replaced ConsumableRow.id hold hid) hload

end

end Store
end Stockroom

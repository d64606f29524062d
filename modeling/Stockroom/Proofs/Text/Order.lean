import Mathlib.Order.Defs.LinearOrder
import Stockroom.Proofs.Text.Utf8
import Stockroom.Store.Basic

/-!
The order in which rows are listed. Texts are compared by the bytes they are written as, and what is
compared by one column after another is sorted by the first in which it differs.

Main statements:
* `Text.le_iff`, `Text.compare_eq_lt`, `Text.isLE_compare`: the order of texts is that of their bytes;
* `Text.bytes_inj`: texts without stray bytes that are written alike are the same;
* `sortedBy_perm`, `sortedBy_pairwise`: sorted rows are the rows, in order.
-/
namespace Stockroom
set_option autoImplicit false

namespace Text

variable {s t : Text}

theorem bytesLe_iff {s t : List UInt8} : bytesLe s t = true ↔ s ≤ t := by
  induction s generalizing t with
  | nil => simp [bytesLe]
  | cons a s ih =>
    cases t with
    | nil => simp [bytesLe]
    | cons b t => simp [bytesLe, List.cons_le_cons_iff, ih]

theorem le_iff : s.le t = true ↔ s.bytes ≤ t.bytes := bytesLe_iff

/-- Of two texts one comes first. -/
theorem le_of_not_le (h : s.le t = false) : t.le s = true := by
  rcases List.le_total s.bytes t.bytes with hle | hge
  · rw [le_iff.mpr hle] at h
    cases h
  · exact le_iff.mpr hge

theorem isLE_compare : (s.compare t).isLE = true ↔ s.bytes ≤ t.bytes := by
  rw [← le_iff, compare]
  cases s.le t <;> cases t.le s <;> simp

theorem compare_eq_lt : s.compare t = .lt ↔ s.bytes < t.bytes := by
  rw [← List.not_le, ← le_iff, compare]
  cases hle : s.le t with
  | true => cases t.le s <;> simp
  | false => simp [le_of_not_le hle]

theorem compare_eq_eq : s.compare t = .eq ↔ s.bytes = t.bytes := by
  have hboth : s.bytes = t.bytes ↔ s.le t = true ∧ t.le s = true := by
    rw [le_iff, le_iff]
    refine ⟨fun h => ?_, fun h => List.le_antisymm h.1 h.2⟩
    rw [h]
    exact ⟨List.le_refl _, List.le_refl _⟩
  rw [hboth, compare]
  cases s.le t <;> cases t.le s <;> simp

instance : Std.TransCmp Text.compare where
  eq_swap {s t} := by
    rw [compare, compare]
    cases hle : s.le t with
    | true => cases t.le s <;> simp
    | false => simp [le_of_not_le hle]
  isLE_trans {s t u} hst htu := by
    rw [isLE_compare] at hst htu ⊢
    exact List.le_trans hst htu

/-- Rows are compared by the text in a column of theirs. -/
theorem transCmp_column {ρ : Type} (column : ρ → Text) :
    Std.TransCmp fun a b => (column a).compare (column b) where
  eq_swap := Std.OrientedCmp.eq_swap
  isLE_trans := Std.TransCmp.isLE_trans

/-- Texts without stray bytes that are written alike are the same. -/
theorem bytes_inj (hs : s.wellFormed = true) (ht : t.wellFormed = true) :
    s.bytes = t.bytes ↔ s = t := by
  refine ⟨fun h => ?_, fun h => h ▸ rfl⟩
  rw [← ofBytes_bytes hs, ← ofBytes_bytes ht, h]

end Text

/-! ## Sorted rows -/

section
variable {ρ : Type} {cmp : ρ → ρ → Ordering}

/-- Rows are compared in one way, and, where they are equal, in another one. -/
theorem transCmp_then {other : ρ → ρ → Ordering} (h : Std.TransCmp cmp) (hother : Std.TransCmp other) :
    Std.TransCmp fun a b => (cmp a b).then (other a b) :=
  inferInstanceAs (Std.TransCmp (compareLex cmp other))

theorem sortedBy_perm (cmp : ρ → ρ → Ordering) (rows : List ρ) : (sortedBy cmp rows).Perm rows :=
  List.mergeSort_perm rows _

theorem sortedBy_pairwise [Std.TransCmp cmp] (rows : List ρ) :
    (sortedBy cmp rows).Pairwise fun a b => (cmp a b).isLE = true := by
  refine List.pairwise_mergeSort (fun a b c => Std.TransCmp.isLE_trans) (fun a b => ?_) rows
  have hswap : cmp b a = (cmp a b).swap := Std.OrientedCmp.eq_swap
  rw [hswap]
  cases cmp a b <;> rfl

end

end Stockroom

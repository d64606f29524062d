import Stockroom.Calendar.Instant

/-!
Branches, which inventory refers to by name, and the counts their dashboards show.

Main definitions: `Branch`, `BranchCounts`, `Overview`.
-/
namespace Stockroom
set_option autoImplicit false

/-- A site of the company, as it is shown. -/
structure Branch where
  id : Int := 0
  name : Text := []
  location : Text := []
  imageMime : Text := []
  createdAt : Instant := .unset
  deriving DecidableEq, Repr

instance : Inhabited Branch := ⟨{}⟩

/-- What the dashboard of a branch shows; of consumables only those in stock count. -/
structure BranchCounts where
  branch : Text := []
  pcs : Nat := 0
  printers : Nat := 0
  consumables : Nat := 0
  deriving DecidableEq, Repr

/-- The dashboard of an administrator. -/
structure Overview where
  users : Nat
  branches : Nat
  pcs : Nat
  requests : Nat
  deliveries : Nat
  perBranch : List BranchCounts
  deriving DecidableEq, Repr

end Stockroom

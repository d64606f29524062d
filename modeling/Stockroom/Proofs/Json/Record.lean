import Stockroom.Proofs.Json.RoundTrip
import Stockroom.Json.Record

/-!
Records read back from their written members. Where the keys of the fields are in small letters and
differ, each written member sets its own field; a member that is left out because its text is empty
leaves the field as it is, which is what setting it to the empty text does to a new record.

Main definitions and statements:
* `Json.Distinct`, `Json.find?_field`: the field a key names;
* `Json.decode_member`, `Json.decode_text`, `Json.decode_optional`, `Json.decode_int`: what one
  written member does;
* `Json.Flat`, `Json.decodeFirst_render`: reading a written object.
-/
namespace Stockroom
set_option autoImplicit false

namespace Json

section
variable {ε ρ : Type} {fields : List (Field ε ρ)}

/-! ## Keys -/

/-- A key without capitals. -/
def isPlainKey (key : String) : Bool := key.toList.map keyChar == key.toList

/-- The keys of the fields have no capitals and differ. -/
def Distinct (fields : List (Field ε ρ)) : Prop :=
  (fields.map (·.name)).all isPlainKey = true ∧ (fields.map (·.name)).Nodup

instance (fields : List (Field ε ρ)) : Decidable (Distinct fields) :=
  inferInstanceAs (Decidable (_ ∧ _))

theorem sameKey_plain {name key : String} (hname : isPlainKey name = true)
    (hkey : isPlainKey key = true) : sameKey name (Text.ofString key) = (key == name) := by
  have hchars : (Text.ofString key).toChars = key.toList := Text.toChars_ofChars _
  rw [isPlainKey, beq_iff_eq] at hname hkey
  rw [sameKey, hchars, hname, hkey, Bool.eq_iff_iff, beq_iff_eq, beq_iff_eq, String.toList_inj]

/-- A key names the field that has it. -/
theorem find?_field (hfields : Distinct fields) {i : Nat} {field : Field ε ρ} {key : String}
    (h : fields[i]? = some field) (hname : field.name = key) :
    fields.find? (sameKey ·.name (Text.ofString key)) = some field := by
  subst hname
  obtain ⟨hplain, hnodup⟩ := hfields
  obtain ⟨hi, rfl⟩ := List.getElem?_eq_some_iff.mp h
  have hkey {f : Field ε ρ} (hf : f ∈ fields) : isPlainKey f.name = true :=
    List.all_eq_true.mp hplain _ (List.mem_map_of_mem hf)
  rw [List.find?_eq_some_iff_getElem]
  refine ⟨?_, i, hi, rfl, ?_⟩
  · rw [sameKey_plain (hkey (List.getElem_mem hi)) (hkey (List.getElem_mem hi)), beq_self_eq_true]
  · intro j hj
    rw [sameKey_plain (hkey (List.getElem_mem _)) (hkey (List.getElem_mem hi)), Bool.not_eq_true',
      beq_eq_false_iff_ne]
    intro heq
    have hi' : i < (fields.map (·.name)).length := by simpa using hi
    have hj' : j < (fields.map (·.name)).length := by omega
    have hdiffer := List.pairwise_iff_getElem.mp hnodup j i hj' hi' hj
    exact hdiffer (by simpa using heq.symm)

/-! ## Members -/

/-- A reading that was spoilt does not succeed. -/
theorem decodeMembers_spoilt {r r' : ρ} {members : List (Text × List Char × Json)} :
    decodeMembers fields true r members ≠ .ok r' := by
  induction members generalizing r with
  | nil =>
    intro h
    cases h
  | cons m members ih =>
    obtain ⟨key, source, v⟩ := m
    rw [decodeMembers]
    split
    · exact ih
    · split
      · exact ih
      · exact ih
      · intro h
        cases h

variable (hfields : Distinct fields) {spoilt : Bool} {r r' : ρ} {key : String} {t : Text}
  {rest : List (Text × List Char × Json)}
include hfields

theorem decode_member {v : Json} {field : Field ε ρ} (i : Nat) (h : fields[i]? = some field)
    (hname : field.name = key) (hread : field.read r v.render (legible v) = .done r') :
    decodeMembers fields spoilt r (legibleMembers (member key v :: rest)) =
      decodeMembers fields spoilt r' (legibleMembers rest) := by
  rw [member, legibleMembers, Text.mended_ofString, decodeMembers, find?_field hfields h hname]
  simp only [hread]

theorem decode_text {set : ρ → Text → ρ} (i : Nat) (h : fields[i]? = some (textField key set)) :
    decodeMembers fields spoilt r (legibleMembers (member key (.string t) :: rest)) =
      decodeMembers fields spoilt (set r t.mended) (legibleMembers rest) :=
  decode_member hfields i h rfl (by rw [legible]; rfl)

theorem decode_optional {set : ρ → Text → ρ} (i : Nat)
    (h : fields[i]? = some (textField key set)) (hset : set r [] = r) :
    decodeMembers fields spoilt r (legibleMembers (memberUnlessEmpty key t ++ rest)) =
      decodeMembers fields spoilt (set r t.mended) (legibleMembers rest) := by
  unfold memberUnlessEmpty
  split
  · next hempty =>
    rw [List.isEmpty_iff.mp hempty, List.nil_append]
    exact congrArg (decodeMembers fields spoilt · _) hset.symm
  · exact decode_text hfields i h

theorem decode_int {set : ρ → Int → ρ} {n : Int} (i : Nat)
    (h : fields[i]? = some (intField key set)) (hfits : fitsInt64 n = true) :
    decodeMembers fields spoilt r (legibleMembers (member key (.int n) :: rest)) =
      decodeMembers fields spoilt (set r n) (legibleMembers rest) := by
  refine decode_member hfields i h rfl ?_
  simp only [intField, int, legible, readInt64_ofInt hfits]

/-- An integer that does not fit spoils the reading. -/
theorem fits_of_decode {set : ρ → Int → ρ} {n : Int} (i : Nat)
    (h : fields[i]? = some (intField key set))
    (hok : decodeMembers fields spoilt r (legibleMembers (member key (.int n) :: rest)) = .ok r') :
    fitsInt64 n = true := by
  cases hfits : fitsInt64 n with
  | true => rfl
  | false =>
    have hfound : fields.find? (sameKey ·.name (Text.ofString key)) = some (intField key set) :=
      find?_field hfields h rfl
    have hread : readInt64 (Text.ofInt n).toChars = none := by
      rw [readInt64, readInt_ofInt, Option.filter_some, hfits, if_neg (by simp)]
    rw [member, legibleMembers, Text.mended_ofString, decodeMembers, hfound] at hok
    simp only [intField, int, legible, hread] at hok
    exact absurd hok decodeMembers_spoilt

end

/-! ## Objects -/

/-- The values of members are texts and integers. -/
def Flat (members : List (Text × List Char × Json)) : Prop :=
  ∀ m ∈ members, Whole m.2.2 ∧ height m.2.2 = 0

section
variable {members : List (Text × List Char × Json)}

theorem whole_int (i : Int) : Whole (.int i) := ⟨i, rfl⟩

theorem flat_nil : Flat [] := fun _ hm => nomatch hm

theorem flat_text (key : String) (t : Text) (h : Flat members) :
    Flat (member key (.string t) :: members) :=
  List.forall_mem_cons.mpr ⟨⟨trivial, rfl⟩, h⟩

theorem flat_int (key : String) (i : Int) (h : Flat members) :
    Flat (member key (.int i) :: members) :=
  List.forall_mem_cons.mpr ⟨⟨whole_int i, rfl⟩, h⟩

theorem flat_optional (key : String) (t : Text) (h : Flat members) :
    Flat (memberUnlessEmpty key t ++ members) := by
  unfold memberUnlessEmpty
  split
  · exact h
  · exact flat_text key t h

theorem wholeMembers_iff : WholeMembers members ↔ ∀ m ∈ members, Whole m.2.2 := by
  induction members with
  | nil => simp [WholeMembers]
  | cons m members ih => rw [WholeMembers, ih, List.forall_mem_cons]

theorem heightMembers_le {n : Nat} (h : ∀ m ∈ members, height m.2.2 ≤ n) :
    heightMembers members ≤ n := by
  induction members with
  | nil => exact Nat.zero_le n
  | cons m members ih =>
    obtain ⟨hm, hrest⟩ := List.forall_mem_cons.mp h
    exact Nat.max_le.mpr ⟨hm, ih hrest⟩

theorem Flat.whole (h : Flat members) : Whole (.object members) :=
  wholeMembers_iff.mpr fun m hm => (h m hm).1

theorem Flat.height_le (h : Flat members) : height (.object members) ≤ 1 :=
  Nat.succ_le_succ (heightMembers_le fun m hm => Nat.le_of_eq (h m hm).2)

variable {ε ρ : Type} {fields : List (Field ε ρ)} {r : ρ}

/-- A record is read from a written object. -/
theorem decodeText_render {v : Json} (hv : Whole v) (hheight : height v ≤ maxDepth) :
    decodeText fields r v.render = decodeRecord fields r (legible v) := by
  rw [decodeText, read_render hv hheight]

theorem decodeFirst_render {v : Json} (hv : Whole v) (hheight : height v ≤ maxDepth) :
    decodeFirst fields r v.render = decodeRecord fields r (legible v) := by
  have hfirst := readFirst_render hv hheight ends_nil
  rw [List.append_nil] at hfirst
  rw [decodeFirst, hfirst]

end

end Json
end Stockroom

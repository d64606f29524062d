import Stockroom.Proofs.Calendar.Instant
import Stockroom.Proofs.Json.Record
import Stockroom.Proofs.Store.Markings
import Stockroom.Record.Wire

/-!
Records that come through the wire as they were. An item or a consumable is read back from its
written form if its texts hold no stray byte, its times are whole seconds of a year with four
digits, and its integers fit sixty-four bits. The name of the branch may hold stray bytes; it is
read back with U+FFFD in their place. Of the times of a consumable that are not as plain as that, the
zones are read back in whole minutes.

Main definitions and statements:
* `Instant.Plain`, `decode_stamp`, `decode_time`: times that are read back;
* `decode_quantity`: counts that are read back;
* `Item.Legible`, `Item.decode_toJson`;
* `Consumable.Sendable`, `Consumable.toMembers_sendable`: what is read back of any consumable that
  can be sent;
* `Consumable.Legible`, `Consumable.toMembers_legible`.
-/
namespace Stockroom
set_option autoImplicit false

open Json (Field member memberUnlessEmpty legible legibleMembers decodeMembers Distinct)

/-! ## Times -/

/-- A time of whole seconds in universal time, in a year of four digits. -/
structure Instant.Plain (t : Instant) : Prop where
  year : t.FourDigitYear
  nano : t.nano = 0
  offset : t.offset = 0

namespace Instant

theorem unset_plain : unset.Plain := ⟨by decide, rfl, rfl⟩

namespace Plain

variable {t : Instant}

theorem writable (h : t.Plain) : t.Writable where
  year := by
    rw [h.offset, Int.add_zero]
    exact h.year
  nano := by
    rw [h.nano]
    decide
  zone := by
    rw [h.offset]
    decide

theorem reread (h : t.Plain) : t.reread = t := reread_eq (by rw [h.offset]; rfl)

end Plain
end Instant

/-- The characters of a stamp. -/
def isStampChar (c : Char) : Bool :=
  c.isDigit || ['-', 'T', ':', 'Z', '.', '+'].contains c

theorem isStampChar_all {cs : List Char} (h : ∀ c ∈ cs, c.isDigit = true) :
    cs.all isStampChar = true := by
  refine List.all_eq_true.mpr fun c hc => ?_
  rw [isStampChar, h c hc]
  rfl

theorem isStampChar_digits (width n : Nat) : (fixedDigits width n).all isStampChar = true :=
  isStampChar_all (fixedDigits_isDigit width n)

theorem Instant.Writable.stamp_chars {t : Instant} (h : t.Writable) :
    t.stamp.toChars.all isStampChar = true := by
  have hfraction : (fractionText t.nano).toChars.all isStampChar = true := by
    rw [fractionText_eq h.nano]
    split
    · rfl
    · rw [List.all_cons, isStampChar_all (trimmedDigits_isDigit 9 t.nano)]
      decide
  have hzone : (zoneChars t.offset).all isStampChar = true := by
    unfold zoneChars
    split
    · decide
    · rw [List.all_cons, List.all_append, List.all_cons, isStampChar_digits, isStampChar_digits]
      split
      · decide
      · decide
  rw [stamp_eq h]
  simp only [List.all_append, List.all_cons, isStampChar_digits, hfraction, hzone]
  decide

theorem escapedChar_stamp {c : Char} (h : isStampChar c = true) : Json.escapedChar c = [c] := by
  simp only [isStampChar, Bool.or_eq_true, List.contains_cons, List.contains_nil, beq_iff_eq,
    Bool.false_eq_true, or_false] at h
  obtain hdigit | rfl | rfl | rfl | rfl | rfl | rfl := h
  · have hne (d : Char) (hd : d.isDigit = false) : (c == d) = false :=
      beq_false_of_ne (digit_ne hdigit hd)
    have hrange : 48 ≤ c.toNat ∧ c.toNat ≤ 57 := by
      rw [Char.isDigit, Bool.and_eq_true, decide_eq_true_eq, decide_eq_true_eq] at hdigit
      exact ⟨hdigit.1, hdigit.2⟩
    have hnot (n : Nat) (hn : n < 48 ∨ 57 < n) : (c.toNat == n) = false := by
      rw [beq_eq_false_iff_ne]
      omega
    have hlow : ¬ c.toNat < 0x20 := by omega
    simp [Json.escapedChar, hne, hnot, hlow]
  all_goals decide

/-- Nothing in a stamp is escaped. -/
theorem renderString_stamp {t : Text} (h : t.toChars.all isStampChar = true) :
    Json.renderString t = '"' :: (t.toChars ++ ['"']) := by
  have hescaped : t.flatMap Json.escapedGlyph = t.toChars := by
    induction t with
    | nil => rfl
    | cons g rest ih =>
      rw [Text.toChars, List.map_cons, List.all_cons, Bool.and_eq_true] at h
      rw [List.flatMap_cons, ih h.2]
      cases g with
      | char c =>
        have hchar : Json.escapedGlyph (.char c) = [c] := escapedChar_stamp h.1
        rw [hchar]
        rfl
      | stray b => exact absurd h.1 (by decide : ¬ isStampChar '\uFFFD' = true)
  rw [Json.renderString, hescaped]

theorem readQuotedTime_stamp {t : Instant} (h : t.Writable) :
    readQuotedTime (Json.string t.stamp).render = some t.reread := by
  rw [Json.render, renderString_stamp h.stamp_chars, readQuotedTime, List.getLast?_concat,
    List.dropLast_concat, if_pos (beq_self_eq_true _)]
  exact Instant.read_stamp h

section
variable {ρ : Type} {fields : List (Field Refusal ρ)} (hfields : Distinct fields) {spoilt : Bool}
  {r : ρ} {key : String} {rest : List (Text × List Char × Json)}
include hfields

theorem decode_stamp {set : ρ → Instant → ρ} {t : Instant} (i : Nat)
    (h : fields[i]? = some (timeField key set)) (ht : t.Writable) :
    decodeMembers fields spoilt r (legibleMembers (timeMember key t :: rest)) =
      decodeMembers fields spoilt (set r t.reread) (legibleMembers rest) := by
  refine Json.decode_member hfields i h rfl ?_
  have hnull : (Json.string t.stamp).render ≠ ['n', 'u', 'l', 'l'] := by
    rw [Json.render, renderString_stamp ht.stamp_chars]
    simp
  simp only [timeField, if_neg hnull, readQuotedTime_stamp ht]

theorem decode_time {set : ρ → Instant → ρ} {t : Instant} (i : Nat)
    (h : fields[i]? = some (timeField key set)) (ht : t.Plain) :
    decodeMembers fields spoilt r (legibleMembers (timeMember key t :: rest)) =
      decodeMembers fields spoilt (set r t) (legibleMembers rest) := by
  rw [decode_stamp hfields i h ht.writable, ht.reread]

/-! ## Counts -/

omit hfields in
/-- A count that is not below zero is written as it is. -/
theorem Quantity.written_of_count {q : Quantity}
    (h : ∀ n ∈ q.count?, 0 ≤ n ∧ fitsInt64 n = true) :
    ∃ n, q.written = .ok n ∧ fitsInt64 n = true := by
  cases q with
  | notApplicable => exact ⟨sentinel, rfl, by decide⟩
  | counted n =>
    obtain ⟨hn, hfits⟩ := h n rfl
    refine ⟨n, ?_, hfits⟩
    rw [written, check, if_neg (Int.not_lt.mpr hn)]
    rfl

omit hfields in
theorem Quantity.count_of_written {q : Quantity} {n k : Int} (h : q.written = .ok n)
    (hfits : fitsInt64 n = true) (hk : k ∈ q.count?) : 0 ≤ k ∧ fitsInt64 k = true := by
  cases q with
  | notApplicable => cases hk
  | counted m =>
    cases hk
    obtain ⟨_, hcheck, h⟩ := bind_eq_ok.mp h
    obtain rfl := pure_eq_ok.mp h
    refine ⟨Int.not_lt.mp fun hneg => ?_, hfits⟩
    rw [check, if_pos hneg] at hcheck
    cases hcheck

omit hfields in
theorem Quantity.ofJson_int {q current : Quantity} {n : Int} (hq : q.written = .ok n)
    (hfits : fitsInt64 n = true) : ofJson current (Json.int n).render = .ok q := by
  have hread := readInt64_ofInt hfits
  have hnull : (Json.int n).render ≠ ['n', 'u', 'l', 'l'] := by
    intro heq
    have hsource : (Text.ofInt n).toChars = ['n', 'u', 'l', 'l'] := heq
    have hword : readInt64 ['n', 'u', 'l', 'l'] = none := by decide
    rw [hsource, hword] at hread
    cases hread
  have hinteger : integerOf (Json.int n).render = some n := by
    rw [integerOf, Json.read_render (Json.whole_int n) (Nat.zero_le _), Json.int, Json.legible]
    exact hread
  rw [ofJson, if_neg hnull, hinteger]
  exact decode_written hq

theorem decode_quantity {get : ρ → Quantity} {set : ρ → Quantity → ρ} {q : Quantity} {n : Int}
    (i : Nat) (h : fields[i]? = some (quantityField key get set)) (hq : q.written = .ok n)
    (hfits : fitsInt64 n = true) :
    decodeMembers fields spoilt r (legibleMembers (member key (.int n) :: rest)) =
      decodeMembers fields spoilt (set r q) (legibleMembers rest) := by
  refine Json.decode_member hfields i h rfl ?_
  simp only [quantityField, Quantity.ofJson_int hq hfits]

end

/-! ## Items -/

namespace Item

/-- The texts of an item but for its branch. -/
def texts (r : Item) : List Text :=
  [r.kind, r.assetName, r.assignedUser, r.email, r.service, r.description, r.assignedOn,
    r.status, r.remark, r.location, r.ipAddress, r.hostname, r.model, r.serialNumber]

/-- An item that comes through the wire as it is, but for its branch. -/
structure Legible (r : Item) : Prop where
  id : fitsInt64 r.id = true
  texts : ∀ t ∈ r.texts, t.wellFormed = true
  createdAt : r.createdAt.Plain
  updatedAt : r.updatedAt.Plain

theorem toJson_eq (r : Item) :
    r.toJson = .object (member "id" (.int r.id) :: member "kind" (.string r.kind) ::
      member "branch" (.string r.branch) :: (memberUnlessEmpty "asset_name" r.assetName ++
      (memberUnlessEmpty "assigned_user" r.assignedUser ++ (memberUnlessEmpty "email" r.email ++
      (memberUnlessEmpty "service" r.service ++ (memberUnlessEmpty "description" r.description ++
      (memberUnlessEmpty "assigned_on" r.assignedOn ++ (memberUnlessEmpty "status" r.status ++
      (memberUnlessEmpty "remark" r.remark ++ (memberUnlessEmpty "location" r.location ++
      (memberUnlessEmpty "ip_address" r.ipAddress ++ (memberUnlessEmpty "hostname" r.hostname ++
      (memberUnlessEmpty "model" r.model ++ (memberUnlessEmpty "serial_number" r.serialNumber ++
      [timeMember "created_at" r.createdAt, timeMember "updated_at" r.updatedAt])))))))))))))) := by
  simp only [toJson, List.append_assoc, List.cons_append, List.nil_append]

theorem wireFields_distinct : Distinct wireFields := by decide +kernel

theorem toJson_whole (r : Item) : r.toJson.Whole ∧ r.toJson.height ≤ 1 := by
  have hflat : Json.Flat _ := Json.flat_int "id" r.id (Json.flat_text "kind" r.kind
    (Json.flat_text "branch" r.branch (Json.flat_optional "asset_name" r.assetName
    (Json.flat_optional "assigned_user" r.assignedUser (Json.flat_optional "email" r.email
    (Json.flat_optional "service" r.service (Json.flat_optional "description" r.description
    (Json.flat_optional "assigned_on" r.assignedOn (Json.flat_optional "status" r.status
    (Json.flat_optional "remark" r.remark (Json.flat_optional "location" r.location
    (Json.flat_optional "ip_address" r.ipAddress (Json.flat_optional "hostname" r.hostname
    (Json.flat_optional "model" r.model (Json.flat_optional "serial_number" r.serialNumber
    (Json.flat_text "created_at" r.createdAt.stamp (Json.flat_text "updated_at" r.updatedAt.stamp
    Json.flat_nil)))))))))))))))))
  rw [toJson_eq]
  exact ⟨hflat.whole, hflat.height_le⟩

/-- An item as it is read back. -/
def received (r : Item) : Item := { r with branch := r.branch.mended }

theorem decode_toJson {r : Item} (h : r.Legible) :
    Json.decodeRecord wireFields default (legible r.toJson) = .ok r.received := by
  have hdistinct := wireFields_distinct
  rw [toJson_eq, Json.legible, Json.decodeRecord, Json.decode_int hdistinct 0 rfl h.id,
    Json.decode_text hdistinct 1 rfl, Json.decode_text hdistinct 2 rfl,
    Json.decode_optional hdistinct 3 rfl rfl, Json.decode_optional hdistinct 4 rfl rfl,
    Json.decode_optional hdistinct 5 rfl rfl, Json.decode_optional hdistinct 6 rfl rfl,
    Json.decode_optional hdistinct 7 rfl rfl, Json.decode_optional hdistinct 8 rfl rfl,
    Json.decode_optional hdistinct 9 rfl rfl, Json.decode_optional hdistinct 10 rfl rfl,
    Json.decode_optional hdistinct 11 rfl rfl, Json.decode_optional hdistinct 12 rfl rfl,
    Json.decode_optional hdistinct 13 rfl rfl, Json.decode_optional hdistinct 14 rfl rfl,
    Json.decode_optional hdistinct 15 rfl rfl, decode_time hdistinct 16 rfl h.createdAt,
    decode_time hdistinct 17 rfl h.updatedAt]
  have htexts := h.texts
  simp only [texts, List.forall_mem_cons, List.not_mem_nil, false_implies, implies_true,
    and_true] at htexts
  simp only [Text.mended_of_wellFormed, htexts]
  rfl

end Item

/-! ## Consumables -/

namespace Consumable

/-- The texts of a consumable but for its branch. -/
def texts (c : Consumable) : List Text :=
  [c.brand, c.reference, c.tonerTag, c.description, c.state]

/-- A consumable that can be sent: nothing but its branch holds a stray byte, no count is below zero,
and its times can be written. -/
structure Sendable (c : Consumable) : Prop where
  id : fitsInt64 c.id = true
  texts : ∀ t ∈ c.texts, t.wellFormed = true
  counts : ∀ q ∈ c.quantities, ∀ n ∈ q.count?, 0 ≤ n ∧ fitsInt64 n = true
  createdAt : c.createdAt.Writable
  updatedAt : c.updatedAt.Writable

/-- A consumable that comes through the wire as it is, but for its branch. -/
structure Legible (c : Consumable) : Prop where
  id : fitsInt64 c.id = true
  texts : ∀ t ∈ c.texts, t.wellFormed = true
  counts : ∀ q ∈ c.quantities, ∃ n, q.written = .ok n ∧ fitsInt64 n = true
  createdAt : c.createdAt.Plain
  updatedAt : c.updatedAt.Plain

theorem Legible.sendable {c : Consumable} (h : c.Legible) : c.Sendable where
  id := h.id
  texts := h.texts
  counts := by
    intro q hq n hn
    obtain ⟨written, hwritten, hfits⟩ := h.counts q hq
    exact Quantity.count_of_written hwritten hfits hn
  createdAt := h.createdAt.writable
  updatedAt := h.updatedAt.writable

theorem wireFields_distinct : Distinct wireFields := by decide +kernel

/-- A consumable as it is read back. -/
def received (c : Consumable) : Consumable := { c with branch := c.branch.mended }

theorem received_eq {c : Consumable} (h : c.branch.wellFormed = true) : c.received = c := by
  rw [received, Text.mended_of_wellFormed h]

/-- A consumable with its times as their stamps give them. -/
def retimed (c : Consumable) : Consumable :=
  { c with createdAt := c.createdAt.reread, updatedAt := c.updatedAt.reread }

theorem Legible.retimed {c : Consumable} (h : c.Legible) : c.received.retimed = c.received := by
  rw [Consumable.retimed, received, h.createdAt.reread, h.updatedAt.reread]

/-- A consumable is written, and read back from its members whatever follows them. -/
theorem toMembers_sendable {c : Consumable} (h : c.Sendable) :
    ∃ members, c.toMembers = .ok members ∧ Json.Flat members ∧
      ∀ more, decodeMembers wireFields false default (legibleMembers (members ++ more)) =
        decodeMembers wireFields false c.received.retimed (legibleMembers more) := by
  have hcounts : ∀ q ∈ c.quantities, ∃ n, q.written = .ok n ∧ fitsInt64 n = true :=
    fun q hq => Quantity.written_of_count (h.counts q hq)
  simp only [quantities, colors, List.cons_append, List.nil_append, List.forall_mem_cons,
    List.not_mem_nil, false_implies, implies_true, and_true] at hcounts
  obtain ⟨⟨cyan, hcyan, fcyan⟩, ⟨magenta, hmagenta, fmagenta⟩, ⟨yellow, hyellow, fyellow⟩,
    ⟨colorBlack, hcolorBlack, fcolorBlack⟩, ⟨black, hblack, fblack⟩, ⟨drum, hdrum, fdrum⟩⟩ := hcounts
  have hmembers : c.toMembers = .ok (member "id" (.int c.id) :: member "brand" (.string c.brand) ::
      member "reference" (.string c.reference) :: (memberUnlessEmpty "toner_type" c.tonerTag ++
      (member "black" (.int black) :: member "cyan" (.int cyan) ::
      member "magenta" (.int magenta) :: member "yellow" (.int yellow) ::
      member "color_black" (.int colorBlack) :: member "drum" (.int drum) ::
      member "branch" (.string c.branch) :: (memberUnlessEmpty "description" c.description ++
      [member "state" (.string c.state), timeMember "created_at" c.createdAt,
        timeMember "updated_at" c.updatedAt])))) := by
    rw [toMembers, hblack, hcyan, hmagenta, hyellow, hcolorBlack, hdrum]
    simp only [List.append_assoc, List.cons_append, List.nil_append]
    rfl
  refine ⟨_, hmembers, ?_, ?_⟩
  · exact Json.flat_int _ _ (Json.flat_text _ _ (Json.flat_text _ _ (Json.flat_optional _ _
      (Json.flat_int _ _ (Json.flat_int _ _ (Json.flat_int _ _ (Json.flat_int _ _
      (Json.flat_int _ _ (Json.flat_int _ _ (Json.flat_text _ _ (Json.flat_optional _ _
      (Json.flat_text _ _ (Json.flat_text _ _ (Json.flat_text _ _ Json.flat_nil))))))))))))))
  · intro more
    have hdistinct := wireFields_distinct
    simp only [List.append_assoc, List.cons_append, List.nil_append]
    rw [Json.decode_int hdistinct 0 rfl h.id, Json.decode_text hdistinct 1 rfl,
      Json.decode_text hdistinct 2 rfl, Json.decode_optional hdistinct 3 rfl rfl,
      decode_quantity hdistinct 4 rfl hblack fblack, decode_quantity hdistinct 5 rfl hcyan fcyan,
      decode_quantity hdistinct 6 rfl hmagenta fmagenta,
      decode_quantity hdistinct 7 rfl hyellow fyellow,
      decode_quantity hdistinct 8 rfl hcolorBlack fcolorBlack,
      decode_quantity hdistinct 9 rfl hdrum fdrum, Json.decode_text hdistinct 10 rfl,
      Json.decode_optional hdistinct 11 rfl rfl, Json.decode_text hdistinct 12 rfl,
      decode_stamp hdistinct 13 rfl h.createdAt, decode_stamp hdistinct 14 rfl h.updatedAt]
    have htexts := h.texts
    simp only [texts, List.forall_mem_cons, List.not_mem_nil, false_implies, implies_true,
      and_true] at htexts
    simp only [Text.mended_of_wellFormed, htexts]
    rfl

theorem toMembers_legible {c : Consumable} (h : c.Legible) :
    ∃ members, c.toMembers = .ok members ∧ Json.Flat members ∧
      ∀ more, decodeMembers wireFields false default (legibleMembers (members ++ more)) =
        decodeMembers wireFields false c.received (legibleMembers more) := by
  have hsent := toMembers_sendable h.sendable
  rw [h.retimed] at hsent
  exact hsent

end Consumable
end Stockroom

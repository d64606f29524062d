import Stockroom.Proofs.Json.Numerals
import Stockroom.Proofs.Record.Wire

/-!
Quantities between their four readers and their two writers. All readers stand on what an integer means,
and both writers on what a quantity is as an integer. So an integer of sixty-four bits means the same
wherever it comes from, a quantity that can be written is read back, and minus one is never a count.
Numbers of any other form, and values that are no numbers, are refused, and the quantity they were to
be read into stays as it was.

Main definitions and statements:
* `Quantity.outcome`: the quantity that was read, or the one that was there;
* `Quantity.readInto_eq`, `Quantity.scanInto_eq`: a quantity changes only when something was read;
* `Quantity.ofJson_number`: what is read of a number literal;
* `Quantity.codecs_agree`: readers and writers agree.
-/
namespace Stockroom
set_option autoImplicit false

namespace Quantity

/-! ## Reading in place -/

/-- The quantity that was read, or the one that was there. -/
def outcome (target : Quantity) : Except QuantityError Quantity → Except QuantityError Unit × Quantity
  | .ok q => (.ok (), q)
  | .error e => (.error e, target)

section
variable (target : Quantity)

theorem update_assign (v : Int) : update target (assign v) = outcome target (decode v) := by
  unfold assign
  cases decode v <;> rfl

theorem readInto_eq (source : List Char) :
    update target (readInto source) = outcome target (ofJson target source) := by
  unfold readInto ofJson
  split
  · rfl
  · cases integerOf source with
    | some v => exact update_assign target v
    | none => rfl

theorem scanInto_eq (column : Column) :
    update target (scanInto column) = outcome target (ofColumn column) := by
  cases column with
  | null => rfl
  | integer v => exact update_assign target v
  | other typeName => rfl

end

/-! ## Integers -/

theorem decode_of_le {v : Int} (h : -1 ≤ v) : ∃ q, decode v = .ok q ∧ q.encode = v := by
  unfold decode
  split
  · next hsentinel => exact ⟨.notApplicable, rfl, hsentinel.symm⟩
  · next hcount =>
    have hpos : 0 ≤ v := by
      unfold sentinel at hcount
      omega
    exact ⟨.counted v, if_pos hpos, rfl⟩

theorem decode_of_lt {v : Int} (h : v < -1) : decode v = .error (.outOfRange v) := by
  rw [decode, if_neg (by unfold sentinel; omega), if_neg (by omega)]

theorem decode_eq_notApplicable {v : Int} : decode v = .ok .notApplicable ↔ v = -1 := by
  unfold decode
  split
  · next hsentinel => exact iff_of_true rfl hsentinel
  · next hcount =>
    refine iff_of_false (fun h => ?_) hcount
    split at h <;> cases h

theorem fitsInt64_toInt (v : Int64) : fitsInt64 v.toInt = true := by
  have hlow := v.le_toInt
  have hhigh := v.toInt_lt
  rw [fitsInt64, minInt64, maxInt64, Bool.and_eq_true, decide_eq_true_eq, decide_eq_true_eq]
  omega

/-! ## JSON texts -/

/-- What is read of a number literal is what its integer means, if it is one. -/
theorem ofJson_number (target : Quantity) (w : Json.WrittenNumber) :
    ofJson target w.chars = match w.int64? with
      | some v => decode v
      | none => .error (.notAnInteger (Text.ofChars w.chars)) := by
  have hnull : w.chars ≠ ['n', 'u', 'l', 'l'] := by
    obtain ⟨c, cs, hcs, hc⟩ := Json.chars_eq_cons w
    intro heq
    obtain rfl := (List.cons.inj (hcs.symm.trans heq)).1
    exact absurd hc (by decide)
  have hinteger : integerOf w.chars = w.int64? := by
    rw [integerOf, Json.read_written]
    exact Json.readInt64_written w
  cases hread : w.int64? <;> simp only [ofJson, if_neg hnull, hinteger, hread]

/-- The literal an integer is written as. -/
def literalOf (v : Int) : Json.WrittenNumber := ⟨v < 0, v.natAbs, none, none, nofun⟩

theorem literalOf_chars (v : Int) : (literalOf v).chars = (Text.ofInt v).toChars := by
  have hdigits : (literalOf v).unsignedChars = Nat.toDigits 10 v.natAbs := List.append_nil _
  rw [toChars_ofInt, Json.WrittenNumber.chars, hdigits]
  simp [literalOf]

theorem literalOf_int64? {v : Int} (h : fitsInt64 v = true) : (literalOf v).int64? = some v := by
  have hvalue : (literalOf v).value = v := by
    unfold Json.WrittenNumber.value literalOf
    by_cases hneg : v < 0
    · rw [decide_eq_true hneg, if_pos rfl, Int.ofNat_natAbs_of_nonpos hneg.le, Int.neg_neg]
    · rw [decide_eq_false hneg, if_neg Bool.false_ne_true,
        Int.natAbs_of_nonneg (Int.not_lt.mp hneg)]
  rw [Json.WrittenNumber.int64?, hvalue, h]
  rfl

theorem ofJson_ofInt (target : Quantity) {v : Int} (h : fitsInt64 v = true) :
    ofJson target (Text.ofInt v).toChars = decode v := by
  rw [← literalOf_chars, ofJson_number, literalOf_int64? h]

/-- A value that is neither a number nor null is refused. -/
theorem ofJson_other (target : Quantity) {source : List Char} {value : Json}
    (h : Json.read source = some value) (hnumber : ∀ literal, value ≠ .number literal)
    (hnull : value ≠ .null) :
    ofJson target source = .error (.notAnInteger (Text.ofChars source)) := by
  have hword : source ≠ ['n', 'u', 'l', 'l'] := by
    rintro rfl
    exact hnull (Option.some.inj (h.symm.trans rfl))
  have hnone : integerOf source = none := by
    rw [integerOf, h]
    cases value with
    | number literal => exact absurd rfl (hnumber literal)
    | null => exact absurd rfl hnull
    | _ => rfl
  rw [ofJson, if_neg hword, hnone]

/-! ## Writing -/

theorem written_eq_error {q : Quantity} :
    (∃ e, q.written = .error e) ↔ ∃ n, q = .counted n ∧ n < 0 := by
  cases q with
  | notApplicable =>
    constructor
    · rintro ⟨e, h⟩
      cases h
    · rintro ⟨n, h, -⟩
      cases h
  | counted n =>
    by_cases hneg : n < 0
    · have hcheck : (counted n).check = .error (.outOfRange n) := if_pos hneg
      exact iff_of_true ⟨_, by rw [written, hcheck]; rfl⟩ ⟨n, rfl, hneg⟩
    · have hcheck : (counted n).check = .ok () := if_neg hneg
      constructor
      · rintro ⟨e, h⟩
        rw [written, hcheck] at h
        cases h
      · rintro ⟨m, hm, hm0⟩
        exact absurd (counted.inj hm ▸ hm0) hneg

theorem fitsInt64_written {q : Quantity} {v : Int} (hq : ∀ n ∈ q.count?, fitsInt64 n = true)
    (h : q.written = .ok v) : fitsInt64 v = true := by
  obtain ⟨_, -, h⟩ := bind_eq_ok.mp h
  obtain rfl := pure_eq_ok.mp h
  cases q with
  | notApplicable => decide
  | counted n => exact hq n rfl

theorem written_eq_sentinel {q : Quantity} : q.written = .ok (-1) ↔ q = .notApplicable := by
  constructor
  · intro h
    exact Except.ok.inj ((decode_written h).symm.trans rfl)
  · rintro rfl
    rfl

/-- Readers and writers of quantities agree. Reading in place is reading, and what cannot be read leaves
the quantity at hand alone. An integer of sixty-four bits is read alike from its text, from JSON and from
a column: as the quantity it is written as, from minus one on, and not at all below. A quantity can be
written unless it is a count below zero, and is then read back; only one that does not apply is written as
minus one, and minus one is read as nothing else. A number literal that is no such integer is refused,
and so is every other value but null. -/
theorem codecs_agree :
    (∀ (target : Quantity) (source : List Char) (column : Column),
      update target (readInto source) = outcome target (ofJson target source) ∧
      update target (scanInto column) = outcome target (ofColumn column)) ∧
    (∀ (v : Int64) (target : Quantity),
      parse (Text.ofInt v.toInt) = decode v.toInt ∧
      update target (readInto (Text.ofInt v.toInt).toChars) = outcome target (decode v.toInt) ∧
      update target (scanInto (.integer v.toInt)) = outcome target (decode v.toInt) ∧
      (-1 ≤ v.toInt → ∃ q, decode v.toInt = .ok q ∧ q.encode = v.toInt) ∧
      (v.toInt < -1 → decode v.toInt = .error (.outOfRange v.toInt)) ∧
      (decode v.toInt = .ok .notApplicable ↔ v.toInt = -1)) ∧
    (∀ q : Quantity, (∀ n ∈ q.count?, fitsInt64 n = true) →
      ((∃ e, q.written = .error e) ↔ ∃ n, q = .counted n ∧ n < 0) ∧
      (∀ (v : Int) (target : Quantity), q.written = .ok v →
        update target (readInto (Text.ofInt v).toChars) = (.ok (), q) ∧
        update target (scanInto (.integer v)) = (.ok (), q)) ∧
      (q.written = .ok (-1) ↔ q = .notApplicable)) ∧
    (∀ (w : Json.WrittenNumber) (target : Quantity), w.int64? = none →
      update target (readInto w.chars) =
        (.error (.notAnInteger (Text.ofChars w.chars)), target)) ∧
    ∀ (source : List Char) (value : Json) (target : Quantity), Json.read source = some value →
      (∀ literal, value ≠ .number literal) → value ≠ .null →
        update target (readInto source) =
          (.error (.notAnInteger (Text.ofChars source)), target) := by
  refine ⟨fun target source column => ⟨readInto_eq target source, scanInto_eq target column⟩,
    fun v target => ⟨?_, ?_, update_assign target _, decode_of_le, decode_of_lt,
      decode_eq_notApplicable⟩,
    fun q hq => ⟨written_eq_error, fun v target hv => ⟨?_, ?_⟩, written_eq_sentinel⟩,
    fun w target hw => ?_, fun source value target h hnumber hnull => ?_⟩
  · rw [parse, readInt64_ofInt (fitsInt64_toInt v)]
  · rw [readInto_eq, ofJson_ofInt target (fitsInt64_toInt v)]
  · rw [readInto_eq, ofJson_ofInt target (fitsInt64_written hq hv), decode_written hv, outcome]
  · rw [scanInto_eq, ofColumn, decode_written hv, outcome]
  · rw [readInto_eq, ofJson_number, hw, outcome]
  · rw [readInto_eq, ofJson_other target h hnumber hnull, outcome]

/-- One and a half. -/
def oneAndAHalf : Json.WrittenNumber :=
  ⟨false, 1, some [⟨5, by decide⟩], none, fun _ h => Option.some.inj h ▸ List.cons_ne_nil _ _⟩

theorem oneAndAHalf_refused :
    oneAndAHalf.chars = ['1', '.', '5'] ∧
    update (.counted 7) (readInto ['1', '.', '5']) =
      (.error (.notAnInteger "1.5"), .counted 7) ∧
    (∃ q, decode 7 = .ok q ∧ q.encode = 7) ∧ decode (-2) = .error (.outOfRange (-2)) ∧
    update .notApplicable (readInto ['7']) = (.ok (), .counted 7) ∧
    update (.counted 7) (readInto ['t', 'r', 'u', 'e']) =
      (.error (.notAnInteger "true"), .counted 7) := by
  obtain ⟨-, hinteger, hwritten, hnumber, hother⟩ := codecs_agree
  obtain ⟨-, -, -, hcount, -⟩ := hinteger 7 .notApplicable
  obtain ⟨-, -, -, -, hbelow, -⟩ := hinteger (-2) .notApplicable
  refine ⟨rfl, hnumber oneAndAHalf (.counted 7) rfl, hcount (by decide), hbelow (by decide), ?_, ?_⟩
  · exact ((hwritten (.counted 7) (by decide)).2.1 7 .notApplicable rfl).1
  · exact hother _ (.bool true) (.counted 7) rfl nofun nofun

end Quantity
end Stockroom

import Stockroom.Proofs.Api.Export
import Stockroom.Proofs.Calendar.Instant
import Stockroom.Proofs.Client.Submission
import Stockroom.Proofs.Record.Configuration
import Stockroom.Proofs.Store.Readback

/-!
Which records of a sheet the store takes. Printers and consumables that a sheet gives are all well
formed. A workstation is well formed unless the cell of its assignment day is undatable: a text in
the shape of an ISO date whose day does not exist, or a number whose day lies outside the years 0 to
9999. Every other cell gives an existing day or none.

Main definitions and statements:
* `Cell.Undatable`: the cells whose date no record may hold;
* `dateText_taken`, `dateText_refused`: what becomes of the other cells, and of these;
* `Item.Acceptable`, `Consumable.Acceptable`: records that no store calls invalid;
* `prepare_acceptable`: the records of a sheet.
-/
namespace Stockroom
set_option autoImplicit false

/-! ## Values of digits -/

theorem digitValue_lt {c : Char} {d : Nat} (h : digitValue c = some d) : d < 10 := by
  unfold digitValue at h
  split at h
  · next hbounds =>
    obtain rfl := Option.some.inj h
    have hhigh : c.toNat ≤ 57 := hbounds.2
    omega
  · cases h

theorem digitsValueFrom_lt {cs : List Char} {sofar n : Nat}
    (h : digitsValueFrom sofar cs = some n) : n < (sofar + 1) * 10 ^ cs.length := by
  induction cs generalizing sofar with
  | nil =>
    obtain rfl := Option.some.inj h
    simp
  | cons c rest ih =>
    rw [digitsValueFrom] at h
    split at h
    · next d hd =>
      have hdigit := digitValue_lt hd
      calc n < (sofar * 10 + d + 1) * 10 ^ rest.length := ih h
        _ ≤ (sofar + 1) * 10 * 10 ^ rest.length := Nat.mul_le_mul_right _ (by omega)
        _ = (sofar + 1) * 10 ^ (rest.length + 1) := by rw [Nat.pow_succ', Nat.mul_assoc]
    · cases h

theorem digitsValue_lt {cs : List Char} {n : Nat} (h : digitsValue cs = some n) :
    n < 10 ^ cs.length := by
  unfold digitsValue at h
  split at h
  · cases h
  · simpa using digitsValueFrom_lt h

section
variable {cs rest : List Char} {n : Nat}

theorem takeTwoDigits_lt (h : takeTwoDigits cs = some (n, rest)) : n < 100 := by
  match cs, h with
  | a :: b :: more, h =>
    obtain ⟨x, ha, h⟩ := Option.bind_eq_some_iff.mp h
    obtain ⟨y, hb, h⟩ := Option.bind_eq_some_iff.mp h
    obtain ⟨rfl, -⟩ := Prod.mk.inj (Option.some.inj h)
    have hx := digitValue_lt ha
    have hy := digitValue_lt hb
    omega

theorem takeFourDigits_lt (h : takeFourDigits cs = some (n, rest)) : n < 10000 := by
  obtain ⟨⟨high, middle⟩, hhigh, h⟩ := Option.bind_eq_some_iff.mp h
  obtain ⟨⟨low, last⟩, hlow, h⟩ := Option.bind_eq_some_iff.mp h
  obtain ⟨rfl, -⟩ := Prod.mk.inj (Option.some.inj h)
  have hupper := takeTwoDigits_lt hhigh
  have hlower := takeTwoDigits_lt hlow
  omega

end

/-! ## Years of four digits -/

/-- The day lies in one of the years 0 to 9999. -/
def CalendarDate.FourDigitYear (d : CalendarDate) : Prop := 0 ≤ d.year ∧ d.year < 10000

instance (d : CalendarDate) : Decidable d.FourDigitYear := inferInstanceAs (Decidable (_ ∧ _))

theorem takeLiteral_eq_some {c : Char} {r r' : Reading} {cs rest : List Char}
    (h : (LayoutPart.literal c).take r cs = some (r', rest)) : r' = r := by
  have hsame {out : Reading × List Char} (hout : out.1 = r) (heq : some out = some (r', rest)) :
      r' = r := by
    rw [Option.some.inj heq] at hout
    exact hout
  by_cases hc : c = ' '
  · subst hc
    cases cs with
    | nil => exact hsame rfl h
    | cons d more =>
      rw [LayoutPart.take] at h
      split at h
      · exact hsame rfl h
      · cases h
  · cases cs with
    | nil =>
      rw [LayoutPart.take] at h
      · cases h
      · exact hc
    | cons d more =>
      rw [LayoutPart.take] at h
      · split at h
        · exact hsame rfl h
        · cases h
      · exact hc

theorem LayoutPart.take_year_lt {part : LayoutPart} {r r' : Reading} {cs rest : List Char}
    (h : part.take r cs = some (r', rest)) (hr : r.year < 10000) : r'.year < 10000 := by
  cases part with
  | literal c =>
    rw [takeLiteral_eq_some h]
    exact hr
  | year =>
    obtain ⟨⟨n, more⟩, htake, heq⟩ := Option.map_eq_some_iff.mp h
    obtain ⟨rfl, -⟩ := Prod.mk.inj heq
    exact takeFourDigits_lt htake
  | monthAbbreviation | monthName | day | shortDay | zone =>
    obtain ⟨⟨n, more⟩, -, heq⟩ := Option.map_eq_some_iff.mp h
    obtain ⟨rfl, -⟩ := Prod.mk.inj heq
    exact hr
  | month | shortMonth | hour | minute | shortMinute | second | shortSecond =>
    obtain ⟨⟨n, more⟩, -, heq⟩ := Option.bind_eq_some_iff.mp h
    dsimp only at heq
    split at heq
    · obtain ⟨rfl, -⟩ := Prod.mk.inj (Option.some.inj heq)
      exact hr
    · cases heq

/-- No layout reads a year of more than four digits. -/
theorem readParts_year_lt {parts : List LayoutPart} {r out : Reading} {cs : List Char}
    (h : readParts r parts cs = some out) (hr : r.year < 10000) : out.year < 10000 := by
  induction parts generalizing r cs with
  | nil =>
    cases cs with
    | nil => exact Option.some.inj h ▸ hr
    | cons => cases h
  | cons part parts ih =>
    obtain ⟨r', rest, htake, hrest⟩ := readParts_eq_some h
    exact ih hrest (LayoutPart.take_year_lt htake hr)

theorem readLayout_day {parts : List LayoutPart} {cs : List Char} {r : Reading}
    (h : readLayout parts cs = some r) : r.date.Exists ∧ r.date.FourDigitYear := by
  obtain ⟨hparts, hexists⟩ := Option.filter_eq_some_iff.mp h
  have hyear : r.year < 10000 := readParts_year_lt hparts (by decide)
  have hdate : r.date.year = (r.year : Int) := rfl
  exact ⟨of_decide_eq_true hexists, by omega, by omega⟩

theorem readYear_lt {cs : List Char} {year : Nat} (h : readYear cs = some year) :
    year < 10000 := by
  unfold readYear at h
  split at h
  · next hlength =>
    obtain ⟨n, hn, rfl⟩ := Option.map_eq_some_iff.mp h
    have hbound := digitsValue_lt hn
    rw [hlength] at hbound
    omega
  · split at h
    · next hlength =>
      have hbound := digitsValue_lt h
      rw [hlength] at hbound
      omega
    · cases h

theorem readDayFirst_year {cs : List Char} {d : CalendarDate} (h : readDayFirst cs = some d) :
    d.FourDigitYear := by
  obtain ⟨⟨day, afterDay⟩, -, h⟩ := Option.bind_eq_some_iff.mp h
  obtain ⟨⟨month, afterMonth⟩, -, h⟩ := Option.bind_eq_some_iff.mp h
  obtain ⟨year, hyear, h⟩ := Option.bind_eq_some_iff.mp h
  obtain rfl := Option.some.inj h
  have hbound := readYear_lt hyear
  have hdate : (CalendarDate.mk (year : Int) month day).year = (year : Int) := rfl
  exact ⟨by omega, by omega⟩

/-! ## Texts of days -/

theorem length_padded (width n : Nat) :
    (Text.padded width n).length = max width (Nat.toDigits 10 n).length := by
  have hdigits : (Text.ofNat n).length = (Nat.toDigits 10 n).length := List.length_map ..
  simp only [Text.padded, List.length_append, List.length_replicate, hdigits]
  omega

/-- The text of an existing day is read as a date exactly if its year has four digits. -/
theorem CalendarDate.isIsoDate_iso_iff {d : CalendarDate} (hd : d.Exists) :
    isIsoDate d.iso = true ↔ d.FourDigitYear := by
  refine ⟨fun h => ?_, fun h => isIsoDate_iso hd h.1 h.2⟩
  obtain ⟨a, b, c, e, f, g, k, l, hchars, hdigits⟩ := isIsoDate_chars h
  -- a negative year puts its sign where a digit has to be
  have hsign : 0 ≤ d.year := by
    by_contra hneg
    have hfirst : d.iso.toChars.head? = some '-' := by
      rw [iso, yearText, if_pos (by omega)]
      rfl
    rw [hchars] at hfirst
    obtain rfl : a = '-' := Option.some.inj hfirst
    exact absurd (hdigits '-' List.mem_cons_self) (by decide)
  -- month and day take six of the ten characters, whatever the year
  have hlength : d.iso.length = 10 := by
    rw [← List.length_map (f := Glyph.toChar), ← Text.toChars, hchars]
    rfl
  have hyear : (Nat.toDigits 10 d.year.natAbs).length ≤ 4 := by
    rw [iso, yearText, if_neg (by omega)] at hlength
    simp only [List.length_append, List.length_singleton, length_padded] at hlength
    omega
  have hvalue := digitsValue_lt (digitsValue_toDigits d.year.natAbs)
  have hpower : 10 ^ (Nat.toDigits 10 d.year.natAbs).length ≤ 10 ^ 4 :=
    Nat.pow_le_pow_right (by omega) hyear
  exact ⟨hsign, by omega⟩

/-! ## Days of cells -/

/-- The cell gives a day that no record may hold: a text in the shape of an ISO date whose day does
not exist, or a positive number whose day is not in the years 0 to 9999. -/
def Cell.Undatable (c : Cell) : Prop :=
  match c.number with
  | none => hasIsoShape c.text.trim.toChars = true ∧ isIsoDate c.text.trim = false
  | some v => v.isPositive = true ∧
      ¬ (CalendarDate.ofDayNumber (dayOfSeconds (serialSeconds v))).FourDigitYear

instance (c : Cell) : Decidable c.Undatable :=
  match h : c.number with
  | none =>
    decidable_of_iff (hasIsoShape c.text.trim.toChars = true ∧ isIsoDate c.text.trim = false)
      (by rw [Cell.Undatable, h])
  | some v =>
    decidable_of_iff (v.isPositive = true ∧
      ¬ (CalendarDate.ofDayNumber (dayOfSeconds (serialSeconds v))).FourDigitYear)
      (by rw [Cell.Undatable, h])

/-- A text that an assignment day may be. -/
def IsDay (t : Text) : Prop := t = [] ∨ isIsoDate t = true

instance (t : Text) : Decidable (IsDay t) := inferInstanceAs (Decidable (_ ∨ _))

theorem CalendarDate.iso_isDay {d : CalendarDate} (hd : d.Exists) (hyear : d.FourDigitYear) :
    IsDay d.iso :=
  .inr ((isIsoDate_iso_iff hd).mpr hyear)

theorem readByLayout_isDay (cs : List Char) : IsDay (readByLayout cs) := by
  unfold readByLayout
  split
  · next r hr =>
    obtain ⟨layout, -, hlayout⟩ := List.exists_of_findSome?_eq_some hr
    obtain ⟨hexists, hyear⟩ := readLayout_day hlayout
    exact CalendarDate.iso_isDay hexists hyear
  · exact .inl rfl

theorem dateOfText_isDay {t : Text} (h : hasIsoShape t.toChars = true → isIsoDate t = true) :
    IsDay (dateOfText t) := by
  unfold dateOfText
  split
  · next hshape => exact .inr (h hshape)
  · split
    · next d hd =>
      split
      · split
        · next hexists => exact CalendarDate.iso_isDay hexists (readDayFirst_year hd)
        · exact .inl rfl
      · exact readByLayout_isDay _
    · exact readByLayout_isDay _

/-- A cell that is not undatable gives an existing day or none. -/
theorem dateText_taken {c : Cell} (h : ¬ c.Undatable) : IsDay (dateText c) := by
  unfold Cell.Undatable at h
  unfold dateText
  split
  · next v hnumber =>
    rw [hnumber] at h
    unfold dateOfSerial
    split
    · next hpositive =>
      have hyear := not_not.mp fun hfar => h ⟨hpositive, hfar⟩
      exact CalendarDate.iso_isDay (CalendarDate.ofDayNumber_exists _) hyear
    · exact .inl rfl
  · next hnumber =>
    rw [hnumber] at h
    refine dateOfText_isDay fun hshape => ?_
    by_contra hbad
    exact h ⟨hshape, Bool.not_eq_true _ ▸ hbad⟩

/-- An undatable cell gives a text that is no date. -/
theorem dateText_refused {c : Cell} (h : c.Undatable) : ¬ IsDay (dateText c) := by
  unfold Cell.Undatable at h
  unfold dateText
  split
  · next v hnumber =>
    rw [hnumber] at h
    obtain ⟨hpositive, hfar⟩ := h
    rw [dateOfSerial, if_pos hpositive]
    rintro (hnil | hiso)
    · simp [CalendarDate.iso] at hnil
    · exact hfar ((CalendarDate.isIsoDate_iso_iff (CalendarDate.ofDayNumber_exists _)).mp hiso)
  · next hnumber =>
    rw [hnumber] at h
    obtain ⟨hshape, hbad⟩ := h
    rw [dateOfText, if_pos hshape]
    rintro (hnil | hiso)
    · rw [hnil] at hshape
      cases hshape
    · rw [hiso] at hbad
      cases hbad

/-! ## Records that no store calls invalid -/

theorem StoreError.database_not_invalid (activity : Text) :
    ¬ (StoreError.database activity).IsInvalid := by
  rintro ⟨cause, hcause⟩
  cases hcause

/-- A fault of the database is not a fault of the record. -/
theorem FailsOnly.not_invalid {α : Type} {x : Except StoreError α} {activity : Text}
    (h : FailsOnly (· = .database activity) x) : FailsOnly (¬ ·.IsInvalid) x :=
  fun e he => h e he ▸ StoreError.database_not_invalid activity

/-- A well-formed item, which a store may fail to write but does not call invalid. -/
structure Item.Acceptable (r : Item) : Prop where
  valid : r.validate = .ok ()
  taken : ∀ (s : Store) (now : Instant), FailsOnly (¬ ·.IsInvalid) (s.createItem now r)

/-- An item that every store refuses for its assignment day. -/
structure Item.Misdated (r : Item) : Prop where
  faulty : r.validate = .error .badAssignedOn
  refused : ∀ (s : Store) (now : Instant),
    s.createItem now r = .error (.invalid (.item .badAssignedOn))

/-- A well-formed consumable, which a store may fail to write but does not call invalid. -/
structure Consumable.Acceptable (c : Consumable) : Prop where
  valid : c.validate = .ok ()
  taken : ∀ (s : Store) (now : Instant), FailsOnly (¬ ·.IsInvalid) (s.createConsumable now c)

theorem Item.acceptable_of_validate {r : Item} (h : r.validate = .ok ()) : r.Acceptable := by
  refine ⟨h, fun s now => .bind ?_ fun _ _ => ?_⟩
  · exact .of_eq_ok (a := ()) (by rw [Store.checkItem, h])
  · exact .bind (Store.writable_failsOnly _ _ _).not_invalid fun _ _ => .ok _

theorem Item.misdated_of_validate {r : Item} (h : r.validate = .error .badAssignedOn) :
    r.Misdated := by
  refine ⟨h, fun s now => ?_⟩
  rw [Store.createItem, Store.checkItem, h]
  rfl

theorem Consumable.acceptable_of_validate {c : Consumable} (h : c.validate = .ok ())
    (htag : c.tonerTag ≠ []) (hstate : c.state ≠ []) : c.Acceptable := by
  refine ⟨h, fun s now => .bind ?_ fun _ _ => ?_⟩
  · exact .of_eq_ok (a := c) (by rw [readyConsumable, Client.filledIn_eq htag hstate, h])
  refine .bind (Store.writable_failsOnly _ _ _).not_invalid fun _ _ => .bind ?_ fun row _ => ?_
  · unfold Store.consumableRow
    split
    · exact .ok _
    · exact .error (StoreError.database_not_invalid _)
  · exact .bind (Store.loadConsumable_failsOnly _ row).not_invalid fun _ _ => .ok _

/-! ## Workstations and printers -/

/-- Once an item has a kind, a branch and what its kind requires, its assignment day decides. -/
theorem Item.validate_eq {r : Item} {kind : ItemKind} (hkind : r.kind = kind.tag)
    (hbranch : r.branch ≠ []) (hown : r.validateKind kind = .ok ()) :
    r.validate = if IsDay r.assignedOn then .ok () else .error .badAssignedOn := by
  have htag : ItemKind.ofTag r.kind = some kind := by
    rw [hkind]
    cases kind <;> decide
  have hplaced : r.branch.isEmpty = false := List.isEmpty_eq_false_iff.mpr hbranch
  have hday : (!r.assignedOn.isEmpty && !isIsoDate r.assignedOn) = true ↔ ¬ IsDay r.assignedOn := by
    simp [IsDay]
  rw [validate, htag]
  dsimp only
  rw [hplaced, if_neg Bool.false_ne_true, hown]
  by_cases h : IsDay r.assignedOn
  · rw [if_pos h, if_neg fun hbad => hday.mp hbad h]
  · rw [if_neg h, if_pos (hday.mpr h)]

/-- The cell of the assignment day is undatable. -/
def Mapping.Misdates (m : Mapping) (row : Row) : Prop :=
  ∃ c ∈ m.cell? row FieldName.assignedOn, c.Undatable

instance (m : Mapping) (row : Row) : Decidable (m.Misdates row) :=
  inferInstanceAs (Decidable (∃ c ∈ m.cell? row FieldName.assignedOn, _))

/-! ## Records of rows -/

section
variable {row : Row} {m : Mapping} {branch : Text} (hbranch : branch ≠ [])

theorem pcRecord_isDay (placeholder : Text) :
    IsDay (pcRecord placeholder row m branch).assignedOn ↔ ¬ m.Misdates row := by
  rw [pcRecord_assignedOn, Mapping.Misdates]
  cases m.cell? row FieldName.assignedOn with
  | none =>
    refine ⟨fun _ hbad => ?_, fun _ => .inl rfl⟩
    obtain ⟨c, hc, -⟩ := hbad
    cases hc
  | some c =>
    have hmisdates : (∃ c' ∈ some c, c'.Undatable) ↔ c.Undatable := by simp
    rw [hmisdates]
    exact ⟨fun hday hbad => dateText_refused hbad hday, dateText_taken⟩

include hbranch

/-- A workstation has a name and a branch, so that its assignment day decides. -/
theorem pcRecord_validate (n : Nat) :
    (pcRecord (placeholderName n) row m branch).validate =
      if m.Misdates row then .error .badAssignedOn else .ok () := by
  have hname : (pcRecord (placeholderName n) row m branch).assetName ≠ [] :=
    default_ne_nil (placeholderName_ne_nil n)
  have hown : (pcRecord (placeholderName n) row m branch).validateKind .pc = .ok () :=
    if_neg (List.isEmpty_iff.not.mpr hname)
  rw [Item.validate_eq rfl hbranch hown]
  by_cases h : m.Misdates row
  · rw [if_pos h, if_neg fun hday => (pcRecord_isDay _).mp hday h]
  · rw [if_neg h, if_pos ((pcRecord_isDay _).mpr h)]

/-- A printer has an address and no assignment day. -/
theorem printerRecord_validate {r : Item} (h : printerRecord row m branch = .ok r) :
    r.validate = .ok () := by
  unfold printerRecord at h
  dsimp only at h
  split at h
  · cases h
  next hsome =>
  split at h
  · cases h
  next haddress =>
  obtain rfl := Except.ok.inj h
  have hown (other : Item) (hother : other.ipAddress = m.text row FieldName.ipAddress) :
      other.validateKind .printer = .ok () := by
    rw [Item.validateKind, hother, if_neg hsome, if_pos (by simpa using haddress)]
  rw [Item.validate_eq rfl hbranch (hown _ rfl)]
  exact if_pos (.inl rfl)

/-- A consumable has a brand, a reference, a state and the counts of its toner type. -/
theorem consumableRecord_acceptable {c : Consumable}
    (h : consumableRecord row m branch = .ok c) : c.Acceptable := by
  simp only [consumableRecord, throw_bind] at h
  split at h
  · cases h
  next hbrand =>
  split at h
  · cases h
  next hreference =>
  simp only [bind_eq_ok, pure_eq_ok] at h
  obtain ⟨state, hstate, black, hblack, cyan, hcyan, magenta, hmagenta, yellow, hyellow,
    colorBlack, hcolorBlack, drum, hdrum, type, -, rfl⟩ := h
  have hword := readState_isState hstate
  have hstated : state ≠ [] := by
    obtain rfl | rfl := hword <;> decide
  have htag : type.tag ≠ [] := by cases type <;> decide
  refine Consumable.acceptable_of_validate
    ((Consumable.validate_configured fun name n hn => ?_).mpr ⟨List.isEmpty_iff.not.mp hbrand,
      List.isEmpty_iff.not.mp hreference, hbranch, hword⟩) htag hstated
  cases name with
  | black => exact (readCount_modest hblack).nonneg hn
  | cyan => exact (readCount_modest hcyan).nonneg hn
  | magenta => exact (readCount_modest hmagenta).nonneg hn
  | yellow => exact (readCount_modest hyellow).nonneg hn
  | colorBlack => exact (readCount_modest hcolorBlack).nonneg hn
  | drum => exact (readCount_modest hdrum).nonneg hn

end

/-! ## Sheets -/

/-- The records of a sheet of workstations are acceptable, but for those whose cell of the assignment
day is undatable: these the store refuses for that day. All records of a sheet of printers or of
consumables are acceptable. -/
theorem prepare_acceptable (grid : List Row) (schema : Schema) (branch : Text) (draw : Nat → Nat)
    (hbranch : branch ≠ []) :
    let m := Mapping.infer (topRow grid) schema
    (∀ p ∈ (prepare grid schema branch (.pc fun line => placeholderName (draw line))).1,
      ∃ source ∈ bodyRows grid m, ∃ r, p.line = source.line ∧ p.record = .ok r ∧
        (¬ m.Misdates source.cells → r.Acceptable) ∧ (m.Misdates source.cells → r.Misdated)) ∧
    (∀ p ∈ (prepare grid schema branch .printer).1, ∀ r, p.record = .ok r → r.Acceptable) ∧
    (∀ p ∈ (prepare grid schema branch .consumable).1, ∀ c, p.record = .ok c → c.Acceptable) := by
  refine ⟨fun p hp => ?_, fun p hp r hr => ?_, fun p hp c hc => ?_⟩
  · obtain ⟨source, hsource, rfl⟩ := List.mem_map.mp hp
    refine ⟨source, hsource, _, rfl, rfl, fun hdated => ?_, fun hbad => ?_⟩
    · exact Item.acceptable_of_validate ((pcRecord_validate hbranch _).trans (if_neg hdated))
    · exact Item.misdated_of_validate ((pcRecord_validate hbranch _).trans (if_pos hbad))
  · obtain ⟨source, -, rfl⟩ := List.mem_map.mp hp
    exact Item.acceptable_of_validate (printerRecord_validate hbranch hr)
  · obtain ⟨source, -, rfl⟩ := List.mem_map.mp hp
    exact consumableRecord_acceptable hbranch hc

/-- Every row of data is prepared. -/
theorem prepared_mem {ρ : Type} {grid : List Row} {schema : Schema} {branch : Text}
    {n : Normalizer ρ} {source : DataRow}
    (h : source ∈ bodyRows grid (Mapping.infer (topRow grid) schema)) :
    ⟨source.line, n.record source.line source.cells (Mapping.infer (topRow grid) schema) branch⟩ ∈
      (prepare grid schema branch n).1 :=
  List.mem_map_of_mem h

/-- A sheet of two workstations under the header of an export: one assigned on a leap day, one on a
day that does not exist. -/
def twoDays : List Row :=
  [Api.exportHeader .pc, ["PC-1", [], [], [], [], [], "29/02/24"],
    ["PC-2", [], [], [], [], [], "2024-13-45"]].map shownRow

theorem twoDays_infer : Mapping.infer (topRow twoDays) .pc = ItemKind.pc.exportMapping :=
  ItemKind.infer_exportHeader .pc

/-- The workstation of the leap day is taken. -/
theorem twoDays_acceptable :
    ∃ p ∈ (prepare twoDays .pc "A" (.pc placeholderName)).1,
      ∃ r, p.line = 2 ∧ p.record = .ok r ∧ r.Acceptable := by
  have hdated : ∀ source ∈ bodyRows twoDays (Mapping.infer (topRow twoDays) .pc),
      source.line = 2 → ¬ (Mapping.infer (topRow twoDays) .pc).Misdates source.cells := by
    rw [twoDays_infer]
    decide
  obtain ⟨second, hsecond, hline⟩ :
      ∃ source ∈ bodyRows twoDays (Mapping.infer (topRow twoDays) .pc), source.line = 2 := by
    rw [twoDays_infer]
    decide
  obtain ⟨source, hsource, r, hsame, hrecord, htaken, -⟩ :=
    (prepare_acceptable twoDays .pc "A" id (by decide)).1 _ (prepared_mem hsecond)
  exact ⟨_, prepared_mem hsecond, r, hline, hrecord,
    htaken (hdated source hsource (hsame.symm.trans hline))⟩

/-- The workstation of the other day is read without an error, and refused. -/
theorem twoDays_misdated :
    ∃ p ∈ (prepare twoDays .pc "A" (.pc placeholderName)).1,
      ∃ r, p.line = 3 ∧ p.record = .ok r ∧ r.Misdated := by
  obtain ⟨source, hsource, hline, hbad⟩ :
      ∃ source ∈ bodyRows twoDays (Mapping.infer (topRow twoDays) .pc),
        source.line = 3 ∧ (Mapping.infer (topRow twoDays) .pc).Misdates source.cells := by
    rw [twoDays_infer]
    decide
  have hbranch : Text.ofString "A" ≠ [] := by decide
  refine ⟨_, prepared_mem hsource, _, hline, rfl, ?_⟩
  exact Item.misdated_of_validate ((pcRecord_validate hbranch _).trans (if_pos hbad))

end Stockroom

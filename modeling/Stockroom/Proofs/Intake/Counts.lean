import Stockroom.Proofs.Intake.Consumables
import Stockroom.Proofs.Number.Literal
import Stockroom.Sheet.Csv

/-!
Counts that a file of comma-separated values spells out. A cell with a decimal numeral is taken as the
count that no double is nearer to the numeral than, if there is one. So whole counts are taken as they
are, whatever their spelling; but a text that is no whole number is taken as one if it is so close to it
that no double lies between, which takes more than six places behind the point.

Main definitions and statements:
* `Csv.read_cells`: what the cells of a file know;
* `WrittenDecimal.TakenAs`: the count that a numeral is taken as;
* `Cell.counts_written`: the counts of cells with a numeral;
* `consumableRecord_numeral`: what becomes of a row with a numeral for a count.
-/
namespace Stockroom
set_option autoImplicit false

/-! ## Cells of a file -/

/-- Every cell of a file knows its text and nothing else. -/
theorem Csv.read_cells {bytes : List UInt8} {rows : List Row} {row : Row} {c : Cell}
    (h : Csv.read bytes = .ok rows) (hrow : row ∈ rows) (hc : c ∈ row) : c = Cell.ofText c.text := by
  have hcells (texts : List (List Text)) :
      ∀ row ∈ rowsOfTexts texts, ∀ c ∈ row, ∃ t, c = Cell.ofText t := by
    have hplain (texts : List Text) : ∀ c ∈ texts.map Cell.ofText, ∃ t, c = Cell.ofText t := by
      intro c hc
      obtain ⟨t, -, rfl⟩ := List.mem_map.mp hc
      exact ⟨t, rfl⟩
    have hrows (texts : List (List Text)) :
        ∀ row ∈ texts.map fun r => r.map Cell.ofText, ∀ c ∈ row, ∃ t, c = Cell.ofText t := by
      intro row hrow
      obtain ⟨r, -, rfl⟩ := List.mem_map.mp hrow
      exact hplain r
    unfold rowsOfTexts
    split
    · exact fun _ hrow => absurd hrow List.not_mem_nil
    · exact List.forall_mem_cons.mpr ⟨hplain [], hrows _⟩
    · exact List.forall_mem_cons.mpr
        ⟨List.forall_mem_cons.mpr ⟨⟨_, rfl⟩, hplain _⟩, hrows _⟩
  obtain ⟨records, -, rfl⟩ := map_eq_ok.mp h
  obtain ⟨t, rfl⟩ := hcells _ row hrow c hc
  rfl

theorem Cell.value_ofText (t : Text) : (Cell.ofText t).value = t.trim := by
  unfold value ofText
  dsimp only
  split <;> rfl

/-! ## Numerals as counts -/

/-- A numeral is taken as a count: a count that a sheet may hold, and no double is nearer to what is read
of the numeral. -/
structure WrittenDecimal.TakenAs (d : WrittenDecimal) (n : Int) : Prop where
  nonneg : 0 ≤ n
  le : n ≤ maxCount
  nearest : IsNearest d.read n

theorem Cell.counts_written {t : Text} {d : WrittenDecimal} (h : t.trim = Text.ofChars d.written)
    (n : Int) : (Cell.ofText t).Counts n ↔ d.TakenAs n := by
  have hnumber : (Cell.ofText t).number = readDouble d.written := by
    rw [ofText, h, Text.toChars_ofChars]
  have hwritten (hnonneg : 0 ≤ n) (hle : n ≤ maxCount) :
      (∃ x, readDouble d.written = some x ∧ x.value = n) ↔ IsNearest d.read n := by
    obtain ⟨k, rfl⟩ := Int.eq_ofNat_of_zero_le hnonneg
    have hk : k < 2 ^ 52 := by
      rw [maxCount] at hle
      omega
    exact_mod_cast d.readDouble_written hk
  rw [Counts, hnumber]
  constructor
  · rintro ⟨x, hx, hvalue, hnonneg, hle⟩
    exact ⟨hnonneg, hle, (hwritten hnonneg hle).mp ⟨x, hx, hvalue⟩⟩
  · rintro ⟨hnonneg, hle, hnearest⟩
    obtain ⟨x, hx, hvalue⟩ := (hwritten hnonneg hle).mpr hnearest
    exact ⟨x, hx, hvalue, hnonneg, hle⟩

namespace WrittenDecimal

variable {d : WrittenDecimal} {n : Int}

/-- If its exponent is read well enough, a numeral is taken as the count that no double is nearer to
than. -/
theorem Modest.takenAs_iff (h : d.Modest) :
    d.TakenAs n ↔ 0 ≤ n ∧ n ≤ maxCount ∧ IsNearest d.value n := by
  have hnearest (hnonneg : 0 ≤ n) (hle : n ≤ maxCount) :
      IsNearest d.read n ↔ IsNearest d.value n := by
    obtain ⟨k, rfl⟩ := Int.eq_ofNat_of_zero_le hnonneg
    have hk : k < 2 ^ 52 := by
      rw [maxCount] at hle
      omega
    exact_mod_cast h.nearest_iff hk
  constructor
  · rintro ⟨hnonneg, hle, htaken⟩
    exact ⟨hnonneg, hle, (hnearest hnonneg hle).mp htaken⟩
  · rintro ⟨hnonneg, hle, hexact⟩
    exact ⟨hnonneg, hle, (hnearest hnonneg hle).mpr hexact⟩

/-- A whole count is taken as it is. -/
theorem Modest.takenAs_of_eq (h : d.Modest) (hnonneg : 0 ≤ n) (hle : n ≤ maxCount)
    (hvalue : d.value = n) : d.TakenAs n :=
  h.takenAs_iff.mpr ⟨hnonneg, hle, hvalue ▸ .refl _⟩

/-- What a numeral is taken as is close to it, and it is the number itself if that has no more than six
places behind the point. -/
theorem TakenAs.close (htaken : d.TakenAs n) (h : d.Modest) :
    |d.value - n| ≤ 1 / 2 ^ 23 ∧ ∀ z : Int, d.value * 10 ^ 6 = z → d.value = n := by
  obtain ⟨hnonneg, hle, hnearest⟩ := h.takenAs_iff.mp htaken
  obtain ⟨k, rfl⟩ := Int.eq_ofNat_of_zero_le hnonneg
  have hk : k < 2 ^ 31 := by
    rw [maxCount] at hle
    omega
  rw [Int.cast_natCast] at hnearest ⊢
  refine ⟨hnearest.abs_sub_le hk, fun z hz => ?_⟩
  have hscaled : d.value * (10 ^ 6 : Nat) = z := by exact_mod_cast hz
  exact hnearest.eq_of_fraction hk (by norm_num) (by norm_num) hscaled

end WrittenDecimal

/-! ## Rows with numerals -/

/-- All counts of a record, by their fields. -/
def Consumable.fieldCounts (c : Consumable) : List (Text × Quantity) :=
  c.toner ++ [(FieldName.drum, c.drum)]

section
variable {row : Row} {m : Mapping} {field : Text} {c : Cell} {branch : Text} {r : Consumable}

theorem readCount_of_cell (hcell : m.cell? row field = some c) (n : Int) :
    readCount row m field = .ok (.counted n) ↔ c.Counts n := by
  rw [readCount, hcell, ← countOfCell_eq_some_iff]
  dsimp only
  cases countOfCell c with
  | none => exact iff_of_false nofun nofun
  | some k => rw [Except.ok.injEq, Quantity.counted.injEq, Option.some.injEq]

theorem GivesCount.of_cell {q : Quantity} (h : GivesCount row m field q)
    (hcell : m.cell? row field = some c) : ∃ n, c.Counts n ∧ q = .counted n := by
  cases h with
  | counted hsame hcounts =>
    obtain rfl := Option.some.inj (hcell.symm.trans hsame)
    exact ⟨_, hcounts, rfl⟩
  | absent habsent => cases hcell.symm.trans habsent

theorem Cell.Counts.unique {n k : Int} (hn : c.Counts n) (hk : c.Counts k) : n = k :=
  Option.some.inj ((countOfCell_eq_some_iff.mpr hn).symm.trans (countOfCell_eq_some_iff.mpr hk))

/-- The count of a cell is what the record has under the field, if its toner type has that. -/
theorem Describes.fieldCounts {type : TonerType} (h : Describes row m branch type r) {n : Int}
    (hcell : m.cell? row field = some c) (hcounts : c.Counts n) {q : Quantity}
    (hq : (field, q) ∈ r.fieldCounts) :
    q = if field ∈ type.inks ∨ field = FieldName.drum then .counted n else .notApplicable := by
  have hgiven (hgives : GivesCount row m field q) : q = .counted n := by
    obtain ⟨k, hk, rfl⟩ := hgives.of_cell hcell
    rw [hk.unique hcounts]
  rcases List.mem_append.mp hq with htoner | hdrum
  · have hnotDrum : field ≠ FieldName.drum := by
      rintro rfl
      have hfields : r.toner.map Prod.fst = FieldName.black :: coloredInks := rfl
      have hmem : FieldName.drum ∈ FieldName.black :: coloredInks :=
        hfields ▸ List.mem_map_of_mem htoner
      exact absurd hmem (by decide)
    by_cases htracked : field ∈ type.inks
    · rw [if_pos (.inl htracked)]
      exact hgiven (h.tracked field q htoner htracked)
    · rw [if_neg (not_or.mpr ⟨htracked, hnotDrum⟩)]
      exact h.untracked field q htoner htracked
  · obtain ⟨rfl, rfl⟩ := Prod.mk.inj (List.mem_singleton.mp hdrum)
    rw [if_pos (.inr rfl)]
    exact hgiven (h.drumCounted (by rw [hcell]; exact nofun))

end

/-- What becomes of a row of a file in which a numeral stands for a count. The numeral is taken as a count
if no double is nearer to it than one, and that count is stored if the toner type of the record has it.
Otherwise the row fails, because of this field unless one before it offends. If the exponent is read well
enough, whole counts are taken as they are, and nothing else is taken but numbers that have more than six
places behind the point and are within 2^-23 of a count. -/
theorem consumableRecord_numeral {bytes : List UInt8} {rows : List Row} {row : Row} {m : Mapping}
    {field : Text} {c : Cell} {d : WrittenDecimal} (hread : Csv.read bytes = .ok rows)
    (hrow : row ∈ rows) (hfield : field ∈ countFields) (hcell : m.cell? row field = some c)
    (htext : c.text.trim = Text.ofChars d.written) (branch : Text) :
    (∀ n, readCount row m field = .ok (.counted n) ↔ d.TakenAs n) ∧
    (∀ r, consumableRecord row m branch = .ok r →
      ∃ (n : Int) (type : TonerType), d.TakenAs n ∧ r.tonerTag = type.tag ∧
        ∀ q, (field, q) ∈ r.fieldCounts →
          q = if field ∈ type.inks ∨ field = FieldName.drum then .counted n else .notApplicable) ∧
    ((∀ n, ¬ d.TakenAs n) →
      readCount row m field = .error ⟨field, .notACount (Text.ofChars d.written)⟩ ∧
      (∀ r, consumableRecord row m branch ≠ .ok r) ∧
      ∀ earlier later, judgedFields = earlier ++ field :: later →
        (∀ other ∈ earlier, Clean row m other) →
        consumableRecord row m branch =
          .error ⟨field, .notACount (Text.ofChars d.written)⟩) ∧
    (d.Modest → ∀ n,
      (d.TakenAs n ↔ 0 ≤ n ∧ n ≤ maxCount ∧ IsNearest d.value n) ∧
      (0 ≤ n → n ≤ maxCount → d.value = n → d.TakenAs n) ∧
      (d.TakenAs n → |d.value - n| ≤ 1 / 2 ^ 23 ∧ ∀ z : Int, d.value * 10 ^ 6 = z → d.value = n)) := by
  have hcellText := Csv.read_cells hread hrow (Mapping.cell?_mem hcell)
  have hcounts : ∀ n, c.Counts n ↔ d.TakenAs n := by
    rw [hcellText]
    exact Cell.counts_written htext
  have hvalue : c.value = Text.ofChars d.written := by
    rw [hcellText, Cell.value_ofText, htext]
  have hjudged := consumableRecord_judges row m branch
  refine ⟨fun n => (readCount_of_cell hcell n).trans (hcounts n), fun r hr => ?_, fun hnone => ?_,
    fun hmodest n => ⟨hmodest.takenAs_iff, hmodest.takenAs_of_eq, fun h => h.close hmodest⟩⟩
  · obtain ⟨type, hdescribes⟩ := hjudged.fitting hr
    have hclean : Clean row m field := by
      refine hjudged.ok_iff.mp ⟨r, hr⟩ field ?_
      exact List.mem_append_right _ (List.mem_cons_of_mem _ (List.mem_append_left _ hfield))
    obtain ⟨n, hn⟩ := (clean_count hfield).mp hclean c hcell
    exact ⟨n, type, (hcounts n).mp hn, hdescribes.tag, fun q hq => hdescribes.fieldCounts hcell hn hq⟩
  · have hoffends : Offends row m field (.notACount (Text.ofChars d.written)) :=
      hvalue ▸ .count hfield hcell fun n hn => hnone n ((hcounts n).mp hn)
    refine ⟨?_, fun r hr => ?_, fun earlier later hfields hclean => ?_⟩
    · exact (readCount_judges hfield).error_iff.mpr (.here hoffends)
    · refine hjudged.ok_iff.mp ⟨r, hr⟩ field ?_ _ hoffends
      exact List.mem_append_right _ (List.mem_cons_of_mem _ (List.mem_append_left _ hfield))
    · exact hjudged.error_iff.mpr (hfields ▸ .after hclean (.here hoffends))

/-- A file of one toner under a header, with a numeral for its black count. -/
def fileOfCount (d : WrittenDecimal) : List UInt8 :=
  (Text.ofString "Marque;Référence;Noir\nHP;85A;" ++ Text.ofChars d.written ++
    Text.ofString "\n").bytes

def rowsOfCount (d : WrittenDecimal) : List Row := (Csv.read (fileOfCount d)).toOption.getD []

def mappingOfCount (d : WrittenDecimal) : Mapping := Mapping.infer (topRow (rowsOfCount d)) .consumable

theorem mappingOfCount_eq {d : WrittenDecimal} (h : topRow (rowsOfCount d) =
      [Cell.ofText "Marque", Cell.ofText "Référence", Cell.ofText "Noir"]) :
    mappingOfCount d =
      ⟨[(FieldName.brand, 0), (FieldName.reference, 1), (FieldName.black, 2)], true⟩ := by
  rw [mappingOfCount, h]
  simp only [Schema.consumable, Schema.spellings, List.map_cons, List.map_nil, List.cons_append,
    List.nil_append, Text.ofString, String.reduceToList]
  decide +kernel

/-- The number seventy-five, with a point and an exponent. -/
def seventyFive : WrittenDecimal where
  sign := .plus
  whole := [7]
  fraction := some [5]
  power := some { capital := true, sign := .none, digits := [0, 1], nonempty := by decide }
  nonempty := by decide

theorem seventyFive_taken : ∃ row ∈ rowsOfCount seventyFive,
    readCount row (mappingOfCount seventyFive) FieldName.black = .ok (.counted 75) := by
  have hread : Csv.read (fileOfCount seventyFive) = .ok (rowsOfCount seventyFive) :=
    toOption_eq_some.mp (by decide +kernel)
  obtain ⟨row, hrow, hcell⟩ : ∃ row ∈ rowsOfCount seventyFive,
      (mappingOfCount seventyFive).cell? row FieldName.black =
        some (Cell.ofText (Text.ofChars seventyFive.written)) := by
    rw [mappingOfCount_eq (by decide +kernel)]
    decide +kernel
  have hvalue : seventyFive.value = (75 : Int) := by
    have hdigits : digitsNumber seventyFive.digits = 75 := by decide
    have hexponent : seventyFive.exponent = 1 := by decide
    have hscale : seventyFive.scale = 1 := by decide
    have hsign : seventyFive.sign.negative = false := by decide
    rw [WrittenDecimal.value, WrittenDecimal.valueAt_eq, hdigits, hexponent, hscale, hsign]
    norm_num [signed]
  obtain ⟨hcount, -, -, hmodest⟩ := consumableRecord_numeral (d := seventyFive) hread hrow
    (by decide) hcell (by decide +kernel) "A"
  have htaken := (hmodest (.inr (by decide)) 75).2.1 (by decide) (by decide) hvalue
  exact ⟨row, hrow, (hcount 75).mpr htaken⟩

/-- A number that is no integer, but nearer to five than any other double. -/
def nearlyFive : WrittenDecimal where
  sign := .none
  whole := [5]
  fraction := some (List.replicate 19 0 ++ [1])
  power := none
  nonempty := by decide

/-- A row whose black count is no whole number is a toner with five. -/
theorem nearlyFive_counted : (∀ n : Int, nearlyFive.value ≠ n) ∧
    ∃ row ∈ rowsOfCount nearlyFive,
      Csv.read (fileOfCount nearlyFive) = .ok (rowsOfCount nearlyFive) ∧
      (mappingOfCount nearlyFive).cell? row FieldName.black =
        some (Cell.ofText (Text.ofChars nearlyFive.written)) ∧
      ∃ r, consumableRecord row (mappingOfCount nearlyFive) "A" = .ok r ∧ r.black = .counted 5 := by
  refine ⟨fun n hn => ?_, ?_⟩
  · have hvalue : nearlyFive.value = 5 + 1 / 10 ^ 20 := by
      have hdigits : digitsNumber nearlyFive.digits = 5 * 10 ^ 20 + 1 := by decide
      have hexponent : nearlyFive.exponent = 0 := by decide
      have hscale : nearlyFive.scale = 20 := by decide
      have hsign : nearlyFive.sign.negative = false := by decide
      rw [WrittenDecimal.value, WrittenDecimal.valueAt_eq, hdigits, hexponent, hscale, hsign]
      norm_num [signed]
    rw [hvalue] at hn
    have hscaled : (5 * 10 ^ 20 + 1 : Int) = n * 10 ^ 20 := by
      have hscaled : (5 * 10 ^ 20 + 1 : ℚ) = n * 10 ^ 20 := by
        rw [← hn]
        norm_num
      exact_mod_cast hscaled
    omega
  · obtain ⟨row, hrow, hcell, hrecord⟩ : ∃ row ∈ rowsOfCount nearlyFive,
        (mappingOfCount nearlyFive).cell? row FieldName.black =
          some (Cell.ofText (Text.ofChars nearlyFive.written)) ∧
        (consumableRecord row (mappingOfCount nearlyFive) "A").toOption.map (·.black) =
          some (.counted 5) := by
      rw [mappingOfCount_eq (by decide +kernel)]
      decide +kernel
    obtain ⟨r, hr, hblack⟩ := Option.map_eq_some_iff.mp hrecord
    exact ⟨row, hrow, toOption_eq_some.mp (by decide +kernel), hcell, r, toOption_eq_some.mp hr,
      hblack⟩

end Stockroom

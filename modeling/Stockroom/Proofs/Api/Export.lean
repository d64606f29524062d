import Stockroom.Api.Items
import Stockroom.Proofs.Intake.Email
import Stockroom.Proofs.Sheet.Workbook
import Stockroom.Sheet.File

/-!
Items exported and imported again. The exported columns are the fields of their kind in order, so
that each row is read as the item it was written from, but for the id and the times.

An address is the exception. The white space between stray bytes is dropped before they are joined
up, and what they then spell may be white space again; such an address loses it the next time.

Main definitions and statements:
* `ItemKind.schema`, `ItemKind.normalizer`: how the sheets of a kind are read;
* `Item.bare`, `Produced`: an item as a row gives it;
* `prepare_exported`: the rows of an exported sheet;
* `export_identity`: the items come back.
-/
namespace Stockroom
set_option autoImplicit false

/-! ## Cells of a row -/

section
variable {m : Mapping} {texts : List Text} {field t : Text} {i : Nat}

theorem cell?_shownRow (hcolumn : m.column? field = some i) (hget : texts[i]? = some t) :
    m.cell? (shownRow texts) field = if t.isBlank then none else some (Cell.ofText t) := by
  have hcell : m.cell? (shownRow texts) field = ((shownRow texts)[i]?).filter (!·.isBlank) := by
    rw [Mapping.cell?, hcolumn]
    rfl
  rw [hcell, shownRow, List.getElem?_map]
  cases hblank : t.isBlank with
  | false =>
    have hne : t.isEmpty = false := List.isEmpty_eq_false_iff.mpr (Text.ne_nil_of_isBlank hblank)
    rw [getElem?_dropLastWhile hget hne, Option.map_some]
    exact Option.filter_some_pos (by rw [Cell.isBlank_ofText, hblank]; rfl)
  | true =>
    cases hrow : (dropLastWhile List.isEmpty texts)[i]? with
    | none => rfl
    | some s =>
      obtain ⟨rest, hrest⟩ := dropLastWhile_start (p := List.isEmpty) texts
      have hsame : texts[i]? = some s := by
        rw [← hrest]
        exact List.getElem?_append_left (List.getElem?_eq_some_iff.mp hrow).1 ▸ hrow
      obtain rfl : t = s := Option.some.inj (hget.symm.trans hsame)
      rw [Option.map_some]
      exact Option.filter_some_neg (by rw [Cell.isBlank_ofText, hblank]; decide)

/-- A text without space around it is read as it was written. -/
theorem text_shownRow (hcolumn : m.column? field = some i) (hget : texts[i]? = some t)
    (htrim : t.trim = t) : m.text (shownRow texts) field = t := by
  have hvalue : (Cell.ofText t).value = t := by
    unfold Cell.value
    dsimp only
    split
    · exact htrim
    · exact htrim
  rw [Mapping.text, cell?_shownRow hcolumn hget]
  cases hblank : t.isBlank with
  | false => exact hvalue
  | true => exact (Text.trim_eq_nil hblank).symm.trans htrim

end

/-! ## Kinds of sheets -/

namespace ItemKind

/-- How the headers of a sheet of items are read. -/
def schema : ItemKind → Schema
  | .pc => .pc
  | .printer => .printer

/-- How the rows of a sheet of items become records; numbers are drawn for those without a name. -/
def normalizer (draw : Nat → Nat) : ItemKind → Normalizer Item
  | .pc => .pc fun line => placeholderName (draw line)
  | .printer => .printer

/-- The columns of an exported sheet are the fields in order. -/
def exportMapping (kind : ItemKind) : Mapping := ⟨kind.schema.fieldOrder.zipIdx, true⟩

theorem infer_exportHeader (kind : ItemKind) :
    Mapping.infer (shownRow (Api.exportHeader kind)) kind.schema = kind.exportMapping := by
  -- the spellings are taken apart once, as they are looked at again for every column
  cases kind <;>
    simp only [schema, Schema.pc, Schema.printer, Schema.spellings, Api.exportHeader,
      Api.sheetColumns, List.map_cons, List.map_nil, List.cons_append, List.nil_append,
      Text.ofString, String.reduceToList] <;>
    decide +kernel

end ItemKind

theorem exportHeader_kept (kind : ItemKind) : ∀ t ∈ Api.exportHeader kind, t.IsKept := by
  cases kind <;> decide +kernel

theorem exportHeader_filled (kind : ItemKind) : ∃ t ∈ Api.exportHeader kind, t.isBlank = false := by
  cases kind <;> decide

theorem exportHeader_unmarked (kind : ItemKind) :
    ∀ t ∈ (Api.exportHeader kind).head?, Csv.dropMark t = t := by
  cases kind <;> decide

/-! ## Rows of an exported sheet -/

theorem shownRow_filled {texts : List Text} (h : ∃ t ∈ texts, t.isBlank = false) :
    (shownRow texts).isBlank = false := by
  obtain ⟨t, ht, hblank⟩ := h
  have hne : t.isEmpty = false := List.isEmpty_eq_false_iff.mpr (Text.ne_nil_of_isBlank hblank)
  obtain ⟨i, hget⟩ := List.getElem?_of_mem ht
  have hmem := List.mem_of_getElem? (getElem?_dropLastWhile hget hne)
  refine List.all_eq_false.mpr ⟨Cell.ofText t, List.mem_map_of_mem hmem, ?_⟩
  rw [Cell.isBlank_ofText, hblank]
  decide

/-- A sheet of filled rows under a header: each row after the header is data. -/
theorem prepare_filled {ρ : Type} {header : Row} {rows : List Row} {schema : Schema} {m : Mapping}
    (hheader : header.isBlank = false) (hrows : ∀ row ∈ rows, row.isBlank = false)
    (hinfer : Mapping.infer header schema = m) (hm : m.hasHeader = true) (branch : Text)
    (n : Normalizer ρ) :
    (prepare (header :: rows) schema branch n).1 =
      (rows.zipIdx 2).map fun e => ⟨e.2, n.record e.2 e.1 m branch⟩ := by
  have htop : topRow (header :: rows) = header := by
    rw [topRow, List.find?_cons_of_pos (by rw [hheader]; rfl)]
    rfl
  have hdata : filledRows (header :: rows) =
      ((header :: rows).zipIdx 1).map fun e => ⟨e.2, e.1⟩ := by
    rw [filledRows, ← List.filterMap_eq_map]
    refine List.filterMap_congr ?_
    rintro ⟨row, line⟩ hrow
    have hfilled : row.isBlank = false := by
      obtain rfl | hrow := List.mem_cons.mp (List.fst_mem_of_mem_zipIdx hrow)
      · exact hheader
      · exact hrows row hrow
    dsimp only
    rw [hfilled]
    rfl
  have hbody : bodyRows (header :: rows) m = (rows.zipIdx 2).map fun e => ⟨e.2, e.1⟩ := by
    rw [bodyRows, if_pos hm, hdata]
    rfl
  rw [prepare, htop, hinfer, hbody, List.map_map]
  rfl

/-- What a sheet of items holds after it was exported and read again. -/
theorem prepare_exported (kind : ItemKind) (items : List Item) {file : Text}
    (hfile : FileKind.ofName file = some .workbook) (hroom : items.length < maxSheetRows)
    (hkept : ∀ it ∈ items, ∀ t ∈ Api.exportRow kind it, t.IsKept)
    (hfilled : ∀ it ∈ items, ∃ t ∈ Api.exportRow kind it, t.isBlank = false) :
    ∃ book grid, Api.exportWorkbook kind items = some book ∧
      readSheet file (.workbook book) = .ok grid ∧
      ∀ branch (n : Normalizer Item), (prepare grid kind.schema branch n).1 =
        (items.zipIdx 2).map fun e =>
          ⟨e.2, n.record e.2 (shownRow (Api.exportRow kind e.1)) kind.exportMapping branch⟩ := by
  have hname : isSheetName kind.tag = true := by
    cases kind <;> decide
  have hnonempty {texts : List Text} : (∃ t ∈ texts, t.isBlank = false) → ∃ t ∈ texts, t ≠ [] :=
    fun ⟨t, ht, hblank⟩ => ⟨t, ht, Text.ne_nil_of_isBlank hblank⟩
  obtain ⟨book, hbook, hrows⟩ := Workbook.ofTexts_rows (Api.exportHeader kind)
    (items.map (Api.exportRow kind)) hname (by rwa [List.length_map])
    (List.forall_mem_cons.mpr ⟨exportHeader_kept kind, List.forall_mem_map.mpr hkept⟩)
    (List.forall_mem_cons.mpr ⟨hnonempty (exportHeader_filled kind),
      List.forall_mem_map.mpr fun it hit => hnonempty (hfilled it hit)⟩)
    (exportHeader_unmarked kind)
  rw [List.map_cons, List.map_map] at hrows
  have hheader := shownRow_filled (exportHeader_filled kind)
  refine ⟨book, book.rows, hbook, ?_, fun branch n => ?_⟩
  · have hsome : book.rows.all Row.isBlank = false := by
      rw [hrows, List.all_cons, hheader, Bool.false_and]
    have hread : rowsOfFile file (.workbook book) = .ok book.rows := by
      unfold rowsOfFile
      rw [hfile]
    rw [readSheet, hread]
    exact if_neg (by rw [hsome]; decide)
  · have hdata : ∀ row ∈ items.map (shownRow ∘ Api.exportRow kind), row.isBlank = false :=
      List.forall_mem_map.mpr fun it hit => shownRow_filled (hfilled it hit)
    rw [hrows, prepare_filled hheader hdata kind.infer_exportHeader rfl, List.zipIdx_map,
      List.map_map]
    rfl

/-! ## Items -/

/-- An item without its id and its times. -/
def Item.bare (it : Item) : Item := { it with id := 0, createdAt := .unset, updatedAt := .unset }

/-- The fields of an item are those of a record that some row becomes. -/
def Produced (kind : ItemKind) (branch : Text) (it : Item) : Prop :=
  ∃ draw line row m, (∀ c ∈ row, c.text.Spelled) ∧
    (kind.normalizer draw).record line row m branch = .ok it.bare

theorem trim_default {t other : Text} (ht : t.trim = t) (hother : other.trim = other) :
    Text.trim (if t.isEmpty then other else t) = if t.isEmpty then other else t := by
  split
  · exact hother
  · exact ht

theorem default_ne_nil {t other : Text} (hother : other ≠ []) :
    (if t.isEmpty then other else t) ≠ [] := by
  split
  · exact hother
  · next h => exact fun hnil => h (List.isEmpty_iff.mpr hnil)

theorem placeholderName_trim (n : Nat) : (placeholderName n).trim = placeholderName n := by
  refine Text.trim_eq_self fun g hg => ?_
  obtain hg | hg := List.mem_append.mp hg
  · have hfixed : ∀ g ∈ Text.ofString "PC-", g.isBlank = false := by decide
    exact hfixed g hg
  · obtain ⟨c, hc, rfl⟩ := List.mem_map.mp hg
    exact isBlankChar_digit (Nat.isDigit_of_mem_toDigits (by omega) (by omega) hc)

theorem placeholderName_ne_nil (n : Nat) : placeholderName n ≠ [] := by
  intro hnil
  cases (List.append_eq_nil_iff.mp hnil).1

/-! ## Records read again -/

section
variable {placeholder : Text} {row : Row} {m : Mapping} {branch : Text}

theorem pcRecord_email : (pcRecord placeholder row m branch).email =
    cleanEmail (m.text row FieldName.email) := by
  rw [pcRecord]

open FieldName in
/-- A workstation is read as itself: its name and its status are there, so that no default
applies. -/
theorem pcRecord_exported (other : Text) (htrim : placeholder.trim = placeholder)
    (hne : placeholder ≠ []) {r : Item} (hr : pcRecord placeholder row m branch = r)
    (hemail : cleanEmail r.email = r.email) (haddress : r.email.trim = r.email)
    (hdate : r.assignedOn = [] ∨ isIsoDate r.assignedOn = true) :
    pcRecord other (shownRow (Api.exportRow .pc r)) ItemKind.pc.exportMapping branch = r := by
  have hread (field t : Text) (i : Nat)
      (hcolumn : ItemKind.pc.exportMapping.column? field = some i)
      (hget : (Api.exportRow .pc r)[i]? = some t) (ht : t.trim = t) :
      ItemKind.pc.exportMapping.text (shownRow (Api.exportRow .pc r)) field = t :=
    text_shownRow hcolumn hget ht
  have hname := hread assetName r.assetName 0 (by decide) rfl
    (hr ▸ trim_default (m.text_trim row assetName) htrim)
  have hnamed : r.assetName ≠ [] := hr ▸ default_ne_nil hne
  have hserial := hread serialNumber r.serialNumber 1 (by decide) rfl (hr ▸ m.text_trim row _)
  have huser := hread assignedUser r.assignedUser 2 (by decide) rfl (hr ▸ m.text_trim row _)
  have hmail := hread email r.email 3 (by decide) rfl haddress
  have hservice := hread service r.service 4 (by decide) rfl (hr ▸ m.text_trim row _)
  have hdescription := hread description r.description 5 (by decide) rfl (hr ▸ m.text_trim row _)
  have hassigned : (pcRecord other (shownRow (Api.exportRow .pc r)) ItemKind.pc.exportMapping
      branch).assignedOn = r.assignedOn := by
    rw [pcRecord, cell?_shownRow (i := 6) (t := r.assignedOn) (by decide) rfl]
    obtain hnone | hiso := hdate
    · rw [hnone]
      rfl
    · rw [isIsoDate_filled hiso]
      exact dateText_settled hiso
  have hstatus := hread status r.status 7 (by decide) rfl
    (hr ▸ trim_default (m.text_trim row status) (by decide))
  have hranked : r.status ≠ [] := hr ▸ default_ne_nil (by decide)
  have hremark := hread remark r.remark 8 (by decide) rfl (hr ▸ m.text_trim row _)
  rw [pcRecord] at hassigned ⊢
  dsimp only at hassigned
  rw [hname, hserial, huser, hmail, hservice, hdescription, hassigned, hstatus, hremark, hemail,
    if_neg (List.isEmpty_iff.not.mpr hnamed), if_neg (List.isEmpty_iff.not.mpr hranked)]
  subst hr
  rw [pcRecord]

open FieldName in
theorem printerRecord_exported {r : Item} (h : printerRecord row m branch = .ok r) :
    printerRecord (shownRow (Api.exportRow .printer r)) ItemKind.printer.exportMapping branch =
      .ok r := by
  unfold printerRecord at h
  dsimp only at h
  split at h
  · cases h
  next hsome =>
  split at h
  · cases h
  next hip =>
  have hr := Except.ok.inj h
  have hread (field t : Text) (i : Nat)
      (hcolumn : ItemKind.printer.exportMapping.column? field = some i)
      (hget : (Api.exportRow .printer r)[i]? = some t) (ht : t.trim = t) :
      ItemKind.printer.exportMapping.text (shownRow (Api.exportRow .printer r)) field = t :=
    text_shownRow hcolumn hget ht
  have hlocation := hread location r.location 0 (by decide) rfl (hr ▸ m.text_trim row _)
  have haddress := hread ipAddress r.ipAddress 1 (by decide) rfl (hr ▸ m.text_trim row _)
  have hhostname := hread hostname r.hostname 2 (by decide) rfl (hr ▸ m.text_trim row _)
  have hserial := hread serialNumber r.serialNumber 3 (by decide) rfl (hr ▸ m.text_trim row _)
  have hmodel := hread model r.model 4 (by decide) rfl (hr ▸ m.text_trim row _)
  rw [printerRecord, hlocation, haddress, hhostname, hserial, hmodel]
  subst hr
  exact (if_neg hsome).trans (if_neg hip)

end

/-! ## Items read again -/

theorem validate_assignedOn {it : Item} (h : it.validate = .ok ()) :
    it.assignedOn = [] ∨ isIsoDate it.assignedOn = true := by
  unfold Item.validate at h
  split at h
  · cases h
  split at h
  · cases h
  split at h
  · cases h
  next hdate =>
  rw [Bool.and_eq_true, Bool.not_eq_true', Bool.not_eq_true', not_and_or, Bool.not_eq_false,
    Bool.not_eq_false, List.isEmpty_iff] at hdate
  exact hdate

namespace Produced
variable {kind : ItemKind} {branch : Text} {it : Item} (h : Produced kind branch it)
include h

/-- A workstation has a name and a printer an address. -/
theorem filled : ∃ t ∈ Api.exportRow kind it, t.isBlank = false := by
  obtain ⟨draw, line, row, m, -, hrecord⟩ := h
  cases kind with
  | pc =>
    have hr := Except.ok.inj hrecord
    have hname : it.assetName = (pcRecord (placeholderName (draw line)) row m branch).assetName :=
      (congrArg Item.assetName hr.symm :)
    have hcell : (Api.exportRow .pc it)[0]? = some it.assetName := rfl
    refine ⟨it.assetName, List.mem_of_getElem? hcell, Text.isBlank_eq_false ?_ ?_⟩
    · rw [hname]
      exact trim_default (m.text_trim row _) (placeholderName_trim _)
    · rw [hname]
      exact default_ne_nil (placeholderName_ne_nil _)
  | printer =>
    have hrecord : printerRecord row m branch = .ok it.bare := hrecord
    unfold printerRecord at hrecord
    dsimp only at hrecord
    split at hrecord
    · cases hrecord
    next hsome =>
    split at hrecord
    · cases hrecord
    have haddress : it.ipAddress = m.text row FieldName.ipAddress :=
      (congrArg Item.ipAddress (Except.ok.inj hrecord).symm :)
    have hcell : (Api.exportRow .printer it)[1]? = some it.ipAddress := rfl
    refine ⟨it.ipAddress, List.mem_of_getElem? hcell, Text.isBlank_eq_false ?_ ?_⟩
    · rw [haddress]
      exact m.text_trim row _
    · rw [haddress]
      exact fun hnil => hsome (List.isEmpty_iff.mpr hnil)

/-- An item that was imported is read as itself when it was exported. -/
theorem exported (hvalid : it.validate = .ok ()) (hkept : ∀ t ∈ Api.exportRow kind it, t.IsKept)
    (hspace : ∀ g ∈ it.email, g.isBlank = false) (draw : Nat → Nat) (line : Nat) :
    (kind.normalizer draw).record line (shownRow (Api.exportRow kind it)) kind.exportMapping
      branch = .ok it.bare := by
  obtain ⟨source, number, row, m, hrow, hrecord⟩ := h
  cases kind with
  | printer => exact printerRecord_exported hrecord
  | pc =>
    have hr := Except.ok.inj hrecord
    have hemail : it.email = cleanEmail (m.text row FieldName.email) :=
      (congrArg Item.email hr.symm).trans pcRecord_email
    have hsettled : cleanEmail it.email = it.email := by
      rw [hemail] at hspace ⊢
      exact cleanEmail_settled (fun b hb => m.text_stray hrow _ hb) hspace
    exact congrArg Except.ok (pcRecord_exported (placeholderName (draw line))
      (placeholderName_trim _) (placeholderName_ne_nil _) hr hsettled (Text.trim_eq_self hspace)
      (validate_assignedOn hvalid))

end Produced

/-! ## Whole sheets -/

/-- Items of one branch that were imported, exported and read again: each row is its item, in their
order and without an error. -/
theorem export_identity (kind : ItemKind) (draw : Nat → Nat) (branch file : Text)
    (items : List Item) (hfile : FileKind.ofName file = some .workbook)
    (hroom : items.length < maxSheetRows)
    (hproduced : ∀ it ∈ items, Produced kind branch it)
    (hvalid : ∀ it ∈ items, it.validate = .ok ())
    (hkept : ∀ it ∈ items, ∀ t ∈ Api.exportRow kind it, t.IsKept)
    (hspace : ∀ it ∈ items, ∀ g ∈ it.email, g.isBlank = false) :
    ∃ book grid, Api.exportWorkbook kind items = some book ∧
      readSheet file (.workbook book) = .ok grid ∧
      (prepare grid kind.schema branch (kind.normalizer draw)).1 =
        (items.zipIdx 2).map fun e => ⟨e.2, .ok e.1.bare⟩ := by
  obtain ⟨book, grid, hbook, hread, hrows⟩ := prepare_exported kind items hfile hroom hkept
    fun it hit => (hproduced it hit).filled
  refine ⟨book, grid, hbook, hread, ?_⟩
  rw [hrows]
  refine List.map_congr_left fun e he => ?_
  have hit : e.1 ∈ items := List.fst_mem_of_mem_zipIdx he
  rw [(hproduced e.1 hit).exported (hvalid e.1 hit) (hkept e.1 hit) (hspace e.1 hit)]

/-! ## Workstations of two branches -/

/-- A workstation of branch B whose serial number reads as a number. -/
def pcOfB : Item :=
  { id := 7, kind := ItemKind.pc.tag, branch := "B", assetName := "PC-1", serialNumber := "12E4"
    email := "a@b.fr", assignedOn := "2024-02-29", status := "Actif" }

theorem pcOfB_produced : Produced .pc "B" pcOfB :=
  ⟨id, 2, [.ofText "PC-1 ", .ofText "12E4", .ofText "a.@b,fr", .ofText "29/02/24"],
    ⟨[(FieldName.assetName, 0), (FieldName.serialNumber, 1), (FieldName.email, 2),
      (FieldName.assignedOn, 3)], true⟩,
    by simp only [List.forall_mem_cons]
       exact ⟨Text.spelled_of_wellFormed (by decide), Text.spelled_of_wellFormed (by decide),
         Text.spelled_of_wellFormed (by decide), Text.spelled_of_wellFormed (by decide),
         fun _ h => absurd h List.not_mem_nil⟩,
    by decide +kernel⟩

theorem pcOfB_identity :
    ∃ book grid, Api.exportWorkbook .pc [pcOfB] = some book ∧
      readSheet "export.xlsx" (.workbook book) = .ok grid ∧
      (prepare grid .pc "B" (.pc placeholderName)).1 = [⟨2, .ok pcOfB.bare⟩] :=
  export_identity .pc id "B" "export.xlsx" [pcOfB] (by decide +kernel) (by decide)
    (List.forall_mem_singleton.mpr pcOfB_produced) (by decide +kernel) (by decide +kernel)
    (by decide)

/-- A workstation of branch A whose address holds white space, put together from two stray bytes. -/
def pcOfA : Item :=
  { id := 1, kind := ItemKind.pc.tag, branch := "A", assetName := "PC-1"
    email := "a\u00a0b@c.d", status := "Actif" }

theorem pcOfA_produced : Produced .pc "A" pcOfA :=
  ⟨id, 2, [.ofText "PC-1", .ofText (Text.ofBytes [97, 0xC2, 32, 0xA0, 98, 64, 99, 46, 100])],
    ⟨[(FieldName.assetName, 0), (FieldName.email, 1)], true⟩,
    by simp only [List.forall_mem_cons]
       exact ⟨Text.spelled_of_wellFormed (by decide), ⟨_, rfl⟩,
         fun _ h => absurd h List.not_mem_nil⟩,
    by decide +kernel⟩

/-- The address of the workstation comes back without the white space in it. -/
theorem pcOfA_changed :
    Produced .pc "A" pcOfA ∧ pcOfA.validate = .ok () ∧
      (∀ t ∈ Api.exportRow .pc pcOfA, t.IsKept) ∧
      ∃ book grid, Api.exportWorkbook .pc [pcOfA] = some book ∧
        readSheet "export.xlsx" (.workbook book) = .ok grid ∧
        (prepare grid .pc "A" (.pc placeholderName)).1 =
          [⟨2, .ok { pcOfA.bare with email := "ab@c.d" }⟩] ∧
        pcOfA.email ≠ "ab@c.d" := by
  have hkept : ∀ t ∈ Api.exportRow .pc pcOfA, t.IsKept := by decide +kernel
  have hfile : FileKind.ofName "export.xlsx" = some .workbook := by decide +kernel
  obtain ⟨book, grid, hbook, hread, hrows⟩ := prepare_exported .pc [pcOfA] hfile (by decide)
    (List.forall_mem_singleton.mpr hkept) (List.forall_mem_singleton.mpr pcOfA_produced.filled)
  have hrecord : pcRecord (placeholderName 2) (shownRow (Api.exportRow .pc pcOfA))
      ItemKind.pc.exportMapping "A" = { pcOfA.bare with email := "ab@c.d" } := by
    decide +kernel
  refine ⟨pcOfA_produced, by decide +kernel, hkept, book, grid, hbook, hread, ?_, by decide⟩
  have hprepared := hrows "A" (.pc placeholderName)
  exact hprepared.trans (congrArg (fun r => [(⟨2, .ok r⟩ : PreparedRow Item)]) hrecord)

end Stockroom

import Stockroom.Proofs.Intake.Columns
import Stockroom.Proofs.Outcome
import Stockroom.Sheet.Synonyms

/-!
Tables of header spellings, and what a site adds to them. The table that headers are looked up in is
built entry by entry, but what is found in it is said without it: the field of the first entry that
spells the header. So spellings that are added never take a header away from an earlier one, and it does
not matter whether they are added at once or one lot after the other. A file of further spellings can
only name fields of the kind of sheet that they are for.

Main definitions and statements:
* `Synonym.spells`, `firstSpelled`: the entry that decides about a header;
* `Schema.lookup_extend`: added entries count where none of the schema does;
* `SynonymFile.check_eq_ok`: what a file that is accepted holds;
* `lookup_synonyms`: tables of a schema, of its extensions and of a site.
-/
namespace Stockroom
set_option autoImplicit false

/-! ## Tables -/

/-- The entry is a spelling of the header: both fold to the same, and that is not nothing. -/
def Synonym.spells (e : Synonym) (header : Text) : Bool :=
  !e.header.folded.isEmpty && e.header.folded == header.folded

/-- The field of the first entry that spells the header. -/
def firstSpelled (synonyms : List Synonym) (header : Text) : Option Text :=
  (synonyms.find? (·.spells header)).map Synonym.field

theorem firstSpelled_append (base extra : List Synonym) (header : Text) :
    firstSpelled (base ++ extra) header =
      (firstSpelled base header).or (firstSpelled extra header) := by
  rw [firstSpelled, List.find?_append, Option.map_or]
  rfl

theorem mem_of_firstSpelled {synonyms : List Synonym} {header field : Text}
    (h : firstSpelled synonyms header = some field) : ∃ e ∈ synonyms, e.field = field := by
  obtain ⟨e, he, rfl⟩ := Option.map_eq_some_iff.mp h
  exact ⟨e, List.mem_of_find?_eq_some he, rfl⟩

namespace Schema

theorem lookup_firstSpelled (schema : Schema) (header : Text) :
    schema.lookup header = firstSpelled schema.synonyms header := by
  rw [lookup_eq, firstSpelled]
  cases hempty : header.folded.isEmpty with
  | true =>
    -- an entry that is spelled like nothing does not count
    have hnone : ∀ e ∈ schema.synonyms, ¬ e.spells header = true := by
      intro e _ hspells
      obtain ⟨hfilled, hsame⟩ := Bool.and_eq_true_iff.mp hspells
      rw [eq_of_beq hsame, hempty] at hfilled
      cases hfilled
    rw [List.find?_eq_none.mpr hnone]
    rfl
  | false =>
    have hspells (e : Synonym) : (e.header.folded == header.folded) = e.spells header := by
      cases hsame : e.header.folded == header.folded with
      | false => rw [Synonym.spells, hsame, Bool.and_false]
      | true => rw [Synonym.spells, hsame, eq_of_beq hsame, hempty]; rfl
    simp only [hspells]
    rfl

/-- Added entries are looked at where no entry of the schema spells the header. -/
theorem lookup_extend (schema : Schema) (extra : List Synonym) (header : Text) :
    (schema.extend extra).lookup header =
      (schema.lookup header).or (firstSpelled extra header) := by
  rw [lookup_firstSpelled, lookup_firstSpelled]
  exact firstSpelled_append schema.synonyms extra header

theorem extend_extend (schema : Schema) (first second : List Synonym) :
    (schema.extend first).extend second = schema.extend (first ++ second) := by
  simp only [extend, List.append_assoc]

end Schema

/-! ## Files -/

namespace SynonymFile

/-- The entries are spellings of something, and of fields that the schema has. -/
def Fits (schema : Schema) (entries : List Synonym) : Prop :=
  ∀ e ∈ entries, e.header.folded ≠ [] ∧ e.field ∈ schema.fieldOrder

theorem checkEntries_eq_ok {schema : Schema} {entries : List Synonym} :
    checkEntries schema entries = .ok () ↔ Fits schema entries := by
  induction entries with
  | nil => exact iff_of_true rfl fun e he => absurd he List.not_mem_nil
  | cons e rest ih =>
    rw [checkEntries, Fits, List.forall_mem_cons]
    split
    · next hempty =>
      exact iff_of_false nofun fun h => h.1.1 (List.isEmpty_iff.mp hempty)
    · next hfilled =>
      split
      · next hfield =>
        rw [ih]
        exact (and_iff_right ⟨fun hnil => hfilled (List.isEmpty_iff.mpr hnil),
          List.contains_iff_mem.mp hfield⟩).symm
      · next hfield =>
        exact iff_of_false nofun fun h => hfield (List.contains_iff_mem.mpr h.1.2)

/-- A file that is accepted has lists for kinds of sheets only, and each fits its kind. -/
theorem check_eq_ok {file : SynonymFile} : check file = .ok () ↔
    ∀ entry ∈ file, ∃ schema, Schema.ofName entry.1 = some schema ∧ Fits schema entry.2 := by
  induction file with
  | nil => exact iff_of_true rfl fun entry h => absurd h List.not_mem_nil
  | cons entry rest ih =>
    obtain ⟨kind, entries⟩ := entry
    rw [check, List.forall_mem_cons, ← ih]
    cases hschema : Schema.ofName kind with
    | none => exact iff_of_false nofun fun ⟨⟨schema, h, _⟩, _⟩ => nomatch h
    | some schema =>
      have hentries : (∃ s, some schema = some s ∧ Fits s entries) ↔ Fits schema entries := by
        simp
      dsimp only
      rw [bind_eq_ok, hentries, ← checkEntries_eq_ok]
      exact ⟨fun ⟨(), h, hrest⟩ => ⟨h, hrest⟩, fun ⟨h, hrest⟩ => ⟨(), h, hrest⟩⟩

theorem check_of_parse {t : Text} {file : SynonymFile} (h : parse t = .ok file) :
    check file = .ok () := by
  unfold parse at h
  split at h
  · cases h
  · cases h
    rfl
  · split at h
    · cases h
    · obtain ⟨_, hcheck, hfile⟩ := bind_eq_ok.mp h
      rwa [← pure_eq_ok.mp hfile]

/-- What an accepted file has for a schema fits that schema. -/
theorem fits_of_check {file : SynonymFile} {schema : Schema} (h : check file = .ok ())
    (hname : Schema.ofName schema.name = some schema) :
    Fits schema ((file.lookup schema.name).getD []) := by
  cases hlookup : file.lookup schema.name with
  | none => exact fun e he => absurd he List.not_mem_nil
  | some entries =>
    obtain ⟨found, hfound, hfits⟩ := check_eq_ok.mp h _ (mem_of_lookup_eq_some hlookup)
    obtain rfl : schema = found := Option.some.inj (hname.symm.trans hfound)
    exact hfits

end SynonymFile

/-- The schemas of the three kinds of sheets. -/
def Schema.builtIn : List Schema := [pc, printer, consumable]

theorem Schema.builtIn_named : ∀ schema ∈ builtIn, ofName schema.name = some schema := by
  simp only [builtIn, List.forall_mem_cons]
  exact ⟨rfl, rfl, rfl, List.forall_mem_nil _⟩

/-- The spellings that are built in are spellings of fields of their schema. -/
theorem Schema.builtIn_fields :
    ∀ schema ∈ builtIn, ∀ e ∈ schema.synonyms, e.field ∈ schema.fieldOrder := by
  decide +kernel

/-- A header names the field of the first entry that spells it, whatever the order of the fields. Entries
that are added come after those of the schema, and adding them in two lots is adding them at once. With
a file of further spellings, every header of a built-in schema keeps its field, and a header that the
schema does not know names the field of the first entry of the file that spells it, which is a field of
the schema. -/
theorem lookup_synonyms :
    (∀ (name : Text) (order : List Text) (base first second : List Synonym) (header : Text),
      (Schema.mk name order base).lookup header = firstSpelled base header ∧
      ((Schema.mk name order base).extend first).lookup header =
        ((Schema.mk name order base).lookup header).or
          ((Schema.mk name order first).lookup header) ∧
      (((Schema.mk name order base).extend first).extend second).lookup header =
        ((Schema.mk name order base).extend (first ++ second)).lookup header) ∧
    ∀ (t : Text) (file : SynonymFile), SynonymFile.parse t = .ok file →
      ∀ schema ∈ Schema.builtIn, ∀ header field : Text,
        ((file.apply schema).lookup header = some field → field ∈ schema.fieldOrder) ∧
        (schema.lookup header = some field → (file.apply schema).lookup header = some field) ∧
        (schema.lookup header = none → (file.apply schema).lookup header =
          firstSpelled ((file.lookup schema.name).getD []) header) := by
  refine ⟨fun name order base first second header => ⟨?_, ?_, ?_⟩,
    fun t file hparse schema hschema header field =>
      ⟨fun hfield => ?_, fun hfield => ?_, fun hunknown => ?_⟩⟩
  · exact Schema.lookup_firstSpelled _ header
  · rw [Schema.lookup_extend, Schema.lookup_firstSpelled (Schema.mk name order first)]
  · rw [Schema.extend_extend]
  · rw [SynonymFile.apply, Schema.lookup_extend, Schema.lookup_firstSpelled,
      ← firstSpelled_append] at hfield
    obtain ⟨e, he, rfl⟩ := mem_of_firstSpelled hfield
    obtain he | he := List.mem_append.mp he
    · exact Schema.builtIn_fields schema hschema e he
    · exact (SynonymFile.fits_of_check (SynonymFile.check_of_parse hparse)
        (Schema.builtIn_named schema hschema) e he).2
  · rw [SynonymFile.apply, Schema.lookup_extend, hfield]
    rfl
  · rw [SynonymFile.apply, Schema.lookup_extend, hunknown, Option.none_or]

/-- A site that would have serial numbers stand in the remarks, and its own labels too. -/
def siteSpellings : Text :=
  "pc:\n  - header: SN\n    field: remark\n  - header: Étiquette\n    field: remark\n"

def siteFile : SynonymFile := [("pc", [⟨"SN", FieldName.remark⟩, ⟨"Étiquette", FieldName.remark⟩])]

/-- The serial numbers stay what they are, and the labels are found. -/
theorem siteSpellings_kept :
    SynonymFile.parse siteSpellings = .ok siteFile ∧ Schema.pc ∈ Schema.builtIn ∧
    Schema.pc.lookup "sn" = some FieldName.serialNumber ∧
    (siteFile.apply Schema.pc).lookup "sn" = some FieldName.serialNumber ∧
    Schema.pc.lookup "etiquette" = none ∧
    (siteFile.apply Schema.pc).lookup "etiquette" = some FieldName.remark ∧
    FieldName.remark ∈ Schema.pc.fieldOrder := by
  have hparse : SynonymFile.parse siteSpellings = .ok siteFile :=
    toOption_eq_some.mp (by decide +kernel)
  have hpc : Schema.pc ∈ Schema.builtIn := List.mem_cons_self
  have hknown : Schema.pc.lookup "sn" = some FieldName.serialNumber := by
    rw [Schema.lookup_firstSpelled]
    decide +kernel
  have hunknown : Schema.pc.lookup "etiquette" = none := by
    rw [Schema.lookup_firstSpelled]
    decide +kernel
  have hsite := lookup_synonyms.2 siteSpellings siteFile hparse Schema.pc hpc
  have hlabel : (siteFile.apply Schema.pc).lookup "etiquette" = some FieldName.remark := by
    rw [(hsite "etiquette" FieldName.remark).2.2 hunknown]
    decide +kernel
  exact ⟨hparse, hpc, hknown, (hsite "sn" FieldName.serialNumber).2.1 hknown, hunknown, hlabel,
    (hsite "etiquette" FieldName.remark).1 hlabel⟩

end Stockroom

import Mathlib.Algebra.GroupWithZero.Nat
import Mathlib.Data.List.SplitBy
import Stockroom.Proofs.Text.Utf8
import Stockroom.Sheet.Workbook

/-!
A workbook of texts, written and read again. A text comes back as it is when all its characters can
be stored, it is short enough and spells no escape; the rows come back without the empty texts at
their ends.

Main definitions and statements:
* `Text.IsKept`, `Text.isKept_iff`: a text that comes back as it is;
* `writtenCells_kept`: cells that hold such texts;
* `grouped_ascending`: cells that stand in order are grouped by row and by column;
* `shownRow`, `rows_placedTexts`: the rows that are read;
* `Workbook.ofTexts_rows`: a sheet of texts from its writing to its reading.
-/
namespace Stockroom
set_option autoImplicit false

/-! ## Escapes -/

namespace SharedText

/-- No escape stands anywhere in a text. -/
def Unescaped (cs : List Char) : Prop := ∀ s, s <:+ cs → takeEscape s = none

theorem Unescaped.tail {c : Char} {rest : List Char} (h : Unescaped (c :: rest)) :
    Unescaped rest :=
  fun s hs => h s (hs.trans (List.suffix_cons c rest))

theorem unescaped_nil : Unescaped [] := by
  intro s hs
  rw [List.suffix_nil.mp hs]
  rfl

theorem takeEscape_length {cs digits after : List Char} (h : takeEscape cs = some (digits, after)) :
    after.length + 7 = cs.length := by
  unfold takeEscape takeTail at h
  split at h
  · split at h
    · split at h
      · obtain ⟨-, rfl⟩ := Prod.mk.inj (Option.some.inj h)
        rfl
      · cases h
    · cases h
  · cases h

theorem charOf_length_le (digits : List Char) : (charOf digits).toList.length ≤ 1 := by
  cases charOf digits <;> simp

theorem unescapeWithin_length_le (fuel : Nat) (cs : List Char) :
    (unescapeWithin fuel cs).length ≤ cs.length := by
  induction fuel generalizing cs with
  | zero => exact Nat.le_refl _
  | succ fuel ih =>
    cases cs with
    | nil => exact Nat.le_refl _
    | cons c rest =>
      rw [unescapeWithin]
      split
      · next digits after hescape =>
        have hlength := takeEscape_length hescape
        have hone := charOf_length_le digits
        have hrest := ih after
        rw [List.length_append]
        omega
      · exact Nat.succ_le_succ (ih rest)

/-- An escape is longer than the character it stands for, so that only a text without escapes keeps
its length. -/
theorem unescaped_of_length {fuel : Nat} {cs : List Char} (hfuel : cs.length ≤ fuel)
    (h : (unescapeWithin fuel cs).length = cs.length) : Unescaped cs := by
  induction fuel generalizing cs with
  | zero =>
    obtain rfl := List.length_eq_zero_iff.mp (Nat.le_zero.mp hfuel)
    exact unescaped_nil
  | succ fuel ih =>
    cases cs with
    | nil => exact unescaped_nil
    | cons c rest =>
      rw [unescapeWithin] at h
      split at h
      · next digits after hescape =>
        have hlength := takeEscape_length hescape
        have hone := charOf_length_le digits
        have hrest := unescapeWithin_length_le fuel after
        rw [List.length_append] at h
        omega
      · next hnone =>
        have hrest : Unescaped rest :=
          ih (Nat.le_of_succ_le_succ hfuel) (Nat.succ.inj h)
        intro s hs
        obtain rfl | hs := List.suffix_cons_iff.mp hs
        · exact hnone
        · exact hrest s hs

theorem Unescaped.unescapeWithin {cs : List Char} (h : Unescaped cs) (fuel : Nat) :
    unescapeWithin fuel cs = cs := by
  induction fuel generalizing cs with
  | zero => rfl
  | succ fuel ih =>
    cases cs with
    | nil => rfl
    | cons c rest => rw [SharedText.unescapeWithin, h _ (List.suffix_refl _), ih h.tail]

theorem Unescaped.keyWithin {cs : List Char} (h : Unescaped cs) (fuel : Nat) :
    keyWithin fuel cs = cs := by
  induction fuel generalizing cs with
  | zero => rfl
  | succ fuel ih =>
    cases cs with
    | nil => rfl
    | cons c rest => rw [SharedText.keyWithin, h _ (List.suffix_refl _), ih h.tail]

end SharedText

/-! ## Texts that come back -/

theorem takeUnits_start (room : Nat) (t : Text) : takeUnits room t <+: t := by
  induction t generalizing room with
  | nil => exact List.prefix_refl _
  | cons g rest ih =>
    rw [takeUnits]
    split
    · exact List.cons_prefix_cons.mpr ⟨rfl, ih _⟩
    · exact List.nil_prefix

theorem takeUnits_eq_self {room : Nat} {t : Text} :
    takeUnits room t = t ↔ (t.map Glyph.units).sum ≤ room := by
  induction t generalizing room with
  | nil => simp [takeUnits]
  | cons g rest ih =>
    rw [takeUnits, List.map_cons, List.sum_cons]
    split
    · rw [List.cons_inj_right, ih]
      omega
    · constructor
      · intro h
        cases h
      · intro h
        omega

theorem storableChars_eq_self {cs : List Char} :
    storableChars cs = cs ↔ ∀ c ∈ cs, isStorable c = true := by
  have hreplacement : isStorable '\uFFFD' = true := by decide
  induction cs with
  | nil => simp [storableChars]
  | cons c rest ih =>
    have hcons : storableChars (c :: rest) =
        (if isStorable c then c else '\uFFFD') :: storableChars rest := rfl
    rw [hcons, List.cons.injEq, List.forall_mem_cons]
    refine and_congr ?_ ih
    split
    · next h => exact ⟨fun _ => h, fun _ => rfl⟩
    · next h => exact ⟨fun heq => heq ▸ hreplacement, fun hc => absurd hc h⟩

namespace Text

/-- A workbook reads the text as it was written. -/
def IsKept (t : Text) : Prop := (({} : SharedTexts).add t).1 = t

instance (t : Text) : Decidable t.IsKept := inferInstanceAs (Decidable (_ = t))

/-- The texts that come back: of characters that can be stored, not too long and without escapes. -/
theorem isKept_iff {t : Text} : t.IsKept ↔
    t.wellFormed = true ∧ (t.map Glyph.units).sum ≤ maxCellUnits ∧
      (∀ c ∈ t.toChars, isStorable c = true) ∧ SharedText.Unescaped t.toChars := by
  have hread : t.IsKept ↔
      ofChars (SharedText.unescape (storableChars (takeUnits maxCellUnits t).toChars)) = t := .rfl
  rw [hread]
  constructor
  · intro h
    -- Neither cutting nor reading escapes adds anything, so neither may have taken anything away.
    have hall : (SharedText.unescape (storableChars (takeUnits maxCellUnits t).toChars)).length =
        t.length := by
      rw [← congrArg List.length h, ofChars, List.length_map]
    have hchars : (storableChars (takeUnits maxCellUnits t).toChars).length =
        (takeUnits maxCellUnits t).length := by
      rw [storableChars, List.length_map, toChars, List.length_map]
    have hshorter := SharedText.unescapeWithin_length_le
      (storableChars (takeUnits maxCellUnits t).toChars).length
      (storableChars (takeUnits maxCellUnits t).toChars)
    rw [← SharedText.unescape, hall, hchars] at hshorter
    have hwhole : takeUnits maxCellUnits t = t :=
      (takeUnits_start _ _).eq_of_length_le hshorter
    rw [hwhole] at h hall hchars
    have hunescaped := SharedText.unescaped_of_length (Nat.le_refl _) (hall.trans hchars.symm)
    rw [SharedText.unescape, hunescaped.unescapeWithin] at h
    have hstored : storableChars t.toChars = t.toChars := by
      have hshown := congrArg toChars h
      rwa [toChars_ofChars] at hshown
    refine ⟨?_, takeUnits_eq_self.mp hwhole, storableChars_eq_self.mp hstored,
      hstored ▸ hunescaped⟩
    rw [← h]
    exact wellFormed_ofChars _
  · rintro ⟨hformed, hroom, hstorable, hunescaped⟩
    rw [takeUnits_eq_self.mpr hroom, storableChars_eq_self.mpr hstorable, SharedText.unescape,
      hunescaped.unescapeWithin, ofChars_toChars hformed]

end Text

/-! ## The table of texts -/

/-- Every text of the table is its own key. -/
def SharedTexts.Plain (table : SharedTexts) : Prop := ∀ entry ∈ table.entries, entry.1 = entry.2

theorem SharedTexts.add_kept {table : SharedTexts} {t : Text} (htable : table.Plain)
    (h : t.IsKept) : ∃ after, table.add t = (t, after) ∧ after.Plain := by
  obtain ⟨hformed, hroom, hstorable, hunescaped⟩ := Text.isKept_iff.mp h
  have hwhole := takeUnits_eq_self.mpr hroom
  have hshown : Text.ofChars (SharedText.unescape (storableChars t.toChars)) = t := by
    rw [storableChars_eq_self.mpr hstorable, SharedText.unescape, hunescaped.unescapeWithin,
      Text.ofChars_toChars hformed]
  unfold add
  dsimp only
  rw [hwhole]
  cases hfound : table.entries.lookup t.toChars with
  | some found =>
    obtain ⟨before, after, hentries, -⟩ := List.lookup_eq_some_iff.mp hfound
    have hsame : t.toChars = found :=
      htable (t.toChars, found) (hentries ▸ List.mem_append_right _ List.mem_cons_self)
    refine ⟨table, ?_, htable⟩
    dsimp only
    rw [← hsame, hshown]
  | none =>
    refine ⟨⟨(SharedText.keyOf t.toChars, t.toChars) :: table.entries⟩, ?_, ?_⟩
    · dsimp only
      rw [hshown]
    · rintro entry hentry
      obtain rfl | hentry := List.mem_cons.mp hentry
      · exact hunescaped.keyWithin _
      · exact htable entry hentry

theorem writtenCells_kept {table : SharedTexts} {cells : List PlacedCell} (htable : table.Plain)
    (h : ∀ c ∈ cells, ∃ t, c.content = .text t ∧ t.IsKept) :
    (writtenCells table cells).1 = cells := by
  induction cells generalizing table with
  | nil => rfl
  | cons c rest ih =>
    obtain ⟨t, htext, hkept⟩ := h c List.mem_cons_self
    obtain ⟨after, hadd, hafter⟩ := SharedTexts.add_kept htable hkept
    have hwritten : c.written table = (c, after) := by
      obtain ⟨row, column, content⟩ := c
      obtain rfl : content = .text t := htext
      rw [PlacedCell.written]
      dsimp only
      rw [hadd]
    rw [writtenCells, hwritten]
    exact congrArg (c :: ·) (ih hafter fun c hc => h c (List.mem_cons_of_mem _ hc))

/-! ## Lists without their ends -/

section
variable {α β : Type} {p : α → Bool}

theorem dropLastWhile_cons (x : α) (xs : List α) : dropLastWhile p (x :: xs) =
    if (dropLastWhile p xs).isEmpty && p x then [] else x :: dropLastWhile p xs := by
  unfold dropLastWhile
  rw [List.reverse_cons, List.dropWhile_append]
  cases hrest : xs.reverse.dropWhile p with
  | nil => cases hx : p x <;> simp [hx]
  | cons y ys => simp

theorem dropLastWhile_map (f : β → α) (xs : List β) :
    dropLastWhile p (xs.map f) = (dropLastWhile (fun x => p (f x)) xs).map f := by
  unfold dropLastWhile
  rw [← List.map_reverse, List.dropWhile_map, List.map_reverse]
  rfl

theorem dropLastWhile_zipIdx (xs : List α) (start : Nat) :
    dropLastWhile (fun e => p e.1) (xs.zipIdx start) = (dropLastWhile p xs).zipIdx start := by
  induction xs generalizing start with
  | nil => rfl
  | cons x xs ih =>
    have hempty : ((dropLastWhile p xs).zipIdx (start + 1)).isEmpty =
        (dropLastWhile p xs).isEmpty := by
      cases dropLastWhile p xs <;> rfl
    rw [List.zipIdx_cons, dropLastWhile_cons, dropLastWhile_cons, ih, hempty]
    split <;> rfl

theorem dropLastWhile_eq_self {xs : List α} (h : ∀ x ∈ xs, p x = false) :
    dropLastWhile p xs = xs := by
  induction xs with
  | nil => rfl
  | cons x xs ih =>
    rw [dropLastWhile_cons, h x List.mem_cons_self, Bool.and_false,
      ih fun y hy => h y (List.mem_cons_of_mem _ hy)]
    rfl

/-- A member that is not to go keeps its place. -/
theorem getElem?_dropLastWhile {xs : List α} {i : Nat} {x : α} (hget : xs[i]? = some x)
    (hx : p x = false) : (dropLastWhile p xs)[i]? = some x := by
  induction xs generalizing i with
  | nil => cases hget
  | cons y ys ih =>
    rw [dropLastWhile_cons]
    cases i with
    | zero =>
      obtain rfl : y = x := Option.some.inj hget
      rw [hx, Bool.and_false]
      rfl
    | succ i =>
      have hrest := ih hget
      have hnonempty : (dropLastWhile p ys).isEmpty = false := by
        cases hempty : dropLastWhile p ys with
        | nil => rw [hempty] at hrest; cases hrest
        | cons => rfl
      rw [hnonempty]
      exact hrest

theorem dropLastWhile_start (xs : List α) : dropLastWhile p xs <+: xs := by
  unfold dropLastWhile
  rw [← List.reverse_suffix, List.reverse_reverse]
  exact List.dropWhile_suffix p

/-! ## Cells in order -/

theorem zipIdx_ascending (xs : List α) (start : Nat) :
    (xs.zipIdx start).Pairwise fun a b => a.2 < b.2 := by
  rw [← List.pairwise_map, List.zipIdx_map_snd]
  exact List.pairwise_lt_range'

/-- Things that stand group by group, the groups in ascending order, are grouped so. -/
theorem grouped_ascending {number : α → Nat} {groups : List (Nat × List α)}
    (hnonempty : ∀ g ∈ groups, g.2 ≠ []) (hnumber : ∀ g ∈ groups, ∀ x ∈ g.2, number x = g.1)
    (hascending : groups.Pairwise fun a b => a.1 < b.1) :
    grouped number (groups.map (·.2)).flatten = groups := by
  have hsorted : (groups.map (·.2)).flatten.Pairwise
      fun a b => decide (number a ≤ number b) = true := by
    refine List.pairwise_flatten.mpr ⟨fun xs hxs => ?_, ?_⟩
    · obtain ⟨g, hg, rfl⟩ := List.mem_map.mp hxs
      refine List.pairwise_of_forall_mem_list fun a ha b hb => decide_eq_true ?_
      rw [hnumber g hg a ha, hnumber g hg b hb]
    · refine List.pairwise_map.mpr (hascending.imp_of_mem fun {g h} hg hh hlt a ha b hb => ?_)
      rw [hnumber g hg a ha, hnumber h hh b hb]
      exact decide_eq_true hlt.le
  have hsplit : (groups.map (·.2)).flatten.splitBy (fun a b => number a == number b) =
      groups.map (·.2) := by
    refine List.splitBy_flatten ?_ ?_ ?_
    · intro hnil
      obtain ⟨g, hg, hempty⟩ := List.mem_map.mp hnil
      exact hnonempty g hg hempty
    · intro xs hxs
      obtain ⟨g, hg, rfl⟩ := List.mem_map.mp hxs
      refine (List.pairwise_of_forall_mem_list fun a ha b hb => ?_).isChain
      rw [hnumber g hg a ha, hnumber g hg b hb]
      exact beq_self_eq_true _
    · refine (List.pairwise_map.mpr (hascending.imp_of_mem fun {g h} hg hh hlt => ?_)).isChain
      refine ⟨hnonempty g hg, hnonempty h hh, ?_⟩
      rw [hnumber g hg _ (List.getLast_mem _), hnumber h hh _ (List.head_mem _)]
      exact beq_false_of_ne hlt.ne
  rw [grouped, List.mergeSort_of_pairwise hsorted, hsplit, List.filterMap_map]
  have hhead : ∀ g ∈ groups, (g.2.head?.map fun first => (number first, g.2)) = some g := by
    intro g hg
    obtain ⟨place, xs⟩ := g
    cases xs with
    | nil => exact absurd rfl (hnonempty _ hg)
    | cons x xs =>
      rw [List.head?_cons, Option.map_some, hnumber _ hg x List.mem_cons_self]
  calc groups.filterMap (fun g => g.2.head?.map fun first => (number first, g.2))
      = groups.filterMap some := List.filterMap_congr hhead
    _ = groups := List.filterMap_some

theorem spread_consecutive (nothing : α) (xs : List α) (start : Nat) :
    spread nothing start ((xs.zipIdx start).map fun e => (e.2, e.1)) = xs := by
  induction xs generalizing start with
  | nil => rfl
  | cons x xs ih =>
    rw [List.zipIdx_cons, List.map_cons, spread, Nat.sub_self, List.replicate_zero, List.nil_append,
      ih]

end

/-! ## Rows of texts -/

/-- The cells of a row of texts. -/
def placedRow (i : Nat) (row : List Text) : List PlacedCell :=
  (row.zipIdx 1).map fun e => ⟨i, e.2, .text e.1⟩

/-- A row of texts as it is read. -/
def shownRow (row : List Text) : Row := (dropLastWhile List.isEmpty row).map Cell.ofText

theorem placedTexts_eq (rows : List (List Text)) :
    placedTexts rows = ((rows.zipIdx 1).map fun e => placedRow e.2 e.1).flatten := by
  rw [placedTexts, List.flatMap_def]
  rfl

theorem grouped_placedRow (i : Nat) (row : List Text) :
    grouped PlacedCell.column (placedRow i row) =
      (row.zipIdx 1).map fun e => (e.2, [⟨i, e.2, .text e.1⟩]) := by
  have hflat : placedRow i row =
      (((row.zipIdx 1).map fun e => (e.2, [(⟨i, e.2, .text e.1⟩ : PlacedCell)])).map
        (·.2)).flatten := by
    rw [List.map_map, placedRow, ← List.flatMap_def]
    exact List.map_eq_flatMap
  rw [hflat, grouped_ascending]
  · exact List.forall_mem_map.mpr fun _ _ => List.cons_ne_nil _ _
  · refine List.forall_mem_map.mpr fun e _ x hx => ?_
    rw [List.mem_singleton.mp hx]
  · exact List.pairwise_map.mpr (zipIdx_ascending row 1)

/-- Only the very first cell of a sheet may lose a byte order mark. -/
theorem read_placed {i j : Nat} {row : List Text} {t : Text}
    (hmark : i = 1 → ∀ t ∈ row.head?, Csv.dropMark t = t) (ht : (t, j) ∈ row.zipIdx 1) :
    PlacedCell.read ⟨i, j, .text t⟩ = Cell.ofText t := by
  have htext : (if i = 1 ∧ j = 1 then Csv.dropMark t else t) = t := by
    split
    · next hfirst =>
      obtain ⟨hi, rfl⟩ := hfirst
      have hget : row[0]? = some t := (List.mem_zipIdx_iff_le_and_getElem?_sub.mp ht).2
      exact hmark hi t (List.head?_eq_getElem? ▸ hget)
    · rfl
  exact congrArg Cell.ofText htext

theorem readRow_placedRow {i : Nat} {row : List Text}
    (hmark : i = 1 → ∀ t ∈ row.head?, Csv.dropMark t = t) :
    readRow (placedRow i row) = shownRow row := by
  have hcolumns : ((grouped PlacedCell.column (placedRow i row)).filterMap fun e =>
      e.2.getLast?.map fun c => (e.1, c)) =
      (row.zipIdx 1).map fun e => (e.2, (⟨i, e.2, .text e.1⟩ : PlacedCell)) := by
    rw [grouped_placedRow, List.filterMap_map, ← List.filterMap_eq_map]
    rfl
  have hkept : dropLastWhile (fun e => e.2.content.shown.isEmpty)
      ((row.zipIdx 1).map fun e => (e.2, (⟨i, e.2, .text e.1⟩ : PlacedCell))) =
      ((dropLastWhile List.isEmpty row).zipIdx 1).map fun e => (e.2, ⟨i, e.2, .text e.1⟩) := by
    rw [dropLastWhile_map]
    exact congrArg _ (dropLastWhile_zipIdx row 1)
  have hread : ∀ e ∈ (dropLastWhile List.isEmpty row).zipIdx 1,
      (e.2, PlacedCell.read ⟨i, e.2, .text e.1⟩) = (e.2, Cell.ofText e.1) := by
    rintro ⟨t, j⟩ he
    obtain ⟨rest, hrest⟩ := dropLastWhile_start (p := List.isEmpty) row
    have hrow : (t, j) ∈ (dropLastWhile List.isEmpty row ++ rest).zipIdx 1 := by
      rw [List.zipIdx_append]
      exact List.mem_append_left _ he
    rw [hrest] at hrow
    rw [read_placed hmark hrow]
  have hunfold : readRow (placedRow i row) = spread (Cell.ofText []) 1
      ((dropLastWhile (fun e => e.2.content.shown.isEmpty)
        ((grouped PlacedCell.column (placedRow i row)).filterMap fun e =>
          e.2.getLast?.map fun c => (e.1, c))).map fun e => (e.1, e.2.read)) := rfl
  have hplaces : ((dropLastWhile List.isEmpty row).zipIdx 1).map
      (fun e => (e.2, Cell.ofText e.1)) =
      ((shownRow row).zipIdx 1).map fun e => (e.2, e.1) := by
    rw [shownRow, List.zipIdx_map, List.map_map]
    rfl
  rw [hunfold, hcolumns, hkept, List.map_map]
  calc spread (Cell.ofText []) 1 (((dropLastWhile List.isEmpty row).zipIdx 1).map
        fun e => (e.2, PlacedCell.read ⟨i, e.2, .text e.1⟩))
      = spread (Cell.ofText []) 1 (((shownRow row).zipIdx 1).map fun e => (e.2, e.1)) := by
        rw [List.map_congr_left hread, hplaces]
    _ = shownRow row := spread_consecutive _ _ _

/-- The rows of a sheet of texts, without the empty ones at its end. -/
theorem rows_placedTexts {name : Text} {rows : List (List Text)} (hcells : [] ∉ rows)
    (hmark : ∀ row ∈ rows.head?, ∀ t ∈ row.head?, Csv.dropMark t = t) :
    WorkSheet.rows ⟨name, placedTexts rows⟩ = dropLastWhile List.isEmpty (rows.map shownRow) := by
  have hgroups : grouped PlacedCell.row (placedTexts rows) =
      (rows.zipIdx 1).map fun e => (e.2, placedRow e.2 e.1) := by
    have hflat : placedTexts rows =
        (((rows.zipIdx 1).map fun e => (e.2, placedRow e.2 e.1)).map (·.2)).flatten := by
      rw [placedTexts_eq, List.map_map]
      rfl
    rw [hflat, grouped_ascending]
    · refine List.forall_mem_map.mpr fun e he hempty => hcells ?_
      have hnone : e.1 = [] := by
        simpa [placedRow] using hempty
      exact hnone ▸ List.fst_mem_of_mem_zipIdx he
    · refine List.forall_mem_map.mpr fun e _ => List.forall_mem_map.mpr fun _ _ => rfl
    · exact List.pairwise_map.mpr (zipIdx_ascending rows 1)
  have hread : ∀ e ∈ rows.zipIdx 1, (e.2, readRow (placedRow e.2 e.1)) = (e.2, shownRow e.1) := by
    rintro ⟨row, i⟩ he
    refine congrArg (i, ·) (readRow_placedRow fun hi => ?_)
    obtain rfl : i = 1 := hi
    have hget : rows[0]? = some row := (List.mem_zipIdx_iff_le_and_getElem?_sub.mp he).2
    exact hmark row (List.head?_eq_getElem? ▸ hget)
  have hplaces : (rows.zipIdx 1).map (fun e => (e.2, shownRow e.1)) =
      ((rows.map shownRow).zipIdx 1).map fun e => (e.2, e.1) := by
    rw [List.zipIdx_map, List.map_map]
    rfl
  have hkept : dropLastWhile (fun e => e.2.isEmpty)
      (((rows.map shownRow).zipIdx 1).map fun e => (e.2, e.1)) =
      ((dropLastWhile List.isEmpty (rows.map shownRow)).zipIdx 1).map fun e => (e.2, e.1) := by
    rw [dropLastWhile_map]
    exact congrArg _ (dropLastWhile_zipIdx _ 1)
  have hunfold : WorkSheet.rows ⟨name, placedTexts rows⟩ = spread [] 1 (dropLastWhile
      (fun e => e.2.isEmpty) ((grouped PlacedCell.row (placedTexts rows)).map fun e =>
        (e.1, readRow e.2))) := rfl
  rw [hunfold, hgroups, List.map_map]
  calc spread [] 1 (dropLastWhile (fun e => e.2.isEmpty)
        ((rows.zipIdx 1).map fun e => (e.2, readRow (placedRow e.2 e.1))))
      = spread [] 1 (((dropLastWhile List.isEmpty (rows.map shownRow)).zipIdx 1).map
          fun e => (e.2, e.1)) := by
        rw [List.map_congr_left hread, hplaces, hkept]
    _ = dropLastWhile List.isEmpty (rows.map shownRow) := spread_consecutive _ _ _

/-- A sheet of texts that come back, each row holding one: its rows are read as they were
written. -/
theorem Workbook.ofTexts_rows {name : Text} (header : List Text) (rows : List (List Text))
    (hname : isSheetName name = true) (hroom : rows.length < maxSheetRows)
    (hkept : ∀ row ∈ header :: rows, ∀ t ∈ row, t.IsKept)
    (hfilled : ∀ row ∈ header :: rows, ∃ t ∈ row, t ≠ [])
    (hmark : ∀ t ∈ header.head?, Csv.dropMark t = t) :
    ∃ book, Workbook.ofTexts name header rows = some book ∧
      book.rows = (header :: rows).map shownRow := by
  have hwritten : (writtenCells {} (placedTexts (header :: rows))).1 =
      placedTexts (header :: rows) := by
    refine writtenCells_kept (fun _ h => absurd h List.not_mem_nil) fun c hc => ?_
    obtain ⟨⟨row, i⟩, hrow, hc⟩ := List.mem_flatMap.mp hc
    obtain ⟨⟨t, j⟩, ht, rfl⟩ := List.mem_map.mp hc
    exact ⟨t, rfl, hkept row (List.fst_mem_of_mem_zipIdx hrow) t (List.fst_mem_of_mem_zipIdx ht)⟩
  refine ⟨_, if_pos ?_, ?_⟩
  · rw [hname, Bool.true_and]
    exact decide_eq_true hroom
  · have hsheet : (Workbook.written ⟨[⟨name, placedTexts (header :: rows)⟩]⟩).rows =
        WorkSheet.rows ⟨storableText name, placedTexts (header :: rows)⟩ :=
      congrArg (fun cells => WorkSheet.rows ⟨storableText name, cells⟩) hwritten
    have hshown : ∀ row ∈ (header :: rows).map shownRow, row.isEmpty = false := by
      refine List.forall_mem_map.mpr fun row hrow => ?_
      obtain ⟨t, ht, hne⟩ := hfilled row hrow
      obtain ⟨i, hget⟩ := List.getElem?_of_mem ht
      have hstays := getElem?_dropLastWhile hget (List.isEmpty_eq_false_iff.mpr hne)
      refine List.isEmpty_eq_false_iff.mpr fun hempty => ?_
      rw [List.map_eq_nil_iff.mp hempty] at hstays
      cases hstays
    rw [hsheet, rows_placedTexts, dropLastWhile_eq_self hshown]
    · intro hnil
      obtain ⟨t, ht, -⟩ := hfilled [] hnil
      cases ht
    · rintro row hrow
      obtain rfl : header = row := Option.some.inj hrow
      exact hmark

end Stockroom

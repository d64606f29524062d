import Stockroom.Proofs.Sheet.Csv

/-!
Empty lines in a file of separated values. Wherever a line starts outside quotes an empty one may be put
before it, and the last line may be ended: the records stay what they are. Only the separator is taken
from the first line, so an empty line before it makes it the comma.

Main definitions and statements:
* `Spaced`: a file with empty lines put between its records;
* `recordsWith_spaced`, `separator_spaced`: what becomes of the records and of the separator;
* `read_spaced`: what is read of the file.
-/
namespace Stockroom.Csv
set_option autoImplicit false

/-- A line end, with or without a carriage return. -/
inductive IsLineEnd : List UInt8 → Prop where
  | feed : IsLineEnd [lineFeed]
  | both : IsLineEnd [carriageReturn, lineFeed]

/-- A file, and the same file with empty lines before, between and after its records. -/
inductive Spaced (file : List UInt8) : List UInt8 → Prop where
  | same : Spaced file file
  /-- An empty line where a line starts outside quotes. -/
  | line {above below e : List UInt8} (h : Spaced file (above ++ below)) (hwhole : Whole above)
    (hquotes : above.count quote % 2 = 0) (he : IsLineEnd e) : Spaced file (above ++ e ++ below)
  /-- The end of a last line that has none; a carriage return at the end is part of it. -/
  | close {spaced e : List UInt8} (h : Spaced file spaced) (hopen : ¬ Whole spaced)
    (he : IsLineEnd e) (hreturn : spaced.getLast? = some carriageReturn → e = [lineFeed]) :
    Spaced file (spaced ++ e)

/-- The line has nothing but a carriage return. -/
def IsEmptyLine (line : List UInt8) : Prop := line = [] ∨ line = [carriageReturn]

/-- The first line, without its line feed. -/
def firstLine (bytes : List UInt8) : List UInt8 := bytes.takeWhile (· != lineFeed)

/-! ## The separator -/

theorem firstLine_append {above : List UInt8} (hfeed : lineFeed ∈ above) (below : List UInt8) :
    firstLine (above ++ below) = firstLine above := by
  unfold firstLine
  induction above with
  | nil => cases hfeed
  | cons b above ih =>
    rw [List.cons_append]
    by_cases hb : b = lineFeed
    · simp [hb]
    · have hrest : lineFeed ∈ above := by
        obtain rfl | h := List.mem_cons.mp hfeed
        · exact absurd rfl hb
        · exact h
      rw [List.takeWhile_cons_of_pos (by simp [hb]), List.takeWhile_cons_of_pos (by simp [hb]),
        ih hrest]

theorem passed_of_not_mem {bytes : List UInt8} (h : lineFeed ∉ bytes) :
    ∀ b ∈ bytes, (b != lineFeed) = true := by
  intro b hb
  rw [bne_iff_ne]
  rintro rfl
  exact h hb

theorem firstLine_of_not_mem {bytes : List UInt8} (h : lineFeed ∉ bytes) : firstLine bytes = bytes := by
  have hall : (bytes ++ []).takeWhile (· != lineFeed) = bytes ++ [] :=
    List.takeWhile_append_of_pos (passed_of_not_mem h)
  rwa [List.append_nil] at hall

theorem firstLine_lineFeed (bytes : List UInt8) : firstLine (bytes ++ [lineFeed]) = firstLine bytes := by
  by_cases h : lineFeed ∈ bytes
  · exact firstLine_append h _
  · rw [firstLine_of_not_mem h, firstLine, List.takeWhile_append_of_pos (passed_of_not_mem h)]
    exact List.append_nil bytes

theorem separator_eq (bytes : List UInt8) : separator bytes =
    if (firstLine bytes).count comma < (firstLine bytes).count semicolon then semicolon
    else comma := rfl

theorem separator_of_isEmptyLine {bytes : List UInt8} (h : IsEmptyLine (firstLine bytes)) :
    separator bytes = comma := by
  rw [separator_eq]
  obtain h | h := h <;> rw [h] <;> rfl

/-- The separator stays, unless an empty line comes first. -/
theorem separator_spaced {file spaced : List UInt8} (h : Spaced file spaced) :
    separator spaced = separator file ∨ IsEmptyLine (firstLine spaced) := by
  induction h with
  | same => exact .inl rfl
  | @line above below e h hwhole hquotes he ih =>
    obtain rfl | ⟨init, rfl⟩ := hwhole
    · refine .inr ?_
      cases he with
      | feed => exact .inl rfl
      | both => exact .inr rfl
    · have hfeed : lineFeed ∈ init ++ [lineFeed] := by simp
      rw [separator_eq, List.append_assoc, firstLine_append hfeed]
      rwa [separator_eq, firstLine_append hfeed] at ih
  | @close spaced e h hopen he hreturn ih =>
    cases he with
    | feed =>
      rw [separator_eq, firstLine_lineFeed]
      exact ih
    | both =>
      have hboth : spaced ++ [carriageReturn, lineFeed] = (spaced ++ [carriageReturn]) ++ [lineFeed] := by
        simp
      rw [hboth, separator_eq, firstLine_lineFeed]
      by_cases hfeed : lineFeed ∈ spaced
      · rw [firstLine_append hfeed]
        exact ih
      · have hnot : lineFeed ∉ spaced ++ [carriageReturn] := by
          simp only [List.mem_append, List.mem_singleton, hfeed, false_or]
          decide
        rw [separator_eq, firstLine_of_not_mem hfeed] at ih
        rw [firstLine_of_not_mem hnot]
        refine .inl ?_
        obtain hsame | hempty := ih
        · rw [← hsame]
          have hcomma : comma ≠ carriageReturn := by decide
          have hsemicolon : semicolon ≠ carriageReturn := by decide
          simp [List.count_append, hcomma.symm, hsemicolon.symm]
        · obtain rfl | rfl := hempty
          · exact absurd whole_nil hopen
          · exact absurd (hreturn rfl) (by decide)

/-! ## The records -/

theorem unifyLines_return {bytes : List UInt8} (h : bytes.getLast? ≠ some carriageReturn) :
    unifyLines (bytes ++ [carriageReturn]) = unifyLines bytes := by
  have hfeed : carriageReturn ≠ lineFeed := by decide
  fun_induction unifyLines bytes
  case case1 => rfl
  case case2 => exact absurd rfl h
  case case3 b hb => simp [unifyLines, hb]
  case case4 a b rest hab ih => simpa [unifyLines, hab] using ih h
  case case5 a b rest hab ih =>
    have htail : (b :: rest).getLast? ≠ some carriageReturn := h
    rw [← ih htail, List.cons_append, List.cons_append, unifyLines, if_neg hab]

theorem IsLineEnd.unifyLines {e : List UInt8} (h : IsLineEnd e) : unifyLines e = [lineFeed] := by
  cases h <;> rfl

theorem IsLineEnd.whole {e : List UInt8} (h : IsLineEnd e) : Whole e := by
  cases h
  · exact whole_concat []
  · exact whole_concat [carriageReturn]

/-- An empty line holds no record. -/
theorem recordsWith_line {sep : UInt8} (hsep : sep ≠ quote) {e : List UInt8} (he : IsLineEnd e)
    (below : List UInt8) : recordsWith sep (e ++ below) = recordsWith sep below := by
  have hquotes : e.count quote % 2 = 0 := by cases he <;> rfl
  have hnone : recordsWith sep e = .ok [] := by
    rw [recordsWith, he.unifyLines]
    rfl
  rw [recordsWith_append hsep he.whole hquotes, hnone, bind_ok]
  exact map_same _

theorem recordsWith_close {sep : UInt8} {bytes e : List UInt8} {rs : List (List (List UInt8))}
    (he : IsLineEnd e) (hreturn : bytes.getLast? = some carriageReturn → e = [lineFeed])
    (h : recordsWith sep bytes = .ok rs) : recordsWith sep (bytes ++ e) = .ok rs := by
  have hunified : unifyLines (bytes ++ e) = unifyLines bytes ++ [lineFeed] := by
    cases he with
    | feed => exact unifyLines_lineFeed bytes []
    | both =>
      have hlast : bytes.getLast? ≠ some carriageReturn := fun hlast => by
        cases hreturn hlast
      have hboth : bytes ++ [carriageReturn, lineFeed] = (bytes ++ [carriageReturn]) ++ lineFeed :: [] := by
        simp
      rw [hboth, unifyLines_lineFeed, unifyLines_return hlast]
      rfl
  rw [recordsWith, hunified]
  exact skim_lineFeed h

/-- Empty lines between the records do not matter, whatever the separator is. -/
theorem recordsWith_spaced {sep : UInt8} (hsep : sep ≠ quote) {file spaced : List UInt8}
    (h : Spaced file spaced) {rs : List (List (List UInt8))} (hfile : recordsWith sep file = .ok rs) :
    recordsWith sep spaced = .ok rs := by
  induction h with
  | same => exact hfile
  | @line above below e h hwhole hquotes he ih =>
    rw [recordsWith_append hsep hwhole hquotes] at ih
    rwa [List.append_assoc, recordsWith_append hsep hwhole hquotes, recordsWith_line hsep he]
  | close h hopen he hreturn ih => exact recordsWith_close he hreturn ih

/-- Empty lines make no difference to what is read, unless one stands at the front of a file whose fields
are separated by semicolons. -/
theorem read_spaced {file spaced : List UInt8} {rows : List Row} (hread : read file = .ok rows)
    (h : Spaced file spaced) (hfirst : separator file = comma ∨ ¬ IsEmptyLine (firstLine spaced)) :
    read spaced = .ok rows := by
  have hseparator : separator spaced = separator file := by
    obtain hsame | hempty := separator_spaced h
    · exact hsame
    · rw [separator_of_isEmptyLine hempty, hfirst.resolve_right (not_not_intro hempty)]
  obtain ⟨rs, hrecords, hrows⟩ := read_eq_ok.mp hread
  refine read_eq_ok.mpr ⟨rs, ?_, hrows⟩
  rw [hseparator]
  exact recordsWith_spaced (separator_ne_quote file) h hrecords

/-- Two records separated by semicolons; the second one has two lines, and no end. -/
def brokenLine : List UInt8 := Text.bytes "a;b\n\"c\nd\";e"

/-- An empty line between the records, then the end of the last line, and an empty line after it. -/
theorem brokenLine_spaced : Spaced brokenLine (Text.bytes "a;b\n\r\n\"c\nd\";e\n\n") := by
  have hsplit : brokenLine = Text.bytes "a;b\n" ++ Text.bytes "\"c\nd\";e" := by decide +kernel
  have hwhole : Text.bytes "a;b\n" = Text.bytes "a;b" ++ [lineFeed] := by decide +kernel
  have hbetween : Spaced brokenLine
      (Text.bytes "a;b\n" ++ [carriageReturn, lineFeed] ++ Text.bytes "\"c\nd\";e") :=
    .line (hsplit ▸ .same) (hwhole ▸ whole_concat _) (by decide +kernel) .both
  have hbytes : Text.bytes "a;b\n" ++ [carriageReturn, lineFeed] ++ Text.bytes "\"c\nd\";e" =
      Text.bytes "a;b\n\r\n\"c\nd\";e" := by decide +kernel
  rw [hbytes] at hbetween
  have hopen : ¬ Whole (Text.bytes "a;b\n\r\n\"c\nd\";e") := by
    rintro (h | ⟨init, h⟩)
    · exact absurd h (by decide +kernel)
    · have hlast := congrArg List.getLast? h
      rw [List.getLast?_concat] at hlast
      exact absurd hlast (by decide +kernel)
  have hclosed := hbetween.close hopen .feed fun _ => rfl
  rw [← List.append_nil (_ ++ [lineFeed])] at hclosed
  have hafter := hclosed.line (whole_concat _) (by decide +kernel) .feed
  have hend : Text.bytes "a;b\n\r\n\"c\nd\";e" ++ [lineFeed] ++ [lineFeed] ++ [] =
      Text.bytes "a;b\n\r\n\"c\nd\";e\n\n" := by decide +kernel
  exact hend ▸ hafter

theorem brokenLine_kept : ∃ rows, read brokenLine = .ok rows ∧
    read (Text.bytes "a;b\n\r\n\"c\nd\";e\n\n") = .ok rows := by
  obtain ⟨rows, hread⟩ : ∃ rows, read brokenLine = .ok rows :=
    ⟨(read brokenLine).toOption.getD [], toOption_eq_some.mp (by decide +kernel)⟩
  have hfirst : ¬ IsEmptyLine (firstLine (Text.bytes "a;b\n\r\n\"c\nd\";e\n\n")) := by
    unfold IsEmptyLine
    decide +kernel
  exact ⟨rows, hread, read_spaced hread brokenLine_spaced (.inr hfirst)⟩

/-- An empty line before the first record makes one field of two. -/
theorem firstLine_counted : Spaced (Text.bytes "a;b\n") (Text.bytes "\na;b\n") ∧
    read (Text.bytes "a;b\n") = .ok [[Cell.ofText "a", Cell.ofText "b"]] ∧
    read (Text.bytes "\na;b\n") ≠ .ok [[Cell.ofText "a", Cell.ofText "b"]] := by
  have hspaced : read (Text.bytes "\na;b\n") = .ok [[Cell.ofText "a;b"]] :=
    toOption_eq_some.mp (by decide +kernel)
  refine ⟨?_, toOption_eq_some.mp (by decide +kernel), fun h => ?_⟩
  · have hbytes : Text.bytes "\na;b\n" = [] ++ [lineFeed] ++ Text.bytes "a;b\n" := by decide +kernel
    rw [hbytes]
    exact .line (show Spaced _ ([] ++ Text.bytes "a;b\n") from .same) whole_nil rfl .feed
  · rw [hspaced] at h
    have hlength := congrArg (List.map List.length) (Except.ok.inj h)
    exact absurd hlength (by decide)

end Stockroom.Csv

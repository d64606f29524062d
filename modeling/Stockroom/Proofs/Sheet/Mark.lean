import Stockroom.Proofs.Sheet.Csv

/-!
Files with a byte order mark. The mark is taken off the first cell once the file has been scanned, and
while it is scanned it stands in front of the first field as a part of it. So the mark goes unnoticed
just where the first character of the file belongs to a field without quotes: white space there is no
longer passed over, a quote no longer opens a field, and a line that was empty is a record.

Main definitions and statements:
* `mark`, `StartsPlain`: the mark, and the files it can stand in front of;
* `skim_plain`: what has been read of the first field only stands in front of it;
* `read_mark`: which files the mark makes no difference to.
-/
namespace Stockroom.Csv
set_option autoImplicit false

/-- The byte order mark. -/
def mark : List UInt8 := [0xEF, 0xBB, 0xBF]

/-- The first character is there, and is neither white space nor a quote. -/
def StartsPlain : List UInt8 → Prop
  | [] => False
  | b :: rest => blankLength b rest = none ∧ b ≠ quote

/-! ## Scanning on after the first field -/

/-- The bytes up to the first separator or line end. -/
def firstField (sep : UInt8) (bytes : List UInt8) : List UInt8 :=
  bytes.takeWhile fun b => b != lineFeed && b != sep

/-- Records whose first field is given, from the other fields of the first one and the other ones. -/
def withFirst (first : List UInt8) (others : List (List UInt8) × List (List (List UInt8))) :
    List (List (List UInt8)) :=
  (first :: others.1) :: others.2

theorem firstField_cons {sep b : UInt8} (hb : b ≠ lineFeed) (hsep : b ≠ sep) (rest : List UInt8) :
    firstField sep (b :: rest) = b :: firstField sep rest :=
  List.takeWhile_cons_of_pos (by simp [hb, hsep])

theorem firstField_stop {sep b : UInt8} (hb : b = lineFeed ∨ b = sep) (rest : List UInt8) :
    firstField sep (b :: rest) = [] :=
  List.takeWhile_cons_of_neg (by simpa using fun h => hb.resolve_left h)

/-- A field without quotes grows. -/
theorem step_plain {sep b : UInt8} (hb : b ≠ lineFeed) (hsep : b ≠ sep) (hquote : b ≠ quote)
    (field : List UInt8) (fields : Fields) (rest : List UInt8) :
    step sep (.plain field) fields b rest = .ok ([], .plain (b :: field), fields) := by
  rw [step, if_neg hb, if_neg hsep, if_neg hquote]

section
variable (sep : UInt8)

theorem opening_within (b : UInt8) (rest : List UInt8) : ∃ m' new, m' ≠ .between ∧
    ∀ fields, opening sep fields b rest = (m', new ++ fields) := by
  unfold opening
  cases blankLength b rest with
  | some n => exact ⟨.before (n - 1), [], by simp, fun fields => rfl⟩
  | none =>
    dsimp only
    by_cases hquote : b = quote
    · exact ⟨.quoted [], [], by simp, fun fields => if_pos hquote⟩
    by_cases hsep : b = sep
    · exact ⟨.before 0, [[]], by simp, fun fields => by rw [if_neg hquote, if_pos hsep]; rfl⟩
    · exact ⟨.plain [b], [], by simp, fun fields => by rw [if_neg hquote, if_neg hsep]; rfl⟩

/-- What a byte does within a record, whatever fields are finished. -/
theorem step_within {m : Mode} (hm : m ≠ .between) (b : UInt8) (rest : List UInt8) :
    (∃ e, ∀ fields, step sep m fields b rest = .error e) ∨
    (∃ field, ∀ fields, step sep m fields b rest = .ok ([finished fields field], .between, [])) ∨
    ∃ m' new, m' ≠ .between ∧ ∀ fields, step sep m fields b rest = .ok ([], m', new ++ fields) := by
  cases m with
  | between => exact absurd rfl hm
  | before n =>
    cases n with
    | succ n => exact .inr (.inr ⟨.before n, [], by simp, fun fields => rfl⟩)
    | zero =>
      by_cases hb : b = lineFeed
      · exact .inr (.inl ⟨[], fun fields => if_pos hb⟩)
      · obtain ⟨m', new, hm', hopening⟩ := opening_within sep b rest
        exact .inr (.inr ⟨m', new, hm', fun fields => by rw [step, if_neg hb, hopening]⟩)
  | plain field =>
    by_cases hb : b = lineFeed
    · exact .inr (.inl ⟨field, fun fields => if_pos hb⟩)
    by_cases hsep : b = sep
    · exact .inr (.inr ⟨.before 0, [field.reverse], by simp,
        fun fields => by rw [step, if_neg hb, if_pos hsep]; rfl⟩)
    by_cases hquote : b = quote
    · exact .inl ⟨.bareQuote, fun fields => by rw [step, if_neg hb, if_neg hsep, if_pos hquote]⟩
    · exact .inr (.inr ⟨.plain (b :: field), [], by simp,
        fun fields => step_plain hb hsep hquote field fields rest⟩)
  | quoted field =>
    by_cases hquote : b = quote
    · exact .inr (.inr ⟨.closing field, [], by simp, fun fields => if_pos hquote⟩)
    · exact .inr (.inr ⟨.quoted (b :: field), [], by simp, fun fields => if_neg hquote⟩)
  | closing field =>
    by_cases hb : b = lineFeed
    · exact .inr (.inl ⟨field, fun fields => if_pos hb⟩)
    by_cases hquote : b = quote
    · exact .inr (.inr ⟨.quoted (b :: field), [], by simp,
        fun fields => by rw [step, if_neg hb, if_pos hquote]; rfl⟩)
    by_cases hsep : b = sep
    · exact .inr (.inr ⟨.before 0, [field.reverse], by simp,
        fun fields => by rw [step, if_neg hb, if_neg hquote, if_pos hsep]; rfl⟩)
    · exact .inl ⟨.strayQuote, fun fields => by
        rw [step, if_neg hb, if_neg hquote, if_neg hsep]⟩

theorem finished_concat (fields : Fields) (first field : List UInt8) :
    finished (fields ++ [first]) field = first :: finished fields field := by
  simp [finished]

/-- A finished field only stands in front of the others. -/
theorem skim_finished {m : Mode} (hm : m ≠ .between) (fields : Fields) (xs : List UInt8) :
    ∃ others, ∀ first, skim sep m (fields ++ [first]) xs = Except.map (withFirst first) others := by
  induction xs generalizing m fields with
  | nil =>
    have hlast (field first : List UInt8) : [finished (fields ++ [first]) field] =
        withFirst first (finished fields field, []) := by rw [finished_concat]; rfl
    cases m with
    | between => exact absurd rfl hm
    | quoted field => exact ⟨.error .strayQuote, fun first => rfl⟩
    | before n => exact ⟨.ok (_, []), fun first => congrArg Except.ok (hlast [] first)⟩
    | plain field => exact ⟨.ok (_, []), fun first => congrArg Except.ok (hlast field first)⟩
    | closing field => exact ⟨.ok (_, []), fun first => congrArg Except.ok (hlast field first)⟩
  | cons b rest ih =>
    obtain ⟨e, hstep⟩ | ⟨field, hstep⟩ | ⟨m', new, hm', hstep⟩ := step_within sep hm b rest
    · exact ⟨.error e, fun first => by rw [skim, hstep]; rfl⟩
    · refine ⟨(skim sep .between [] rest).map fun records => (finished fields field, records),
        fun first => ?_⟩
      rw [skim, hstep, bind_ok, finished_concat]
      cases skim sep .between [] rest <;> rfl
    · obtain ⟨others, hothers⟩ := ih hm' (new ++ fields)
      refine ⟨others, fun first => ?_⟩
      rw [skim_silent (hstep _), ← List.append_assoc, hothers]

/-- What has been read of the first field only stands in front of it. -/
theorem skim_plain (xs : List UInt8) : ∃ others, ∀ held, skim sep (.plain held) [] xs =
    Except.map (withFirst (held.reverse ++ firstField sep xs)) others := by
  induction xs with
  | nil =>
    refine ⟨.ok ([], []), fun held => ?_⟩
    simp [skim, close, finished, firstField, withFirst, Except.map]
  | cons b rest ih =>
    by_cases hb : b = lineFeed
    · refine ⟨(skim sep .between [] rest).map fun records => ([], records), fun held => ?_⟩
      rw [firstField_stop (.inl hb), skim, step, if_pos hb, bind_ok]
      cases skim sep .between [] rest <;> simp [finished, withFirst, Except.map]
    by_cases hsep : b = sep
    · obtain ⟨others, hothers⟩ := skim_finished sep (m := .before 0) (by simp) [] rest
      refine ⟨others, fun held => ?_⟩
      have hstep : step sep (.plain held) [] b rest = .ok ([], .before 0, [held.reverse]) := by
        rw [step, if_neg hb, if_pos hsep]
      rw [firstField_stop (.inr hsep), List.append_nil, skim_silent hstep]
      exact hothers held.reverse
    by_cases hquote : b = quote
    · refine ⟨.error .bareQuote, fun held => ?_⟩
      rw [skim, step, if_neg hb, if_neg hsep, if_pos hquote]
      rfl
    · obtain ⟨others, hothers⟩ := ih
      refine ⟨others, fun held => ?_⟩
      rw [skim_silent (step_plain hb hsep hquote held [] rest), hothers, List.reverse_cons,
        List.append_assoc, List.singleton_append, firstField_cons hb hsep]

variable {sep}

/-- A field that is read without quotes holds none. -/
theorem quote_not_mem {held xs : List UInt8} {rs : List (List (List UInt8))}
    (h : skim sep (.plain held) [] xs = .ok rs) : quote ∉ firstField sep xs := by
  induction xs generalizing held with
  | nil => exact List.not_mem_nil
  | cons b rest ih =>
    by_cases hstop : b = lineFeed ∨ b = sep
    · rw [firstField_stop hstop]
      exact List.not_mem_nil
    obtain ⟨hb, hsep⟩ := not_or.mp hstop
    by_cases hquote : b = quote
    · rw [skim, step, if_neg hb, if_neg hsep, if_pos hquote] at h
      cases h
    · rw [skim_silent (step_plain hb hsep hquote held [] rest)] at h
      rw [firstField_cons hb hsep, List.mem_cons, not_or]
      exact ⟨fun heq => hquote heq.symm, ih h⟩

/-- Separators are no white space. -/
theorem ne_of_blank (hsep : sep = comma ∨ sep = semicolon) {b : UInt8} {rest : List UInt8} {n : Nat}
    (h : blankLength b rest = some n) : b ≠ sep := by
  rintro rfl
  obtain rfl | rfl := hsep
  · cases (blankLength_low (by decide) rest).symm.trans h
  · cases (blankLength_low (by decide) rest).symm.trans h

/-- A field without quotes is read as if it had begun before. -/
theorem opening_plain {b : UInt8} {rest : List UInt8} (hb : b ≠ lineFeed)
    (hplain : StartsPlain (b :: rest)) :
    step sep (.plain []) [] b rest = .ok ([], opening sep [] b rest) := by
  obtain ⟨hblank, hquote⟩ := hplain
  rw [step, if_neg hb, opening, hblank]
  dsimp only
  rw [if_neg hquote]
  by_cases hsep : b = sep
  · rw [if_pos hsep, if_neg hquote, if_pos hsep]
    rfl
  · rw [if_neg hsep, if_neg hquote, if_neg hsep]

/-- Where white space has been passed, the first field is no longer than what stands up to the
separator. -/
theorem skim_before (hsep : sep = comma ∨ sep = semicolon) {n : Nat} {xs : List UInt8}
    {rs : List (List (List UInt8))} (hfits : (Mode.before n).Fits xs)
    (hquote : quote ∉ firstField sep xs) (h : skim sep (.before n) [] xs = .ok rs) :
    ∃ first others, rs = withFirst first others ∧ first.length ≤ (firstField sep xs).length := by
  induction xs generalizing n with
  | nil =>
    cases h
    exact ⟨[], ([], []), rfl, Nat.zero_le _⟩
  | cons b rest ih =>
    -- a byte that is passed over makes what stands there longer, and the field stays as it is
    have hpass {k : Nat} (hb : b ≠ lineFeed) (hne : b ≠ sep) (hfits : (Mode.before k).Fits rest)
        (h : skim sep (.before k) [] rest = .ok rs) : ∃ first others,
        rs = withFirst first others ∧ first.length ≤ (firstField sep (b :: rest)).length := by
      rw [firstField_cons hb hne, List.mem_cons, not_or] at hquote
      obtain ⟨first, others, rfl, hle⟩ := ih hfits hquote.2 h
      rw [firstField_cons hb hne]
      exact ⟨first, others, rfl, Nat.le_succ_of_le hle⟩
    cases n with
    | succ n =>
      obtain ⟨hhigh, hrest⟩ := hfits.tail
      rw [skim_silent rfl] at h
      exact hpass (by rintro rfl; cases hhigh) (by rintro rfl; obtain rfl | rfl := hsep <;> cases hhigh)
        hrest h
    | zero =>
      by_cases hb : b = lineFeed
      · rw [skim, step, if_pos hb, bind_ok] at h
        obtain ⟨more, -, rfl⟩ := map_eq_ok.mp h
        exact ⟨[], ([], more), rfl, Nat.zero_le _⟩
      cases hblank : blankLength b rest with
      | some k =>
        have hstep : step sep (.before 0) [] b rest = .ok ([], .before (k - 1), []) := by
          simp [step, hb, opening, hblank]
        rw [skim_silent hstep] at h
        exact hpass hb (ne_of_blank hsep hblank) (blankLength_le hblank) h
      | none =>
        have hplain : StartsPlain (b :: rest) := by
          refine ⟨hblank, ?_⟩
          rintro rfl
          rw [firstField_cons hb (by obtain rfl | rfl := hsep <;> decide)] at hquote
          exact hquote List.mem_cons_self
        have hstep : step sep (.before 0) [] b rest = step sep (.plain []) [] b rest := by
          rw [opening_plain hb hplain, step, if_neg hb]
        obtain ⟨others, hothers⟩ := skim_plain sep (b :: rest)
        rw [skim, hstep, ← skim, hothers] at h
        obtain ⟨other, -, rfl⟩ := map_eq_ok.mp h
        exact ⟨_, other, rfl, Nat.le_refl _⟩

theorem skim_startsPlain {xs : List UInt8} (h : StartsPlain xs) :
    skim sep .between [] xs = skim sep (.plain []) [] xs := by
  cases xs with
  | nil => cases h
  | cons b rest =>
    have hb : b ≠ lineFeed := by
      rintro rfl
      cases (blankLength_low (by decide) rest).symm.trans h.1
    have hstep : step sep .between [] b rest = step sep (.plain []) [] b rest := by
      rw [opening_plain hb h, step, if_neg hb]
    rw [skim, skim, hstep]

theorem encode_mark : String.utf8EncodeChar '\uFEFF' = mark := by decide

theorem blankLength_mark (rest : List UInt8) : blankLength 0xEF (0xBB :: 0xBF :: rest) = none := by
  obtain ⟨a, more, hbytes, hchar⟩ := Text.firstChar_encode '\uFEFF' rest
  rw [encode_mark] at hbytes
  cases hbytes
  have hchar : Text.firstChar 0xEF (0xBB :: 0xBF :: rest) = some ('\uFEFF', 2) := hchar
  rw [blankLength, hchar]
  exact if_neg (by decide)

/-- The mark is read as a part of the first field. -/
theorem skim_mark (hsep : sep = comma ∨ sep = semicolon) (xs : List UInt8) :
    skim sep .between [] (mark ++ xs) = skim sep (.plain mark.reverse) [] xs := by
  have hne (b : UInt8) (hb : Text.isHigh b = true) : b ≠ sep := by
    rintro rfl
    obtain rfl | rfl := hsep <;> cases hb
  have hfirst : step sep .between [] 0xEF (0xBB :: 0xBF :: xs) = .ok ([], .plain [0xEF], []) := by
    rw [step, if_neg (by decide), opening, blankLength_mark]
    dsimp only
    rw [if_neg (by decide), if_neg (hne 0xEF (by decide))]
  calc skim sep .between [] (mark ++ xs)
      = skim sep (.plain [0xEF]) [] (0xBB :: 0xBF :: xs) := skim_silent hfirst
    _ = skim sep (.plain [0xBB, 0xEF]) [] (0xBF :: xs) :=
      skim_silent (step_plain (by decide) (hne 0xBB (by decide)) (by decide) _ _ _)
    _ = skim sep (.plain mark.reverse) [] xs :=
      skim_silent (step_plain (by decide) (hne 0xBF (by decide)) (by decide) _ _ _)

/-- Behind the bytes of a field, a file that does not start plain has one record more, or a longer first
field. -/
theorem skim_differs (hsep : sep = comma ∨ sep = semicolon) {held xs : List UInt8}
    {rs behind : List (List (List UInt8))} (hnot : ¬ StartsPlain xs)
    (h : skim sep .between [] xs = .ok rs) (hbehind : skim sep (.plain held) [] xs = .ok behind) :
    behind.length = rs.length + 1 ∨
      ∃ first others, rs = withFirst first others ∧ first.length < (firstField sep xs).length := by
  cases xs with
  | nil =>
    cases h
    cases hbehind
    exact .inl rfl
  | cons b rest =>
    by_cases hb : b = lineFeed
    · have hstep : step sep .between [] b rest = .ok ([], .between, []) := if_pos hb
      rw [skim_silent hstep] at h
      rw [skim, step, if_pos hb, bind_ok, h] at hbehind
      cases hbehind
      exact .inl rfl
    have hquote := quote_not_mem hbehind
    cases hblank : blankLength b rest with
    | some k =>
      have hne := ne_of_blank hsep hblank
      have hstep : step sep .between [] b rest = .ok ([], .before (k - 1), []) := by
        simp [step, hb, opening, hblank]
      rw [skim_silent hstep] at h
      rw [firstField_cons hb hne] at hquote ⊢
      obtain ⟨first, others, rfl, hle⟩ := skim_before hsep (blankLength_le hblank)
        (fun hmem => hquote (List.mem_cons_of_mem b hmem)) h
      exact .inr ⟨first, others, rfl, Nat.lt_succ_of_le hle⟩
    | none =>
      have hq : b = quote := Decidable.by_contra fun hq => hnot ⟨hblank, hq⟩
      have hne : b ≠ sep := by
        rintro rfl
        obtain rfl | rfl := hsep <;> cases hq
      rw [firstField_cons hb hne, hq] at hquote
      exact absurd List.mem_cons_self hquote

end

/-! ## The mark in front of a file -/

theorem unifyLines_mark (bytes : List UInt8) : unifyLines (mark ++ bytes) = mark ++ unifyLines bytes :=
  (unifyLines_cons (by decide) _).trans (congrArg _ ((unifyLines_cons (by decide) _).trans
    (congrArg _ (unifyLines_cons (by decide) bytes))))

theorem separator_mark (bytes : List UInt8) : separator (mark ++ bytes) = separator bytes := by
  have hline : (mark ++ bytes).takeWhile (· != lineFeed) =
      mark ++ bytes.takeWhile (· != lineFeed) :=
    List.takeWhile_append_of_pos (by simp [mark, lineFeed])
  have hcount (b : UInt8) (hb : mark.count b = 0) (xs : List UInt8) :
      (mark ++ xs).count b = xs.count b := by rw [List.count_append, hb, Nat.zero_add]
  unfold separator
  rw [hline]
  dsimp only
  rw [hcount comma (by decide), hcount semicolon (by decide)]

theorem takeWhile_unifyLines (xs : List UInt8) :
    (unifyLines xs).takeWhile Text.isHigh = xs.takeWhile Text.isHigh := by
  fun_induction unifyLines xs
  case case1 => rfl
  case case2 => rfl
  case case3 => rfl
  case case4 a b rest h ih =>
    obtain ⟨rfl, rfl⟩ := h
    exact ih
  case case5 a b rest h ih =>
    rw [List.takeWhile_cons, ih, List.takeWhile_cons (a := a)]

theorem separator_cases (bytes : List UInt8) : separator bytes = comma ∨ separator bytes = semicolon := by
  unfold separator
  dsimp only
  split
  · exact .inr rfl
  · exact .inl rfl

theorem startsPlain_unifyLines (bytes : List UInt8) :
    StartsPlain (unifyLines bytes) ↔ StartsPlain bytes := by
  have hfeed (rest : List UInt8) : ¬ StartsPlain (lineFeed :: rest) := fun h => by
    cases (blankLength_low (by decide) rest).symm.trans h.1
  have hreturn (rest : List UInt8) : ¬ StartsPlain (carriageReturn :: rest) := fun h => by
    cases (blankLength_low (by decide) rest).symm.trans h.1
  fun_cases unifyLines bytes
  case case1 => exact Iff.rfl
  case case2 => exact iff_of_false id (hreturn [])
  case case3 => exact Iff.rfl
  case case4 a b rest h =>
    obtain ⟨rfl, rfl⟩ := h
    rw [unifyLines_cons (by decide)]
    exact iff_of_false (hfeed _) (hreturn _)
  case case5 a b rest h =>
    rw [StartsPlain, StartsPlain, blankLength_congr (takeWhile_unifyLines (b :: rest))]

theorem dropMark_mark (field : List UInt8) :
    dropMark (Text.ofBytes (mark ++ field)) = Text.ofBytes field := by
  have hchar := Text.ofBytesAfter_encode '\uFEFF' field
  rw [encode_mark] at hchar
  rw [Text.ofBytes, hchar]
  rfl

/-- A text that does not start with the mark stays as it is. -/
theorem dropMark_ofBytes {field : List UInt8} (h : ¬ mark <+: field) :
    dropMark (Text.ofBytes field) = Text.ofBytes field := by
  unfold dropMark
  split
  · next rest heq =>
    refine absurd ⟨Text.bytes rest, ?_⟩ h
    have hbytes := Text.bytes_ofBytes field
    rw [heq] at hbytes
    rw [← hbytes, ← encode_mark]
    rfl
  · rfl

theorem dropMark_length (t : Text) : (dropMark t).bytes.length ≤ t.bytes.length := by
  unfold dropMark
  split
  · next rest =>
    show (Text.bytes rest).length ≤ (String.utf8EncodeChar '\uFEFF' ++ Text.bytes rest).length
    rw [List.length_append]
    exact Nat.le_add_left _ _
  · exact Nat.le_refl _

theorem mark_of_firstField {sep : UInt8} {bytes : List UInt8}
    (h : mark <+: firstField sep (unifyLines bytes)) : mark <+: bytes := by
  obtain ⟨more, hmore⟩ := h.trans (List.takeWhile_prefix _)
  have hhigh := takeWhile_unifyLines bytes
  rw [← hmore, List.takeWhile_append_of_pos (by simp [mark, Text.isHigh])] at hhigh
  exact (List.prefix_append mark _).trans (hhigh ▸ List.takeWhile_prefix _)

/-- Only the first cell depends on the first field. -/
theorem rowsOfRecords_withFirst {first first' : List UInt8}
    (h : dropMark (Text.ofBytes first) = dropMark (Text.ofBytes first'))
    (others : List (List UInt8) × List (List (List UInt8))) :
    rowsOfRecords (withFirst first others) = rowsOfRecords (withFirst first' others) := by
  simp only [rowsOfRecords, withFirst, List.map_cons, rowsOfTexts, h]

theorem dropMark_of_rows {first first' : List UInt8}
    {others others' : List (List UInt8) × List (List (List UInt8))}
    (h : rowsOfRecords (withFirst first others) = rowsOfRecords (withFirst first' others')) :
    dropMark (Text.ofBytes first) = dropMark (Text.ofBytes first') := by
  simp only [rowsOfRecords, withFirst, List.map_cons, rowsOfTexts, List.cons.injEq] at h
  exact congrArg Cell.text h.1.1

theorem recordsWith_mark (bytes : List UInt8) :
    recordsWith (separator (mark ++ bytes)) (mark ++ bytes) =
      skim (separator bytes) (.plain mark.reverse) [] (unifyLines bytes) := by
  rw [separator_mark, recordsWith, unifyLines_mark, skim_mark (separator_cases bytes)]

/-- What the byte order mark does to a file that has none. If the first character of the file is there,
and neither white space nor a quote, then the file is read as before, and refused for the same reason
as before. Otherwise it is never read as the same rows, and if it starts with a quote it is refused. -/
theorem read_mark {bytes : List UInt8} (h : ¬ mark <+: bytes) :
    (StartsPlain bytes →
      (read (mark ++ bytes)).mapError Error.fault = (read bytes).mapError Error.fault) ∧
    (∀ rows, ¬ StartsPlain bytes → read bytes = .ok rows → read (mark ++ bytes) ≠ .ok rows) ∧
    ∀ rest, bytes = quote :: rest →
      (read (mark ++ bytes)).mapError Error.fault = .error .bareQuote := by
  have hsep := separator_cases bytes
  obtain ⟨others, hothers⟩ := skim_plain (separator bytes) (unifyLines bytes)
  refine ⟨fun hplain => ?_, fun rows hnot hread hsame => ?_, ?_⟩
  · have hfirst : dropMark (Text.ofBytes (mark ++ firstField (separator bytes) (unifyLines bytes))) =
        dropMark (Text.ofBytes (firstField (separator bytes) (unifyLines bytes))) :=
      (dropMark_mark _).trans (dropMark_ofBytes (mt mark_of_firstField h)).symm
    rw [read_fault, read_fault, recordsWith_mark, recordsWith,
      skim_startsPlain ((startsPlain_unifyLines bytes).mpr hplain), hothers, hothers]
    cases others with
    | error e => rfl
    | ok others => exact congrArg Except.ok (rowsOfRecords_withFirst hfirst others)
  · obtain ⟨rs, hrs, rfl⟩ := read_eq_ok.mp hread
    obtain ⟨marked, hmarked, hrows⟩ := read_eq_ok.mp hsame
    rw [recordsWith_mark] at hmarked
    obtain hmore | ⟨first, more, rfl, hlt⟩ :=
      skim_differs hsep (mt (startsPlain_unifyLines bytes).mp hnot) hrs hmarked
    · have hlength := congrArg List.length hrows
      rw [rowsOfRecords_length, rowsOfRecords_length] at hlength
      omega
    · rw [hothers] at hmarked
      obtain ⟨others, -, rfl⟩ := map_eq_ok.mp hmarked
      have hcell := dropMark_of_rows hrows
      have hle := dropMark_length (Text.ofBytes first)
      rw [← hcell, List.reverse_reverse, dropMark_mark, Text.bytes_ofBytes, Text.bytes_ofBytes] at hle
      omega
  · rintro rest rfl
    rw [read_fault, recordsWith_mark, unifyLines_cons (by decide), skim, step, if_neg (by decide),
      if_neg (separator_ne_quote _).symm, if_pos rfl]
    rfl

/-- A header with a quoted field behind the first one. -/
def plainHeader : List UInt8 := Text.bytes "Marque;\"Noir\"\n"

theorem plainHeader_marked :
    ¬ mark <+: plainHeader ∧ StartsPlain plainHeader ∧
      read (mark ++ plainHeader) = .ok [[Cell.ofText "Marque", Cell.ofText "Noir"]] := by
  have hmark : ¬ mark <+: plainHeader := by decide +kernel
  have hplain : StartsPlain plainHeader := ⟨by decide +kernel, by decide +kernel⟩
  have hread : read plainHeader = .ok [[Cell.ofText "Marque", Cell.ofText "Noir"]] :=
    toOption_eq_some.mp (by decide +kernel)
  have hmarked := (read_mark hmark).1 hplain
  rw [hread] at hmarked
  exact ⟨hmark, hplain, mapError_eq_ok.mp hmarked⟩

/-- A line with a quoted first field. -/
def quotedLine : List UInt8 := Text.bytes "\"a\",b\n"

/-- It is read without the mark, and refused behind it. -/
theorem quotedLine_refused :
    ¬ mark <+: quotedLine ∧ read quotedLine = .ok [[Cell.ofText "a", Cell.ofText "b"]] ∧
      (read (mark ++ quotedLine)).toOption = none :=
  ⟨by decide +kernel, toOption_eq_some.mp (by decide +kernel), by decide +kernel⟩

end Stockroom.Csv

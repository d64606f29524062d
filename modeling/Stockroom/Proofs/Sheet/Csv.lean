import Stockroom.Proofs.Outcome
import Stockroom.Proofs.Text.Utf8
import Stockroom.Sheet.Csv

/-!
How a file of separated values falls apart into records. The scanner is said once more without the
places that it reports faults at: one byte after the other, each with the records that it ends. A file
that is cut where a line starts outside quotes is read as its two parts.

Main definitions and statements:
* `step`, `skim`, `scan_skim`: the scanner without places;
* `Mode.inQuotes`, `Turns`, `step_turns`: where the scanner is, from the bytes alone;
* `skim_append`: a file that is cut between records;
* `skim_lineFeed`: the end of the last line does not matter;
* `unifyLines_append`, `count_unifyLines`: unified line ends.
-/
namespace Stockroom.Csv
set_option autoImplicit false

/-! ## The scanner without places -/

/-- The finished fields of a record, back to front. -/
abbrev Fields := List (List UInt8)

/-- The record that ends with a field. -/
def finished (fields : Fields) (field : List UInt8) : List (List UInt8) :=
  (field.reverse :: fields).reverse

/-- Mode and fields after a byte with which a field may start. -/
def opening (sep : UInt8) (fields : Fields) (b : UInt8) (rest : List UInt8) : Mode × Fields :=
  match blankLength b rest with
  | some n => (.before (n - 1), fields)
  | none =>
    if b = quote then (.quoted [], fields)
    else if b = sep then (.before 0, [] :: fields)
    else (.plain [b], fields)

/-- What one byte does: the records that it ends, and mode and fields after it. -/
def step (sep : UInt8) : Mode → Fields → UInt8 → List UInt8 →
    Except Fault (List (List (List UInt8)) × Mode × Fields)
  | .between, _, b, rest =>
    if b = lineFeed then .ok ([], .between, []) else .ok ([], opening sep [] b rest)
  | .before (n + 1), fields, _, _ => .ok ([], .before n, fields)
  | .before 0, fields, b, rest =>
    if b = lineFeed then .ok ([finished fields []], .between, [])
    else .ok ([], opening sep fields b rest)
  | .plain field, fields, b, _ =>
    if b = lineFeed then .ok ([finished fields field], .between, [])
    else if b = sep then .ok ([], .before 0, field.reverse :: fields)
    else if b = quote then .error .bareQuote
    else .ok ([], .plain (b :: field), fields)
  | .quoted field, fields, b, _ =>
    if b = quote then .ok ([], .closing field, fields) else .ok ([], .quoted (b :: field), fields)
  | .closing field, fields, b, _ =>
    if b = lineFeed then .ok ([finished fields field], .between, [])
    else if b = quote then .ok ([], .quoted (b :: field), fields)
    else if b = sep then .ok ([], .before 0, field.reverse :: fields)
    else .error .strayQuote

/-- What the end of the bytes does. -/
def close : Mode → Fields → Except Fault (List (List (List UInt8)))
  | .between, _ => .ok []
  | .before _, fields => .ok [finished fields []]
  | .plain field, fields => .ok [finished fields field]
  | .quoted _, _ => .error .strayQuote
  | .closing field, fields => .ok [finished fields field]

/-- The records of bytes, byte by byte. -/
def skim (sep : UInt8) : Mode → Fields → List UInt8 → Except Fault (List (List (List UInt8)))
  | m, fields, [] => close m fields
  | m, fields, b :: rest =>
    (step sep m fields b rest).bind fun s => (skim sep s.2.1 s.2.2 rest).map (s.1 ++ ·)

section
variable {ε ε' α β : Type}

@[simp] theorem bind_ok (a : α) (f : α → Except ε β) : (Except.ok a : Except ε α).bind f = f a := rfl

@[simp] theorem bind_error (e : ε) (f : α → Except ε β) :
    (Except.error e : Except ε α).bind f = .error e := rfl

@[simp] theorem mapError_ok (a : α) (f : ε → ε') :
    (Except.ok a : Except ε α).mapError f = .ok a := rfl

@[simp] theorem mapError_error (e : ε) (f : ε → ε') :
    (Except.error e : Except ε α).mapError f = .error (f e) := rfl

@[simp] theorem mapError_map (x : Except ε α) (f : ε → ε') (g : α → β) :
    (x.map g).mapError f = (x.mapError f).map g := by
  cases x <;> rfl

@[simp] theorem map_same (x : Except ε α) : x.map (fun a => a) = x := by
  cases x <;> rfl

end

@[simp] theorem skim_between (sep : UInt8) (fields : Fields) (xs : List UInt8) :
    skim sep .between fields xs = skim sep .between [] xs := by
  cases xs <;> rfl

/-- A byte that ends no record. -/
theorem skim_silent {sep : UInt8} {m m' : Mode} {fields fields' : Fields} {b : UInt8}
    {rest : List UInt8} (h : step sep m fields b rest = .ok ([], m', fields')) :
    skim sep m fields (b :: rest) = skim sep m' fields' rest := by
  rw [skim, h, bind_ok]
  exact map_same _

/-- What is read goes through its first byte. -/
theorem skim_cons_eq_ok {sep : UInt8} {m : Mode} {fields : Fields} {b : UInt8} {rest : List UInt8}
    {rs : List (List (List UInt8))} (h : skim sep m fields (b :: rest) = .ok rs) :
    ∃ ended m' fields' more, step sep m fields b rest = .ok (ended, m', fields') ∧
      skim sep m' fields' rest = .ok more ∧ rs = ended ++ more := by
  rw [skim] at h
  cases hstep : step sep m fields b rest with
  | error e =>
    rw [hstep] at h
    cases h
  | ok s =>
    obtain ⟨ended, m', fields'⟩ := s
    rw [hstep] at h
    obtain ⟨more, hmore, rfl⟩ := map_eq_ok.mp h
    exact ⟨ended, m', fields', more, rfl, hmore, rfl⟩

theorem opening_openField (sep : UInt8) (p : Place) (b : UInt8) (rest : List UInt8) :
    opening sep p.fields b rest = ((openField sep p b rest).1, (openField sep p b rest).2.fields) := by
  unfold opening openField
  cases blankLength b rest with
  | some n => rfl
  | none =>
    dsimp only
    split
    · rfl
    · split <;> rfl

theorem record_eq (p : Place) (field : List UInt8) : p.record field = finished p.fields field := rfl

/-- Only the fields of a place matter for what is read, and for what is wrong. -/
theorem scan_skim (sep : UInt8) (m : Mode) (p : Place) (xs : List UInt8) :
    (scan sep m p xs).mapError Error.fault = skim sep m p.fields xs := by
  have hdown (p : Place) : p.down.fields = p.fields := rfl
  fun_induction scan sep m p xs
  -- a record begins with no fields, whatever those of the place are
  case case7 p b rest hb ih =>
    have hopen : opening sep [] b rest = _ := opening_openField sep p.begin b rest
    simp [skim, step, hb, ih, hopen]
  all_goals
    simp_all [skim, step, close, record_eq, opening_openField, Place.right, Place.add, Place.error]

/-! ## Where the scanner is -/

/-- Whether a quoted field is open. -/
def Mode.inQuotes : Mode → Bool
  | .quoted _ => true
  | _ => false

/-- The bytes to come belong to the character that is being passed. -/
def Mode.Fits (m : Mode) (bs : List UInt8) : Prop :=
  match m with
  | .before n => n ≤ (bs.takeWhile Text.isHigh).length
  | _ => True

/-- A byte that is passed is no character of its own. -/
theorem Mode.Fits.tail {n : Nat} {b : UInt8} {rest : List UInt8}
    (h : (Mode.before (n + 1)).Fits (b :: rest)) :
    Text.isHigh b = true ∧ (Mode.before n).Fits rest := by
  cases hb : Text.isHigh b with
  | true =>
    rw [Fits, List.takeWhile_cons_of_pos hb, List.length_cons] at h
    exact ⟨rfl, Nat.le_of_succ_le_succ h⟩
  | false =>
    rw [Fits, List.takeWhile_cons_of_neg (by simp [hb])] at h
    exact absurd h (Nat.not_succ_le_zero n)

theorem not_isHigh_lineFeed : Text.isHigh lineFeed = false := by decide

theorem not_isHigh_quote : Text.isHigh quote = false := by decide

theorem blankLength_low {b : UInt8} (hb : b < 0x80) (rest : List UInt8) :
    blankLength b rest = if isBlankChar (Char.ofNat b.toNat) then some 1 else none := by
  have hchar : Text.firstChar b rest = some (Char.ofNat b.toNat, 0) := by
    unfold Text.firstChar
    exact if_pos hb
  rw [blankLength, hchar]

theorem blankLength_quote (rest : List UInt8) : blankLength quote rest = none :=
  blankLength_low (by decide) rest

theorem blankLength_congr {b : UInt8} {rest rest' : List UInt8}
    (h : rest.takeWhile Text.isHigh = rest'.takeWhile Text.isHigh) :
    blankLength b rest = blankLength b rest' := by
  rw [blankLength, blankLength, ← Text.firstChar_takeWhile, h, Text.firstChar_takeWhile]

theorem blankLength_le {b : UInt8} {rest : List UInt8} {n : Nat} (h : blankLength b rest = some n) :
    n - 1 ≤ (rest.takeWhile Text.isHigh).length := by
  unfold blankLength at h
  split at h
  · next hchar =>
    have hlength := Text.firstChar_length hchar
    split at h
    · cases h
      omega
    · cases h
  · cases h

/-- A byte says what it does but for the rest of its character. -/
theorem step_congr (sep : UInt8) (m : Mode) (fields : Fields) {b : UInt8} {rest rest' : List UInt8}
    (h : b = lineFeed ∨ rest.takeWhile Text.isHigh = rest'.takeWhile Text.isHigh) :
    step sep m fields b rest = step sep m fields b rest' := by
  have hopening (fields : Fields) (hb : b ≠ lineFeed) :
      opening sep fields b rest = opening sep fields b rest' := by
    rw [opening, opening, blankLength_congr (h.resolve_left hb)]
  cases m with
  | between =>
    by_cases hb : b = lineFeed
    · simp [step, hb]
    · simp [step, hb, hopening [] hb]
  | before n =>
    cases n with
    | zero =>
      by_cases hb : b = lineFeed
      · simp [step, hb]
      · simp [step, hb, hopening fields hb]
    | succ n => rfl
  | plain field => rfl
  | quoted field => rfl
  | closing field => rfl

/-- How a field starts. -/
theorem opening_cases (sep : UInt8) (fields : Fields) (b : UInt8) (rest : List UInt8) :
    (∃ n, b ≠ quote ∧ n ≤ (rest.takeWhile Text.isHigh).length ∧
      opening sep fields b rest = (.before n, fields)) ∨
    (b = quote ∧ opening sep fields b rest = (.quoted [], fields)) ∨
    (b ≠ quote ∧ b = sep ∧ opening sep fields b rest = (.before 0, [] :: fields)) ∨
    (b ≠ quote ∧ b ≠ sep ∧ opening sep fields b rest = (.plain [b], fields)) := by
  unfold opening
  cases hblank : blankLength b rest with
  | some n =>
    refine .inl ⟨n - 1, ?_, blankLength_le hblank, rfl⟩
    rintro rfl
    rw [blankLength_quote] at hblank
    cases hblank
  | none =>
    by_cases hquote : b = quote
    · exact .inr (.inl ⟨hquote, if_pos hquote⟩)
    by_cases hsep : b = sep
    · refine .inr (.inr (.inl ⟨hquote, hsep, ?_⟩))
      dsimp only
      rw [if_neg hquote, if_pos hsep]
    · exact .inr (.inr (.inr ⟨hquote, hsep, by simp [hquote, hsep]⟩))

/-- The number of records that have begun and not ended. -/
def Mode.pending (m : Mode) : Nat := if m = .between then 0 else 1

/-- What a byte does to where the scanner is. -/
structure Turns (m : Mode) (b : UInt8) (rest : List UInt8) (ended : Nat) (m' : Mode) : Prop where
  fits : m'.Fits rest
  inQuotes : m'.inQuotes = (m.inQuotes ^^ b == quote)
  between : m' = .between ↔ b = lineFeed ∧ m.inQuotes = false
  count : ended + m'.pending = m.pending + if m = .between ∧ b ≠ lineFeed then 1 else 0

theorem opening_turns (sep : UInt8) {m : Mode} (fields : Fields) {b : UInt8} (rest : List UInt8)
    (hb : b ≠ lineFeed) (hm : m = .between ∨ m = .before 0) :
    Turns m b rest 0 (opening sep fields b rest).1 := by
  have hquotes : m.inQuotes = false := by
    obtain rfl | rfl := hm <;> rfl
  have hpending : m.pending + (if m = .between ∧ b ≠ lineFeed then 1 else 0) = 1 := by
    obtain rfl | rfl := hm <;> simp [Mode.pending, hb]
  obtain ⟨n, hquote, hn, h⟩ | ⟨hquote, h⟩ | ⟨hquote, hsep, h⟩ | ⟨hquote, hsep, h⟩ :=
    opening_cases sep fields b rest
  all_goals
    rw [h]
    refine ⟨?_, ?_, ?_, ?_⟩
  all_goals simp_all [Mode.Fits, Mode.inQuotes, Mode.pending]

theorem step_turns {sep : UInt8} (hsep : sep ≠ quote) {m m' : Mode} {fields fields' : Fields}
    {b : UInt8} {rest : List UInt8} {ended : List (List (List UInt8))} (hfits : m.Fits (b :: rest))
    (h : step sep m fields b rest = .ok (ended, m', fields')) : Turns m b rest ended.length m' := by
  have hquote : lineFeed ≠ quote := by decide
  have hstart (fields : Fields) (hb : b ≠ lineFeed) (hm : m = .between ∨ m = .before 0)
      (h : (Except.ok ([], opening sep fields b rest) : Except Fault _) = .ok (ended, m', fields')) :
      Turns m b rest ended.length m' := by
    obtain ⟨rfl, hopening⟩ := Prod.mk.inj (Except.ok.inj h)
    have hturns := opening_turns sep fields rest hb hm
    rwa [hopening] at hturns
  cases m with
  | between =>
    rw [step] at h
    split at h
    · next hb =>
      cases h
      constructor <;> simp [Mode.Fits, Mode.inQuotes, Mode.pending, hb, hquote]
    · next hb => exact hstart [] hb (.inl rfl) h
  | before n =>
    cases n with
    | zero =>
      rw [step] at h
      split at h
      · next hb =>
        cases h
        constructor <;> simp [Mode.Fits, Mode.inQuotes, Mode.pending, hb, hquote]
      · next hb => exact hstart fields hb (.inr rfl) h
    | succ n =>
      cases h
      obtain ⟨hhigh, hrest⟩ := hfits.tail
      have hb : b ≠ lineFeed := fun hb => by simp [hb, not_isHigh_lineFeed] at hhigh
      have hq : b ≠ quote := fun hq => by simp [hq, not_isHigh_quote] at hhigh
      refine ⟨hrest, ?_, ?_, ?_⟩ <;> simp [Mode.inQuotes, Mode.pending, hb, hq]
  | plain field =>
    rw [step] at h
    split at h
    · next hb =>
      cases h
      constructor <;> simp [Mode.Fits, Mode.inQuotes, Mode.pending, hb, hquote]
    split at h
    · next hb hb' =>
      cases h
      constructor <;> simp_all [Mode.Fits, Mode.inQuotes, Mode.pending]
    split at h
    · cases h
    · cases h
      constructor <;> simp_all [Mode.Fits, Mode.inQuotes, Mode.pending]
  | quoted field =>
    rw [step] at h
    split at h
    · cases h
      constructor <;> simp_all [Mode.Fits, Mode.inQuotes, Mode.pending]
    · cases h
      constructor <;> simp_all [Mode.Fits, Mode.inQuotes, Mode.pending]
  | closing field =>
    rw [step] at h
    split at h
    · next hb =>
      cases h
      constructor <;> simp [Mode.Fits, Mode.inQuotes, Mode.pending, hb, hquote]
    split at h
    · cases h
      constructor <;> simp_all [Mode.Fits, Mode.inQuotes, Mode.pending]
    split at h
    · cases h
      constructor <;> simp_all [Mode.Fits, Mode.inQuotes, Mode.pending]
    · cases h

/-! ## Cutting between records -/

/-- The bytes are whole lines, or none. -/
def Whole (bs : List UInt8) : Prop := bs = [] ∨ ∃ init, bs = init ++ [lineFeed]

theorem whole_nil : Whole [] := .inl rfl

theorem whole_concat (init : List UInt8) : Whole (init ++ [lineFeed]) := .inr ⟨init, rfl⟩

/-- After the first byte of whole lines, either nothing is left or a line end is still to come. -/
theorem Whole.tail {b : UInt8} {rest : List UInt8} (h : Whole (b :: rest)) :
    (b = lineFeed ∧ rest = []) ∨ ∃ init, rest = init ++ [lineFeed] := by
  obtain h | ⟨init, h⟩ := h
  · cases h
  cases init with
  | nil =>
    cases h
    exact .inl ⟨rfl, rfl⟩
  | cons c init =>
    cases h
    exact .inr ⟨init, rfl⟩

theorem takeWhile_lineFeed (xs ys : List UInt8) :
    (xs ++ lineFeed :: ys).takeWhile Text.isHigh = xs.takeWhile Text.isHigh := by
  have hstop : (lineFeed :: ys).takeWhile Text.isHigh = [] :=
    List.takeWhile_cons_of_neg (by simp [not_isHigh_lineFeed])
  induction xs with
  | nil => exact hstop
  | cons b xs ih =>
    rw [List.cons_append]
    cases hb : Text.isHigh b with
    | true => rw [List.takeWhile_cons_of_pos hb, List.takeWhile_cons_of_pos hb, ih]
    | false =>
      have hnot : ¬ Text.isHigh b = true := by simp [hb]
      rw [List.takeWhile_cons_of_neg hnot, List.takeWhile_cons_of_neg hnot]

/-- The bytes hold the quotes that a mode waits for. -/
def Mode.Closes (m : Mode) (bs : List UInt8) : Prop :=
  bs.count quote % 2 = if m.inQuotes then 1 else 0

theorem Turns.closes {m m' : Mode} {b : UInt8} {rest : List UInt8} {ended : Nat}
    (h : Turns m b rest ended m') (hm : m.Closes (b :: rest)) : m'.Closes rest := by
  unfold Mode.Closes at *
  rw [h.inQuotes]
  rw [List.count_cons] at hm
  cases hq : m.inQuotes <;> cases hb : b == quote <;> simp [hq, hb] at hm ⊢ <;> omega

/-- A file that is cut where a line starts outside quotes is read as its two parts. -/
theorem skim_append {sep : UInt8} (hsep : sep ≠ quote) {m : Mode} {xs : List UInt8}
    (hfits : m.Fits xs) (hcloses : m.Closes xs) (hwhole : Whole xs) (hm : xs = [] → m = .between)
    (fields : Fields) (ys : List UInt8) :
    skim sep m fields (xs ++ ys) =
      (skim sep m fields xs).bind fun rs => (skim sep .between [] ys).map (rs ++ ·) := by
  induction xs generalizing m fields with
  | nil =>
    rw [hm rfl]
    simp [skim, close]
  | cons b rest ih =>
    have hahead : b = lineFeed ∨
        (rest ++ ys).takeWhile Text.isHigh = rest.takeWhile Text.isHigh := by
      obtain ⟨hb, -⟩ | ⟨init, rfl⟩ := hwhole.tail
      · exact .inl hb
      · rw [List.append_assoc, List.singleton_append, takeWhile_lineFeed, takeWhile_lineFeed]
        exact .inr rfl
    rw [List.cons_append, skim, skim, step_congr sep m fields hahead]
    cases hstep : step sep m fields b rest with
    | error e => rfl
    | ok s =>
      obtain ⟨ended, m', fields'⟩ := s
      have hturns := step_turns hsep hfits hstep
      have hcloses' := hturns.closes hcloses
      have hwhole' : Whole rest := by
        obtain ⟨-, rfl⟩ | ⟨init, rfl⟩ := hwhole.tail
        · exact whole_nil
        · exact whole_concat init
      -- the last line end is not within quotes, as these are closed
      have hend : rest = [] → m' = .between := by
        rintro rfl
        obtain ⟨rfl, -⟩ | ⟨init, hinit⟩ := hwhole.tail
        · refine hturns.between.mpr ⟨rfl, ?_⟩
          cases hq : m.inQuotes with
          | false => rfl
          | true =>
            rw [Mode.Closes, hq] at hcloses
            revert hcloses
            decide
        · simp at hinit
      simp only [bind_ok, ih hturns.fits hcloses' hwhole' hend]
      cases skim sep m' fields' rest with
      | error e => rfl
      | ok rs => cases skim sep .between [] ys <;> simp [Except.map]

/-- A line end at the very end does not matter. -/
theorem skim_lineFeed {sep : UInt8} {m : Mode} {fields : Fields} {xs : List UInt8}
    {rs : List (List (List UInt8))} (h : skim sep m fields xs = .ok rs) :
    skim sep m fields (xs ++ [lineFeed]) = .ok rs := by
  induction xs generalizing m fields rs with
  | nil =>
    cases m with
    | between => exact h
    | before n => cases n <;> exact h
    | plain field => exact h
    | quoted field => cases h
    | closing field => exact h
  | cons b rest ih =>
    obtain ⟨ended, m', fields', more, hstep, hmore, rfl⟩ := skim_cons_eq_ok h
    rw [List.cons_append, skim, step_congr sep m fields (.inr (takeWhile_lineFeed rest [])), hstep]
    exact map_eq_ok.mpr ⟨more, ih hmore, rfl⟩

/-! ## Unified line ends -/

theorem unifyLines_cons {b : UInt8} (hb : b ≠ carriageReturn) (rest : List UInt8) :
    unifyLines (b :: rest) = b :: unifyLines rest := by
  cases rest with
  | nil => simp [unifyLines, hb]
  | cons c rest => simp [unifyLines, hb]

/-- Line ends are unified line by line; a carriage return at the end of a line goes either way. -/
theorem unifyLines_lineFeed (xs ys : List UInt8) :
    unifyLines (xs ++ lineFeed :: ys) = unifyLines xs ++ lineFeed :: unifyLines ys := by
  have hfeed : lineFeed ≠ carriageReturn := by decide
  fun_induction unifyLines xs
  case case1 => exact unifyLines_cons hfeed ys
  case case2 => simp [unifyLines, unifyLines_cons hfeed]
  case case3 b hb => simp [unifyLines_cons hb, unifyLines_cons hfeed]
  case case4 a b rest h ih =>
    rw [← ih]
    simp [unifyLines, h]
  case case5 a b rest h ih =>
    show _ = a :: (unifyLines (b :: rest) ++ lineFeed :: unifyLines ys)
    rw [← ih, List.cons_append, List.cons_append, unifyLines, if_neg h]

theorem unifyLines_append {xs : List UInt8} (h : Whole xs) (ys : List UInt8) :
    unifyLines (xs ++ ys) = unifyLines xs ++ unifyLines ys := by
  obtain rfl | ⟨init, rfl⟩ := h
  · rfl
  · rw [List.append_assoc, List.singleton_append, unifyLines_lineFeed, unifyLines_lineFeed,
      List.append_assoc]
    rfl

theorem Whole.unifyLines {xs : List UInt8} (h : Whole xs) : Whole (unifyLines xs) := by
  obtain rfl | ⟨init, rfl⟩ := h
  · exact whole_nil
  · rw [unifyLines_lineFeed]
    exact whole_concat _

theorem count_unifyLines {b : UInt8} (hb : b ≠ carriageReturn) (xs : List UInt8) :
    (unifyLines xs).count b = xs.count b := by
  have hne : ¬ carriageReturn = b := fun h => hb h.symm
  fun_induction unifyLines xs <;> simp_all [List.count_cons]

/-! ## Files -/

/-- The records of a file whose fields stand between given separators. -/
def recordsWith (sep : UInt8) (bytes : List UInt8) : Except Fault (List (List (List UInt8))) :=
  skim sep .between [] (unifyLines bytes)

/-- Records as rows of cells. -/
def rowsOfRecords (records : List (List (List UInt8))) : List Row :=
  rowsOfTexts (records.map fun r => r.map Text.ofBytes)

theorem rowsOfRecords_length (records : List (List (List UInt8))) :
    (rowsOfRecords records).length = records.length := by
  match records with
  | [] => rfl
  | [] :: rest => simp [rowsOfRecords, rowsOfTexts]
  | (first :: more) :: rest => simp [rowsOfRecords, rowsOfTexts]

theorem separator_ne_quote (bytes : List UInt8) : separator bytes ≠ quote := by
  unfold separator
  dsimp only
  split <;> decide

theorem records_fault (bytes : List UInt8) :
    (records bytes).mapError Error.fault = recordsWith (separator bytes) bytes :=
  scan_skim _ _ _ _

theorem mapError_eq_ok {ε ε' α : Type} {x : Except ε α} {f : ε → ε'} {a : α} :
    x.mapError f = .ok a ↔ x = .ok a := by
  cases x <;> simp

theorem read_fault (bytes : List UInt8) : (read bytes).mapError Error.fault =
    (recordsWith (separator bytes) bytes).map rowsOfRecords := by
  rw [read, mapError_map, records_fault]
  rfl

/-- A file is read when its records are. -/
theorem read_eq_ok {bytes : List UInt8} {rows : List Row} : read bytes = .ok rows ↔
    ∃ rs, recordsWith (separator bytes) bytes = .ok rs ∧ rowsOfRecords rs = rows := by
  rw [← mapError_eq_ok (f := Error.fault), read_fault, map_eq_ok]

/-- A file that is cut where a line starts outside quotes. -/
theorem recordsWith_append {sep : UInt8} (hsep : sep ≠ quote) {above : List UInt8}
    (hwhole : Whole above) (hquotes : above.count quote % 2 = 0) (below : List UInt8) :
    recordsWith sep (above ++ below) =
      (recordsWith sep above).bind fun rs => (recordsWith sep below).map (rs ++ ·) := by
  have hcloses : Mode.between.Closes (unifyLines above) := by
    rw [Mode.Closes, count_unifyLines (by decide)]
    exact hquotes
  rw [recordsWith, unifyLines_append hwhole]
  exact skim_append (m := .between) hsep trivial hcloses hwhole.unifyLines (fun _ => rfl) [] _

end Stockroom.Csv

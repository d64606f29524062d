import Stockroom.Proofs.Sheet.Csv

/-!
The lines of a file on which its records begin. A record begins on every line that is not empty and
does not start within quotes, and on no other line. So the number of a record falls behind the number of
its line with every empty line and with every line end in quotes above it.

Main definitions and statements:
* `lines`, `beginnings`: the lines of a file, and how many records begin on them;
* `recordsWith_length`: a file has as many records as begin on its lines;
* `BeginsOn`: the line on which the record with a number begins;
* `exists_beginsOn`, `BeginsOn.unique`: every record has one such line;
* `BeginsOn.number_eq`, `BeginsOn.eq_iff`: what the number says about the line.
-/
namespace Stockroom.Csv
set_option autoImplicit false

/-! ## Lines -/

/-- The lines of a file, each with its end. -/
def lines : List UInt8 → List (List UInt8)
  | [] => []
  | b :: rest =>
    if b = lineFeed then [b] :: lines rest
    else match lines rest with
      | [] => [[b]]
      | line :: more => (b :: line) :: more

theorem lines_lineFeed (rest : List UInt8) : lines (lineFeed :: rest) = [lineFeed] :: lines rest := by
  rw [lines, if_pos rfl]

theorem lines_cons_cons (b : UInt8) (rest : List UInt8) :
    ∃ line more, lines (b :: rest) = (b :: line) :: more := by
  unfold lines
  split
  · exact ⟨[], lines rest, rfl⟩
  · split
    · exact ⟨[], [], rfl⟩
    · next line more _ => exact ⟨line, more, rfl⟩

theorem lines_cons {b : UInt8} (hb : b ≠ lineFeed) {rest line : List UInt8}
    {more : List (List UInt8)} (h : lines rest = line :: more) :
    lines (b :: rest) = (b :: line) :: more := by
  rw [lines, if_neg hb, h]

theorem lines_append {above : List UInt8} (h : Whole above) (below : List UInt8) :
    lines (above ++ below) = lines above ++ lines below := by
  induction above with
  | nil => rfl
  | cons b above ih =>
    rw [List.cons_append]
    obtain ⟨rfl, rfl⟩ | ⟨init, rfl⟩ := h.tail
    · rw [List.nil_append, lines_lineFeed]
      rfl
    have ih := ih (whole_concat init)
    by_cases hb : b = lineFeed
    · rw [hb, lines_lineFeed, lines_lineFeed, ih]
      rfl
    · obtain ⟨line, more, hlines⟩ : ∃ line more, lines (init ++ [lineFeed]) = line :: more := by
        cases init with
        | nil => exact ⟨_, _, lines_lineFeed []⟩
        | cons c init =>
          obtain ⟨line, more, hlines⟩ := lines_cons_cons c (init ++ [lineFeed])
          exact ⟨_, _, hlines⟩
      rw [hlines] at ih
      rw [lines_cons hb ih, lines_cons hb hlines]
      rfl

/-- Between any two lines a file is cut into whole lines and the rest. -/
theorem exists_cut {bytes line : List UInt8} {before after : List (List UInt8)}
    (h : lines bytes = before ++ line :: after) :
    ∃ above below, bytes = above ++ below ∧ Whole above ∧ lines above = before ∧
      lines below = line :: after := by
  induction bytes generalizing before line with
  | nil => simp [lines] at h
  | cons b rest ih =>
    cases before with
    | nil => exact ⟨[], b :: rest, rfl, whole_nil, rfl, h⟩
    | cons first before =>
      by_cases hb : b = lineFeed
      · rw [hb, lines_lineFeed] at h
        obtain ⟨rfl, hrest⟩ := List.cons.inj h
        obtain ⟨above, below, rfl, hwhole, habove, hbelow⟩ := ih hrest
        refine ⟨lineFeed :: above, below, by rw [hb]; rfl, ?_, ?_, hbelow⟩
        · obtain rfl | ⟨init, rfl⟩ := hwhole
          · exact whole_concat []
          · exact whole_concat (lineFeed :: init)
        · rw [lines_lineFeed, habove]
      · rw [lines, if_neg hb] at h
        cases hlines : lines rest with
        | nil => simp [hlines] at h
        | cons next more =>
          rw [hlines] at h
          obtain ⟨rfl, rfl⟩ := List.cons.inj h
          obtain ⟨above, below, rfl, hwhole, habove, hbelow⟩ :=
            ih (show lines rest = (next :: before) ++ line :: after from hlines)
          refine ⟨b :: above, below, rfl, ?_, lines_cons hb habove, hbelow⟩
          obtain rfl | ⟨init, rfl⟩ := hwhole
          · cases habove
          · exact whole_concat (b :: init)

theorem length_lines {above : List UInt8} (h : Whole above) :
    (lines above).length = above.count lineFeed := by
  induction above with
  | nil => rfl
  | cons b above ih =>
    obtain ⟨rfl, rfl⟩ | ⟨init, rfl⟩ := h.tail
    · rfl
    have ih := ih (whole_concat init)
    by_cases hb : b = lineFeed
    · rw [hb, lines_lineFeed, List.length_cons, ih, List.count_cons_self]
    · cases hlines : lines (init ++ [lineFeed]) with
      | nil =>
        rw [hlines] at ih
        simp at ih
      | cons line more =>
        rw [hlines] at ih
        rw [lines_cons hb hlines, List.count_cons_of_ne hb, ← ih]
        rfl

theorem flatten_lines (bytes : List UInt8) : (lines bytes).flatten = bytes := by
  induction bytes with
  | nil => rfl
  | cons b rest ih =>
    unfold lines
    split
    · rw [List.flatten_cons, ih]
      rfl
    · split
      · next hlines =>
        rw [hlines] at ih
        rw [← ih]
        rfl
      · next line more hlines =>
        rw [hlines] at ih
        rw [← ih]
        rfl

/-! ## Where records begin -/

/-- A line has nothing but its end. -/
def holdsNothing (line : List UInt8) : Bool :=
  unifyLines line == [] || unifyLines line == [lineFeed]

/-- Whether bytes hold an odd number of quotes. -/
def oddQuotes (bytes : List UInt8) : Bool := bytes.count quote % 2 == 1

/-- How many records begin on given lines, the first of which starts within quotes or not. None begins
on an empty line, and none on a line that starts within quotes. -/
def beginnings (within : Bool) : List (List UInt8) → Nat
  | [] => 0
  | line :: rest =>
    (if within || holdsNothing line then 0 else 1) + beginnings (within ^^ oddQuotes line) rest

/-- How many records begin in bytes with unified line ends: one with every byte at the start of a line
outside quotes that does not end the line. -/
def starts (atStart within : Bool) : List UInt8 → Nat
  | [] => 0
  | b :: rest =>
    (if atStart && b != lineFeed then 1 else 0) +
      starts (b == lineFeed && !within) (within ^^ b == quote) rest

theorem skim_length {sep : UInt8} (hsep : sep ≠ quote) {m : Mode} {fields : Fields} {xs : List UInt8}
    {rs : List (List (List UInt8))} (hfits : m.Fits xs) (h : skim sep m fields xs = .ok rs) :
    rs.length = m.pending + starts (m = .between) m.inQuotes xs := by
  induction xs generalizing m fields rs with
  | nil =>
    cases m with
    | quoted field => cases h
    | _ =>
      cases h
      rfl
  | cons b rest ih =>
    obtain ⟨ended, m', fields', more, hstep, hmore, rfl⟩ := skim_cons_eq_ok h
    have hturns := step_turns hsep hfits hstep
    have hnow : decide (m' = .between) = (b == lineFeed && !m.inQuotes) := by
      rw [Bool.eq_iff_iff]
      simp [hturns.between]
    have hcount := hturns.count
    have ih := ih hturns.fits hmore
    rw [hnow, hturns.inQuotes] at ih
    rw [List.length_append, starts, ih]
    simp only [Bool.and_eq_true, decide_eq_true_eq, bne_iff_ne] at hcount ⊢
    omega

/-- How many records begin after the line on which something stands already. -/
def later (within : Bool) : List (List UInt8) → Nat
  | [] => 0
  | line :: rest => beginnings (within ^^ oddQuotes line) rest

theorem beginnings_within (ls : List (List UInt8)) : beginnings true ls = later true ls := by
  cases ls with
  | nil => rfl
  | cons line rest => simp [beginnings, later]

theorem oddQuotes_cons (b : UInt8) (line : List UInt8) :
    oddQuotes (b :: line) = ((b == quote) ^^ oddQuotes line) := by
  unfold oddQuotes
  rw [List.count_cons]
  cases b == quote with
  | false => simp
  | true =>
    obtain h | h := Nat.mod_two_eq_zero_or_one (line.count quote)
    · simp [h, show (line.count quote + 1) % 2 = 1 by omega]
    · simp [h, show (line.count quote + 1) % 2 = 0 by omega]

theorem holdsNothing_cons {a b : UInt8} (ha : a ≠ lineFeed)
    (h : ¬ (a = carriageReturn ∧ b = lineFeed)) (line : List UInt8) :
    holdsNothing (a :: b :: line) = false := by
  rw [holdsNothing, unifyLines, if_neg h]
  simp [ha]

theorem starts_lineFeed (atStart within : Bool) (rest : List UInt8) :
    starts atStart within (lineFeed :: rest) = starts (!within) within rest := by
  have hquote : (lineFeed == quote) = false := by decide
  simp [starts, hquote]

theorem starts_cons {b : UInt8} (hb : b ≠ lineFeed) (atStart within : Bool) (rest : List UInt8) :
    starts atStart within (b :: rest) =
      (if atStart then 1 else 0) + starts false (within ^^ b == quote) rest := by
  have hfeed : (b == lineFeed) = false := beq_eq_false_iff_ne.mpr hb
  simp [starts, hfeed, hb]

/-- Records begin where the lines say, seen from the bytes with unified line ends. -/
theorem starts_unifyLines (bytes : List UInt8) :
    (∀ within, starts false within (unifyLines bytes) = later within (lines bytes)) ∧
      starts true false (unifyLines bytes) = beginnings false (lines bytes) := by
  have hquotes : oddQuotes [lineFeed] = false := by decide
  have hnothing : holdsNothing [lineFeed] = true := by decide
  fun_induction unifyLines bytes
  case case1 => exact ⟨fun _ => rfl, rfl⟩
  case case2 => exact ⟨fun _ => rfl, rfl⟩
  case case3 b hb =>
    by_cases hfeed : b = lineFeed
    · subst hfeed
      exact ⟨fun within => by cases within <;> rfl, rfl⟩
    · have hline : lines [b] = [[b]] := by simp [lines, hfeed]
      have hsome : holdsNothing [b] = false := by simp [holdsNothing, unifyLines, hb, hfeed]
      simp [starts, hfeed, hline, later, beginnings, hsome]
  case case4 a b rest h ih =>
    obtain ⟨rfl, rfl⟩ := h
    have hline := lines_cons (b := carriageReturn) (by decide) (lines_lineFeed rest)
    have hquotes' : oddQuotes [carriageReturn, lineFeed] = false := by decide
    have hnothing' : holdsNothing [carriageReturn, lineFeed] = true := by decide
    rw [lines_lineFeed] at ih
    simp only [later, beginnings, hquotes, hnothing] at ih
    simp only [hline, later, beginnings, hquotes', hnothing']
    exact ih
  case case5 a b rest h ih =>
    obtain ⟨ihlater, ihstart⟩ := ih
    obtain ⟨line, more, hlines⟩ := lines_cons_cons b rest
    by_cases ha : a = lineFeed
    · subst ha
      have hstart : starts true false (unifyLines (b :: rest)) =
          beginnings (false ^^ oddQuotes [lineFeed]) (lines (b :: rest)) := by
        rw [ihstart, hquotes]
        rfl
      rw [lines_lineFeed]
      refine ⟨fun within => ?_, ?_⟩
      · rw [starts_lineFeed]
        cases within with
        | false => exact hstart
        | true =>
          -- a line that starts within quotes begins no record
          rw [later, hquotes, Bool.xor_false, beginnings_within]
          exact ihlater true
      · rw [starts_lineFeed, beginnings, hnothing]
        exact hstart.trans (Nat.zero_add _).symm
    · rw [lines_cons ha hlines]
      rw [hlines] at ihlater
      have hlater (within : Bool) : starts false (within ^^ a == quote) (unifyLines (b :: rest)) =
          beginnings (within ^^ oddQuotes (a :: b :: line)) more := by
        rw [ihlater, later, oddQuotes_cons a, Bool.xor_assoc]
      refine ⟨fun within => ?_, ?_⟩
      · rw [starts_cons ha, hlater, later]
        exact Nat.zero_add _
      · rw [starts_cons ha, hlater, beginnings, holdsNothing_cons ha h]
        rfl

/-- A file has as many records as begin on its lines. -/
theorem recordsWith_length {sep : UInt8} (hsep : sep ≠ quote) {bytes : List UInt8}
    {rs : List (List (List UInt8))} (h : recordsWith sep bytes = .ok rs) :
    rs.length = beginnings false (lines bytes) := by
  rw [← (starts_unifyLines bytes).2]
  exact (skim_length (m := .between) hsep trivial h).trans (Nat.zero_add _)

/-! ## The line of a record -/

/-- The record with a number begins on a line, both counted from one: the lines above hold the records
before it, and what is left starts with it and not with an empty line. -/
def BeginsOn (bytes : List UInt8) (number line : Nat) : Prop :=
  ∃ above below earlier more first rest, bytes = above ++ below ∧ Whole above ∧
    above.count lineFeed + 1 = line ∧ lines below = first :: rest ∧ holdsNothing first = false ∧
    recordsWith (separator bytes) above = .ok earlier ∧ earlier.length + 1 = number ∧
    recordsWith (separator bytes) below = .ok more ∧ more ≠ []

theorem oddQuotes_append (xs ys : List UInt8) :
    oddQuotes (xs ++ ys) = (oddQuotes xs ^^ oddQuotes ys) := by
  induction xs with
  | nil => simp [oddQuotes]
  | cons b xs ih => rw [List.cons_append, oddQuotes_cons, oddQuotes_cons, ih, Bool.xor_assoc]

theorem beginnings_append (within : Bool) (before after : List (List UInt8)) :
    beginnings within (before ++ after) =
      beginnings within before + beginnings (within ^^ oddQuotes before.flatten) after := by
  induction before generalizing within with
  | nil => simp [beginnings, oddQuotes]
  | cons line before ih =>
    rw [List.cons_append, beginnings, beginnings, ih, List.flatten_cons, oddQuotes_append,
      Bool.xor_assoc, Nat.add_assoc]

/-- Every record begins on some line. -/
theorem exists_beginning {within : Bool} {ls : List (List UInt8)} {k : Nat}
    (h : k < beginnings within ls) :
    ∃ before line after, ls = before ++ line :: after ∧ beginnings within before = k ∧
      (within ^^ oddQuotes before.flatten) = false ∧ holdsNothing line = false := by
  induction ls generalizing within k with
  | nil => cases h
  | cons line rest ih =>
    rw [beginnings] at h
    by_cases hnone : (within || holdsNothing line) = true
    · rw [if_pos hnone, Nat.zero_add] at h
      obtain ⟨before, l, after, rfl, hbefore, hwithin, hl⟩ := ih h
      refine ⟨line :: before, l, after, rfl, ?_, ?_, hl⟩
      · rw [beginnings, if_pos hnone, hbefore, Nat.zero_add]
      · rwa [List.flatten_cons, oddQuotes_append, ← Bool.xor_assoc]
    rw [if_neg hnone] at h
    cases k with
    | zero =>
      obtain ⟨hwithin, hline⟩ := Bool.or_eq_false_iff.mp (Bool.not_eq_true _ ▸ hnone)
      exact ⟨[], line, rest, rfl, rfl, by rw [hwithin]; rfl, hline⟩
    | succ k =>
      obtain ⟨before, l, after, rfl, hbefore, hwithin, hl⟩ :=
        ih (show k < beginnings (within ^^ oddQuotes line) rest by omega)
      refine ⟨line :: before, l, after, rfl, ?_, ?_, hl⟩
      · rw [beginnings, if_neg hnone, hbefore, Nat.add_comm]
      · rwa [List.flatten_cons, oddQuotes_append, ← Bool.xor_assoc]

theorem oddQuotes_eq_false_iff {bytes : List UInt8} :
    oddQuotes bytes = false ↔ bytes.count quote % 2 = 0 := by
  simp [oddQuotes]

/-- A record begins on each line that starts outside quotes and is not empty. -/
theorem beginsOn_of_lines {bytes : List UInt8} {rs : List (List (List UInt8))}
    (h : recordsWith (separator bytes) bytes = .ok rs) {before rest : List (List UInt8)}
    {first : List UInt8} (hlines : lines bytes = before ++ first :: rest)
    (heven : oddQuotes before.flatten = false) (hfirst : holdsNothing first = false) :
    BeginsOn bytes (beginnings false before + 1) (before.length + 1) := by
  have hsep := separator_ne_quote bytes
  obtain ⟨above, below, rfl, hwhole, rfl, hbelow⟩ := exists_cut hlines
  rw [flatten_lines] at heven
  rw [recordsWith_append hsep hwhole (oddQuotes_eq_false_iff.mp heven)] at h
  cases hearlier : recordsWith (separator (above ++ below)) above with
  | error e =>
    rw [hearlier] at h
    cases h
  | ok earlier =>
    rw [hearlier] at h
    obtain ⟨more, hmore, rfl⟩ := map_eq_ok.mp h
    refine ⟨above, below, earlier, more, first, rest, rfl, hwhole, ?_, hbelow, hfirst, hearlier, ?_,
      hmore, ?_⟩
    · rw [length_lines hwhole]
    · rw [recordsWith_length hsep hearlier]
    · rintro rfl
      have hnone := recordsWith_length hsep hmore
      rw [hbelow, beginnings, hfirst, List.length_nil] at hnone
      simp at hnone
      omega

theorem exists_beginsOn {bytes : List UInt8} {rs : List (List (List UInt8))} {i : Nat}
    (h : recordsWith (separator bytes) bytes = .ok rs) (hi : i < rs.length) :
    ∃ line, BeginsOn bytes (i + 1) line := by
  rw [recordsWith_length (separator_ne_quote bytes) h] at hi
  obtain ⟨before, first, rest, hlines, rfl, heven, hfirst⟩ := exists_beginning hi
  rw [Bool.false_xor] at heven
  exact ⟨_, beginsOn_of_lines h hlines heven hfirst⟩

/-! ## What the number of a record says about its line -/

theorem beginnings_le (within : Bool) (ls : List (List UInt8)) : beginnings within ls ≤ ls.length := by
  induction ls generalizing within with
  | nil => exact Nat.le_refl 0
  | cons line rest ih =>
    have hrest := ih (within ^^ oddQuotes line)
    rw [beginnings, List.length_cons]
    split <;> omega

theorem beginnings_mono (ls : List (List UInt8)) {n k : Nat} (h : n ≤ k) :
    beginnings false (ls.take n) ≤ beginnings false (ls.take k) := by
  have hsplit : ls.take k = ls.take n ++ (ls.take k).drop n := by
    conv => lhs; rw [← List.take_append_drop n (ls.take k), List.take_take, Nat.min_eq_left h]
  rw [hsplit, beginnings_append]
  exact Nat.le_add_right _ _

/-- As many records begin on lines as there are lines, if each line is a record of its own. -/
theorem beginnings_eq_length_iff {ls : List (List UInt8)} (heven : oddQuotes ls.flatten = false) :
    beginnings false ls = ls.length ↔ ∀ l ∈ ls, holdsNothing l = false ∧ oddQuotes l = false := by
  induction ls with
  | nil => simp [beginnings]
  | cons line rest ih =>
    rw [List.flatten_cons, oddQuotes_append] at heven
    rw [List.forall_mem_cons, beginnings, List.length_cons]
    cases hodd : oddQuotes line with
    | false =>
      rw [hodd, Bool.false_xor] at heven
      have hle := beginnings_le false rest
      rw [← ih heven]
      cases holdsNothing line <;> simp <;> omega
    | true =>
      -- the next line starts within quotes
      have hlt : beginnings (false ^^ true) rest < rest.length := by
        cases rest with
        | nil =>
          rw [hodd] at heven
          cases heven
        | cons next rest =>
          have hle := beginnings_le (true ^^ oddQuotes next) rest
          simp only [Bool.false_xor, beginnings, Bool.true_or, if_true, List.length_cons]
          omega
      refine iff_of_false ?_ (fun h => absurd h.1.2 (by decide))
      split <;> omega

theorem skim_closes {sep : UInt8} (hsep : sep ≠ quote) {m : Mode} {fields : Fields} {xs : List UInt8}
    {rs : List (List (List UInt8))} (hfits : m.Fits xs) (h : skim sep m fields xs = .ok rs) :
    oddQuotes xs = m.inQuotes := by
  induction xs generalizing m fields rs with
  | nil =>
    cases m with
    | quoted field => cases h
    | _ => rfl
  | cons b rest ih =>
    obtain ⟨ended, m', fields', more, hstep, hmore, rfl⟩ := skim_cons_eq_ok h
    have hturns := step_turns hsep hfits hstep
    rw [oddQuotes_cons, ih hturns.fits hmore, hturns.inQuotes]
    cases m.inQuotes <;> cases b == quote <;> rfl

/-- What is read by itself has closed its quotes. -/
theorem even_of_recordsWith {sep : UInt8} (hsep : sep ≠ quote) {bytes : List UInt8}
    {rs : List (List (List UInt8))} (h : recordsWith sep bytes = .ok rs) : oddQuotes bytes = false := by
  have hcloses := skim_closes (m := .between) hsep trivial h
  rw [oddQuotes, count_unifyLines (by decide)] at hcloses
  exact hcloses

namespace BeginsOn

variable {bytes : List UInt8} {number line : Nat}

/-- The lines above the one on which a record begins. -/
theorem above (h : BeginsOn bytes number line) : ∃ before first rest,
    lines bytes = before ++ first :: rest ∧ before.length + 1 = line ∧
      beginnings false before + 1 = number ∧ oddQuotes before.flatten = false ∧
      holdsNothing first = false := by
  obtain ⟨above, below, earlier, more, first, rest, hbytes, hwhole, hline, hbelow, hfirst, hearlier,
    hnumber, -⟩ := h
  have hsep := separator_ne_quote bytes
  have heven := even_of_recordsWith hsep hearlier
  rw [recordsWith_length hsep hearlier] at hnumber
  refine ⟨lines above, first, rest, ?_, by rwa [length_lines hwhole], hnumber, ?_, hfirst⟩
  · rw [hbytes, lines_append hwhole, hbelow]
  · rwa [flatten_lines]

/-- The number counts the records that begin on the lines down to this one. -/
theorem number_eq (h : BeginsOn bytes number line) :
    number = beginnings false ((lines bytes).take line) := by
  obtain ⟨before, first, rest, hlines, rfl, hnumber, heven, hfirst⟩ := h.above
  have htake : (lines bytes).take (before.length + 1) = before ++ [first] := by
    rw [hlines, List.take_length_add_append]
    rfl
  rw [htake, beginnings_append, heven]
  simp [beginnings, hfirst, hnumber]

/-- The number is that of the line exactly if each line above it is a record of its own. -/
theorem eq_iff (h : BeginsOn bytes number line) :
    number = line ↔
      ∀ l ∈ (lines bytes).take (line - 1), holdsNothing l = false ∧ l.count quote % 2 = 0 := by
  obtain ⟨before, first, rest, hlines, rfl, rfl, heven, -⟩ := h.above
  have htake : (lines bytes).take (before.length + 1 - 1) = before := by
    rw [hlines, Nat.add_sub_cancel, List.take_left]
  rw [htake, Nat.add_right_cancel_iff, beginnings_eq_length_iff heven]
  simp only [oddQuotes_eq_false_iff]

theorem not_lt (h : BeginsOn bytes number line) {other : Nat} (hother : BeginsOn bytes number other) :
    ¬ line < other := by
  intro hlt
  have hfirst := h.number_eq
  obtain ⟨before, first, rest, hlines, hline, hnumber, -, -⟩ := hother.above
  have hmono := beginnings_mono (lines bytes) (show line ≤ before.length by omega)
  rw [hlines, List.take_left, ← hlines] at hmono
  omega

/-- A record begins on one line only. -/
theorem unique (h : BeginsOn bytes number line) {other : Nat} (hother : BeginsOn bytes number other) :
    line = other :=
  Nat.le_antisymm (Nat.le_of_not_lt (hother.not_lt h)) (Nat.le_of_not_lt (h.not_lt hother))

end BeginsOn

end Stockroom.Csv

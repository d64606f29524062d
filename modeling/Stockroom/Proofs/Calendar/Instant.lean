import Stockroom.Proofs.Calendar.Date
import Stockroom.Calendar.Instant

/-!
Times as texts. A time in a year of four digits is read back from its stamp, fraction included,
with its zone cut to whole minutes, and its column comes after the columns of all earlier times.

Main definitions and statements:
* `Instant.FourDigitYear`: the times of the years 0 to 9999;
* `Instant.column_le`: earlier times have smaller columns;
* `Instant.Writable`, `Instant.reread`: the times that have a stamp and what the stamp keeps;
* `Instant.read_stamp`: a stamp is read back;
* `CalendarDate.readLayout_iso`: a day of a year of four digits is read back from its text.
-/
namespace Stockroom
set_option autoImplicit false

namespace Instant

/-- The time lies in one of the years 0 to 9999. -/
def FourDigitYear (t : Instant) : Prop := -62167219200 ≤ t.unix ∧ t.unix < 253402300800

instance (t : Instant) : Decidable t.FourDigitYear := inferInstanceAs (Decidable (_ ∧ _))

/-! ## The text of a clock -/

/-- Hours, minutes and seconds of a second of a day. -/
def clockChars (seconds : Nat) : List Char :=
  fixedDigits 2 (seconds / 3600) ++ ([':'] ++ (fixedDigits 2 (seconds / 60 % 60) ++
    ([':'] ++ fixedDigits 2 (seconds % 60))))

theorem clockText_eq (t : Instant) :
    t.clockText = Text.ofChars (clockChars ((t.unix + t.offset) % 86400).toNat) ++
      fractionText t.nano := by
  have hday : ((t.unix + t.offset) % 86400).toNat < 86400 := by omega
  simp only [clockText]
  rw [padded_eq (by omega) (by omega), padded_eq (by omega) (by omega),
    padded_eq (by omega) (by omega)]
  simp [clockChars, Text.ofChars]

/-- Clocks are in the order of their seconds. -/
theorem clockChars_precedes {a b : Nat} (hb : b < 86400) (h : a < b) :
    Precedes (Text.ofChars (clockChars a)).bytes (Text.ofChars (clockChars b)).bytes := by
  simp only [clockChars, Text.ofChars_append, Text.bytes_append]
  by_cases hhours : a / 3600 < b / 3600
  · exact (precedes_fixedDigits (by omega) hhours).append _ _
  have hhour : a / 3600 = b / 3600 := by omega
  rw [hhour]
  by_cases hminutes : a / 60 % 60 < b / 60 % 60
  · exact (((precedes_fixedDigits (by omega) hminutes).append _ _).prepend _).prepend _
  have hminute : a / 60 % 60 = b / 60 % 60 := by omega
  rw [hminute]
  exact ((((precedes_fixedDigits (by omega) (by omega)).prepend _).prepend _).prepend _).prepend _

/-! ## Columns -/

theorem column_eq (t : Instant) :
    t.column = (CalendarDate.ofDayNumber (t.unix / 86400)).iso ++ (Text.ofString " " ++
      (Text.ofChars (clockChars (t.unix % 86400).toNat) ++
        (fractionText t.nano ++ Text.ofString " +0000 UTC"))) := by
  simp only [column, clockText_eq, date, Int.add_zero, List.append_assoc]
  rfl

theorem column_precedes {a b : Instant} (h : a.unix < b.unix) (ha : a.FourDigitYear)
    (hb : b.FourDigitYear) : Precedes a.column.bytes b.column.bytes := by
  have hexists (n : Int) := CalendarDate.ofDayNumber_exists n
  obtain ⟨halow, hahigh⟩ := ha
  obtain ⟨hblow, hbhigh⟩ := hb
  have hayear : 0 ≤ (CalendarDate.ofDayNumber (a.unix / 86400)).year :=
    (CalendarDate.year_of_ofDayNumber (by omega) (by omega)).1
  have hbyear : (CalendarDate.ofDayNumber (b.unix / 86400)).year < 10000 :=
    (CalendarDate.year_of_ofDayNumber (by omega) (by omega)).2
  rw [column_eq, column_eq]
  simp only [Text.bytes_append]
  by_cases hdays : a.unix / 86400 < b.unix / 86400
  · have hdates := CalendarDate.ofDayNumber_earlier hdays
    exact (CalendarDate.iso_precedes (hexists _) (hexists _) hayear hbyear hdates).append _ _
  · have hday : a.unix / 86400 = b.unix / 86400 := by omega
    rw [hday]
    have hclock : (a.unix % 86400).toNat < (b.unix % 86400).toNat := by omega
    exact ((((clockChars_precedes (by omega) hclock).append _ _).prepend _).prepend _)

theorem sign_precedes_digit : ∀ d < 10,
    Precedes (Text.bytes [.char '-']) (Text.bytes [.char (Nat.digitChar d)]) := by
  intro d hd
  refine ⟨[], 45, UInt8.ofNat (48 + d), [], [], rfl, ?_, ?_⟩
  · simpa [Text.bytes, Glyph.bytes] using bytes_digit d hd
  · rw [UInt8.lt_iff_toNat_lt, Text.toNat_ofNat_small (by omega)]
    simp only [UInt8.reduceToNat]
    omega

/-- The column of a time before the year zero starts with a sign. -/
theorem column_precedes_of_negative {a b : Instant} (ha : a.unix < -62167219200)
    (hb : b.FourDigitYear) : Precedes a.column.bytes b.column.bytes := by
  obtain ⟨hblow, hbhigh⟩ := hb
  have hyear : (CalendarDate.ofDayNumber (a.unix / 86400)).year < 0 :=
    CalendarDate.year_neg_of_ofDayNumber (by omega)
  obtain ⟨hlow, hhigh⟩ :=
    CalendarDate.year_of_ofDayNumber (n := b.unix / 86400) (by omega) (by omega)
  have hsign : ∃ more, a.column = [.char '-'] ++ more := by
    rw [column_eq, CalendarDate.iso, CalendarDate.yearText, if_pos hyear]
    exact ⟨_, rfl⟩
  have hdigit : ∃ d more, d < 10 ∧ b.column = [.char (Nat.digitChar d)] ++ more := by
    rw [column_eq, CalendarDate.iso_eq (CalendarDate.ofDayNumber_exists _) hlow hhigh]
    exact ⟨_, _, Nat.mod_lt _ (by omega), rfl⟩
  obtain ⟨after, hafter⟩ := hsign
  obtain ⟨d, more, hd, hmore⟩ := hdigit
  rw [hafter, hmore, Text.bytes_append, Text.bytes_append]
  exact (sign_precedes_digit d hd).append _ _

/-- Of two times the earlier one has the smaller column, if the later one has a year of four
digits. -/
theorem column_le {a b : Instant} (h : a.unix < b.unix) (hb : b.FourDigitYear) :
    Text.le a.column b.column = true := by
  by_cases ha : a.unix < -62167219200
  · exact (column_precedes_of_negative ha hb).bytesLe
  · have hbhigh := hb.2
    exact (column_precedes h ⟨by omega, by omega⟩ hb).bytesLe

/-! ## Stamps -/

theorem takeTwoDigits_fixed {n : Nat} (h : n < 100) (rest : List Char) :
    takeTwoDigits (fixedDigits 2 n ++ rest) = some (n, rest) := by
  rw [fixedDigits_two, List.cons_append, List.cons_append, List.nil_append, takeTwoDigits,
    digitValue_digitChar _ (by omega), digitValue_digitChar _ (by omega)]
  have hvalue : n / 10 % 10 * 10 + n % 10 = n := by omega
  simp only [Option.bind_eq_bind, Option.bind_some, Option.pure_def, hvalue]

theorem takeOneOrTwoDigits_fixed {n : Nat} (h : n < 100) (rest : List Char) :
    takeOneOrTwoDigits (fixedDigits 2 n ++ rest) = some (n, rest) := by
  rw [fixedDigits_two, List.cons_append, List.cons_append, List.nil_append, takeOneOrTwoDigits,
    digitValue_digitChar _ (by omega), Option.bind_eq_bind, Option.bind_some]
  have hvalue : n / 10 % 10 * 10 + n % 10 = n := by omega
  simp only [digitValue_digitChar _ (by omega : n % 10 < 10), Option.pure_def, hvalue]

theorem takeFourDigits_fixed {n : Nat} (h : n < 10000) (rest : List Char) :
    takeFourDigits (fixedDigits 4 n ++ rest) = some (n, rest) := by
  have hvalue : n / 100 * 100 + n % 100 = n := by omega
  rw [fixedDigits_four, List.append_assoc, takeFourDigits, takeTwoDigits_fixed (by omega),
    Option.bind_eq_bind, Option.bind_some]
  simp only [takeTwoDigits_fixed (by omega : n % 100 < 100), Option.bind_some, Option.pure_def,
    hvalue]

/-! ### Fractions and zones -/

theorem fixedDigits_length (width n : Nat) : (fixedDigits width n).length = width := by
  induction width generalizing n with
  | zero => rfl
  | succ width ih => rw [fixedDigits, List.length_append, ih, List.length_singleton]

theorem digitsValueFrom_fixedDigits {width n : Nat} (h : n < 10 ^ width) :
    digitsValueFrom 0 (fixedDigits width n) = some n := by
  induction width generalizing n with
  | zero =>
    obtain rfl : n = 0 := by omega
    rfl
  | succ width ih =>
    have hrest : n / 10 < 10 ^ width := by
      rw [Nat.pow_succ] at h
      omega
    rw [fixedDigits, digitsValueFrom_append, ih hrest, Option.bind_some,
      digitValue_digitChar _ (Nat.mod_lt n (by omega)), Option.map_some]
    congr 1
    omega

/-- The digits of a number without the zeros at its end. -/
def trimmedDigits (width n : Nat) : List Char :=
  ((fixedDigits width n).reverse.dropWhile (· == '0')).reverse

/-- Digits without the zeros at their end have the value of all digits. -/
theorem trimmedDigits_value {width n : Nat} (h : n < 10 ^ width) :
    (trimmedDigits width n).length ≤ width ∧
      ∃ value, digitsValueFrom 0 (trimmedDigits width n) = some value ∧
        value * 10 ^ (width - (trimmedDigits width n).length) = n := by
  induction width generalizing n with
  | zero =>
    obtain rfl : n = 0 := by omega
    exact ⟨Nat.le_refl 0, 0, rfl, rfl⟩
  | succ width ih =>
    have hrest : n / 10 < 10 ^ width := by
      rw [Nat.pow_succ] at h
      omega
    by_cases hzero : n % 10 = 0
    · have htrimmed : trimmedDigits (width + 1) n = trimmedDigits width (n / 10) := by
        rw [trimmedDigits, fixedDigits, List.reverse_append, List.reverse_singleton,
          List.singleton_append, hzero, List.dropWhile_cons_of_pos (by decide), trimmedDigits]
      obtain ⟨hlength, value, hvalue, hn⟩ := ih hrest
      rw [htrimmed]
      refine ⟨by omega, value, hvalue, ?_⟩
      rw [Nat.succ_sub hlength, Nat.pow_succ, ← Nat.mul_assoc, hn]
      omega
    · have hlast : ∀ d < 10, d ≠ 0 → (Nat.digitChar d == '0') = false := by decide
      have htrimmed : trimmedDigits (width + 1) n = fixedDigits (width + 1) n := by
        rw [trimmedDigits, fixedDigits, List.reverse_append, List.reverse_singleton,
          List.singleton_append, List.dropWhile_cons_of_neg
            (by simp [hlast _ (Nat.mod_lt n (by omega)) hzero]),
          List.reverse_cons, List.reverse_reverse]
      rw [htrimmed, fixedDigits_length]
      exact ⟨Nat.le_refl _, n, digitsValueFrom_fixedDigits h, by simp⟩

theorem trimmedDigits_isDigit (width n : Nat) : ∀ c ∈ trimmedDigits width n, c.isDigit = true := by
  intro c hc
  have hmem := List.dropWhile_subset _ (List.mem_reverse.mp hc)
  exact fixedDigits_isDigit width n c (List.mem_reverse.mp hmem)

theorem digitValue_isSome {c : Char} (h : c.isDigit = true) : (digitValue c).isSome = true := by
  rw [Char.isDigit, Bool.and_eq_true, decide_eq_true_eq, decide_eq_true_eq] at h
  rw [digitValue, if_pos ⟨h.1, h.2⟩]
  rfl

theorem fractionText_eq {nano : Nat} (h : nano < 1000000000) :
    (fractionText nano).toChars = if nano = 0 then [] else '.' :: trimmedDigits 9 nano := by
  unfold fractionText
  split
  · rfl
  · have hzero : (fun g => g == Glyph.char '0') ∘ Glyph.char = fun c => c == '0' := by
      funext c
      rw [Function.comp_apply, Bool.eq_iff_iff, beq_iff_eq, beq_iff_eq, Glyph.char.injEq]
    have htrimmed : ((Text.padded 9 nano).reverse.dropWhile (· == .char '0')).reverse =
        Text.ofChars (trimmedDigits 9 nano) := by
      rw [padded_eq (by omega) h, Text.ofChars, ← List.map_reverse, List.dropWhile_map, hzero,
        ← List.map_reverse, trimmedDigits, Text.ofChars]
    rw [htrimmed]
    exact congrArg ('.' :: ·) (Text.toChars_ofChars _)

/-- What follows a fraction does not go on with it. -/
def EndsFraction (rest : List Char) : Prop :=
  ∀ c ∈ rest.head?, digitValue c = none ∧ (c == '.' || c == ',') = false

theorem takeFraction_none {rest : List Char} (hrest : EndsFraction rest) :
    takeFraction rest = (0, rest) := by
  unfold takeFraction
  split
  · next c d more =>
    rw [(hrest c rfl).2, Bool.false_and, if_neg Bool.false_ne_true]
  · rfl

theorem takeWhile_digits {ds rest : List Char} (hds : ∀ c ∈ ds, c.isDigit = true)
    (hrest : EndsFraction rest) :
    (ds ++ rest).takeWhile (fun x => (digitValue x).isSome) = ds := by
  rw [List.takeWhile_append_of_pos fun c hc => digitValue_isSome (hds c hc)]
  have hnone : rest.takeWhile (fun x => (digitValue x).isSome) = [] := by
    cases rest with
    | nil => rfl
    | cons c rest =>
      exact List.takeWhile_cons_of_neg (by rw [(hrest c rfl).1]; decide)
  rw [hnone, List.append_nil]

/-- A fraction is read back. -/
theorem takeFraction_written {nano : Nat} (h : nano < 1000000000) {rest : List Char}
    (hrest : EndsFraction rest) :
    takeFraction ((fractionText nano).toChars ++ rest) = (nano, rest) := by
  rw [fractionText_eq h]
  split
  · next hnano =>
    rw [List.nil_append, hnano]
    exact takeFraction_none hrest
  · next hnano =>
    have hbound : nano < 10 ^ 9 := h
    obtain ⟨hlength, value, hvalue, hn⟩ := trimmedDigits_value hbound
    have hdigits := trimmedDigits_isDigit 9 nano
    generalize trimmedDigits 9 nano = ds at hlength hvalue hn hdigits
    cases ds with
    | nil =>
      cases hvalue
      exact absurd (hn.symm.trans (Nat.zero_mul _)) hnano
    | cons d ds =>
      have hnanos : fractionNanos (d :: ds) = nano := by
        have hread : digitsValue (d :: ds) = some value := hvalue
        rw [fractionNanos, List.take_of_length_le hlength, hread, Option.getD_some]
        exact hn
      have hfirst := digitValue_isSome (hdigits d List.mem_cons_self)
      have hall := takeWhile_digits hdigits hrest
      rw [List.cons_append] at hall
      rw [List.cons_append, List.cons_append, takeFraction, hfirst, hall]
      simp only [beq_self_eq_true, Bool.true_or, Bool.true_and, if_true, hnanos]
      rw [← List.cons_append, List.drop_left]

/-- The zone as it is written: in whole minutes. -/
def wholeMinutes (offset : Int) : Int :=
  if offset < 0 then -(offset.natAbs / 60 * 60 : Nat) else (offset.natAbs / 60 * 60 : Nat)

/-- The characters of a zone. -/
def zoneChars (offset : Int) : List Char :=
  if offset = 0 then ['Z']
  else (if offset < 0 then '-' else '+') ::
    (fixedDigits 2 (offset.natAbs / 60 / 60) ++ ':' :: fixedDigits 2 (offset.natAbs / 60 % 60))

theorem zoneText_eq {offset : Int} (h : offset.natAbs < 86400) :
    zoneText offset = Text.ofChars (zoneChars offset) := by
  unfold zoneText zoneChars
  split
  · rfl
  · dsimp only
    rw [padded_eq (by omega) (by omega), padded_eq (by omega) (by omega)]
    simp only [Text.ofChars, List.map_cons, List.map_append, apply_ite Glyph.char,
      List.append_assoc, List.cons_append, List.nil_append]

theorem zoneChars_ends (offset : Int) : EndsFraction (zoneChars offset) := by
  unfold zoneChars
  split
  · rintro c ⟨⟩
    decide
  · rintro c ⟨⟩
    split
    · decide
    · decide

/-- A zone is read back in whole minutes. -/
theorem takeZone_written {offset : Int} (h : offset.natAbs < 86400) :
    takeZone (zoneChars offset) = some (wholeMinutes offset, []) := by
  have hhours : ¬ (offset.natAbs / 60 / 60 > 24 ∨ offset.natAbs / 60 % 60 > 60) := by omega
  have hseconds : (offset.natAbs / 60 / 60 * 60 + offset.natAbs / 60 % 60) * 60 =
      offset.natAbs / 60 * 60 := by omega
  have hread (sign : Char) (hsign : sign ≠ 'Z') : takeZone (sign ::
      (fixedDigits 2 (offset.natAbs / 60 / 60) ++ ':' ::
        fixedDigits 2 (offset.natAbs / 60 % 60))) =
      if sign == '+' then some (((offset.natAbs / 60 * 60 : Nat) : Int), [])
      else if sign == '-' then some (-((offset.natAbs / 60 * 60 : Nat) : Int), []) else none := by
    have hminutes := takeTwoDigits_fixed (n := offset.natAbs / 60 % 60) (by omega) []
    rw [List.append_nil] at hminutes
    rw [takeZone.eq_2 _ _ hsign, takeTwoDigits_fixed (by omega)]
    simp only [Option.bind_eq_bind, Option.bind_some, hminutes, Bool.or_eq_true, decide_eq_true_eq,
      if_neg hhours, hseconds, Option.pure_def]
  unfold zoneChars wholeMinutes
  split
  · next hzero =>
    rw [hzero]
    rfl
  · split
    · rw [hread _ (by decide)]
      rfl
    · rw [hread _ (by decide)]
      rfl

/-! ### Parts of a stamp -/

theorem readParts_cons {r r' : Reading} {part : LayoutPart} {cs rest : List Char}
    (h : part.take r cs = some (r', rest)) (parts : List LayoutPart) :
    readParts r (part :: parts) cs = readParts r' parts rest := by
  rw [readParts, h]

section
variable (r : Reading) (rest : List Char) {n : Nat}

theorem take_year (h : n < 10000) :
    LayoutPart.take r (fixedDigits 4 n ++ rest) .year = some ({ r with year := n }, rest) := by
  show (takeFourDigits _).map _ = _
  rw [takeFourDigits_fixed h, Option.map_some]

theorem take_month (hlow : 1 ≤ n) (hhigh : n ≤ 12) :
    LayoutPart.take r (fixedDigits 2 n ++ rest) .month = some ({ r with month := n }, rest) := by
  show (takeTwoDigits _).bind _ = _
  rw [takeTwoDigits_fixed (by omega), Option.bind_some]
  exact if_pos ⟨hlow, hhigh⟩

theorem take_day (h : n < 100) :
    LayoutPart.take r (fixedDigits 2 n ++ rest) .day = some ({ r with day := n }, rest) := by
  show (takeTwoDigits _).map _ = _
  rw [takeTwoDigits_fixed h, Option.map_some]

theorem take_hour (h : n < 24) :
    LayoutPart.take r (fixedDigits 2 n ++ rest) .hour = some ({ r with hour := n }, rest) := by
  show (takeOneOrTwoDigits _).bind _ = _
  rw [takeOneOrTwoDigits_fixed (by omega), Option.bind_some]
  exact if_pos h

theorem take_minute (h : n < 60) :
    LayoutPart.take r (fixedDigits 2 n ++ rest) .minute = some ({ r with minute := n }, rest) := by
  show (takeTwoDigits _).bind _ = _
  rw [takeTwoDigits_fixed (by omega), Option.bind_some]
  exact if_pos h

/-- Seconds with their fraction. -/
theorem take_second (h : n < 60) {nano : Nat} (hnano : nano < 1000000000)
    (hrest : EndsFraction rest) :
    LayoutPart.take r (fixedDigits 2 n ++ ((fractionText nano).toChars ++ rest)) .second =
      some ({ r with second := n, nano }, rest) := by
  show (takeTwoDigits _).bind _ = _
  rw [takeTwoDigits_fixed (by omega), Option.bind_some]
  dsimp only
  rw [if_pos h, takeFraction_written hnano hrest]
  rfl

theorem take_zone {offset : Int} (h : offset.natAbs < 86400) :
    LayoutPart.take r (zoneChars offset) .zone =
      some ({ r with offset := wholeMinutes offset }, []) := by
  show (takeZone _).map _ = _
  rw [takeZone_written h, Option.map_some]

end

/-- The reading of a date, a clock and a zone. -/
theorem readParts_stamp (year month day seconds : Nat) {nano : Nat} {offset : Int}
    (hyear : year < 10000) (hmonth : 1 ≤ month) (hmonths : month ≤ 12) (hday : day < 100)
    (hseconds : seconds < 86400) (hnano : nano < 1000000000) (hzone : offset.natAbs < 86400) :
    readParts {} stampLayout (fixedDigits 4 year ++ '-' :: (fixedDigits 2 month ++
      '-' :: (fixedDigits 2 day ++ 'T' :: (fixedDigits 2 (seconds / 3600) ++
        ':' :: (fixedDigits 2 (seconds / 60 % 60) ++ ':' :: (fixedDigits 2 (seconds % 60) ++
          ((fractionText nano).toChars ++ zoneChars offset))))))) =
      some { year, month, day, hour := seconds / 3600, minute := seconds / 60 % 60
             second := seconds % 60, nano, offset := wholeMinutes offset } := by
  have hlayout : stampLayout = [.year, .literal '-', .month, .literal '-', .day, .literal 'T',
      .hour, .literal ':', .minute, .literal ':', .second, .zone] := rfl
  have hliteral (r : Reading) (rest : List Char) (c : Char) (hc : c ≠ ' ') :
      LayoutPart.take r (c :: rest) (.literal c) = some (r, rest) := by
    simp [LayoutPart.take]
  rw [hlayout, readParts_cons (take_year _ _ hyear), readParts_cons (hliteral _ _ _ (by decide)),
    readParts_cons (take_month _ _ hmonth hmonths), readParts_cons (hliteral _ _ _ (by decide)),
    readParts_cons (take_day _ _ hday), readParts_cons (hliteral _ _ _ (by decide)),
    readParts_cons (take_hour _ _ (by omega)), readParts_cons (hliteral _ _ _ (by decide)),
    readParts_cons (take_minute _ _ (by omega)), readParts_cons (hliteral _ _ _ (by decide)),
    readParts_cons (take_second _ _ (by omega) hnano (zoneChars_ends offset)),
    readParts_cons (take_zone _ hzone)]
  rfl

/-- A time that can be written: where it is written, it lies in one of the years 0 to 9999. -/
structure Writable (t : Instant) : Prop where
  year : -62167219200 ≤ t.unix + t.offset ∧ t.unix + t.offset < 253402300800
  nano : t.nano < 1000000000
  zone : t.offset.natAbs < 86400

/-- A time as its stamp gives it. -/
def reread (t : Instant) : Instant :=
  { unix := t.unix + t.offset - wholeMinutes t.offset
    nano := t.nano
    offset := wholeMinutes t.offset }

/-- A time in a zone of whole minutes stays as it is. -/
theorem reread_eq {t : Instant} (h : t.offset % 60 = 0) : t.reread = t := by
  have hzone : wholeMinutes t.offset = t.offset := by
    unfold wholeMinutes
    split <;> omega
  rw [reread, hzone, Int.add_sub_cancel]

theorem Writable.date_year {t : Instant} (h : t.Writable) :
    0 ≤ t.date.year ∧ t.date.year < 10000 := by
  obtain ⟨hlow, hhigh⟩ := h.year
  exact CalendarDate.year_of_ofDayNumber (by omega) (by omega)

theorem stamp_eq {t : Instant} (h : t.Writable) :
    t.stamp.toChars = fixedDigits 4 t.date.year.toNat ++ '-' :: (fixedDigits 2 t.date.month ++
      '-' :: (fixedDigits 2 t.date.day ++ 'T' ::
        (fixedDigits 2 (((t.unix + t.offset) % 86400).toNat / 3600) ++
          ':' :: (fixedDigits 2 (((t.unix + t.offset) % 86400).toNat / 60 % 60) ++
            ':' :: (fixedDigits 2 (((t.unix + t.offset) % 86400).toNat % 60) ++
              ((fractionText t.nano).toChars ++ zoneChars t.offset)))))) := by
  obtain ⟨hlow, hhigh⟩ := h.date_year
  have hexists : t.date.Exists := CalendarDate.ofDayNumber_exists _
  have hchars (cs : List Char) : (Text.ofChars cs).map Glyph.toChar = cs := Text.toChars_ofChars cs
  rw [stamp, clockText_eq, zoneText_eq h.zone, CalendarDate.iso_eq hexists hlow hhigh]
  simp only [clockChars, Text.toChars, List.map_append, List.map_cons, hchars, List.append_assoc,
    List.cons_append, List.nil_append]
  rfl

/-- A time is read back from its stamp. -/
theorem read_stamp {t : Instant} (h : t.Writable) : read t.stamp.toChars = some t.reread := by
  obtain ⟨hlow, hhigh⟩ := h.date_year
  have hexists : t.date.Exists := CalendarDate.ofDayNumber_exists _
  have hbounds := hexists.bounds
  have hday : t.date.dayNumber = (t.unix + t.offset) / 86400 := by
    rw [date, CalendarDate.dayNumber_ofDayNumber]
  have hyear : ((t.date.year.toNat : Int)) = t.date.year := by omega
  have hreads := readParts_stamp t.date.year.toNat t.date.month t.date.day
    ((t.unix + t.offset) % 86400).toNat (by omega) hbounds.1 hbounds.2.1 (by omega) (by omega)
    h.nano h.zone
  rw [read, readLayout, stamp_eq h, hreads, Option.filter_some]
  have hnamed : (⟨(t.date.year.toNat : Int), t.date.month, t.date.day⟩ : CalendarDate) = t.date := by
    rw [hyear]
  simp only [Reading.date, hnamed, hexists, decide_true, if_true, Option.map_some, ofReading, hday,
    reread]
  congr 2
  omega

end Instant

/-! ## Days -/

/-- A day of a year of four digits is read back from its text. -/
theorem CalendarDate.readLayout_iso {d : CalendarDate} (hd : d.Exists) (hlow : 0 ≤ d.year)
    (hhigh : d.year < 10000) :
    readLayout isoLayout d.iso.toChars =
      some { year := d.year.toNat, month := d.month, day := d.day } := by
  have hbounds := hd.bounds
  have hyear : ((d.year.toNat : Int)) = d.year := by omega
  have hhyphen (r : Reading) (rest : List Char) :
      LayoutPart.take r ('-' :: rest) (.literal '-') = some (r, rest) := rfl
  have hchars : d.iso.toChars = fixedDigits 4 d.year.toNat ++ '-' :: (fixedDigits 2 d.month ++
      '-' :: (fixedDigits 2 d.day ++ [])) := by
    rw [iso_eq hd hlow hhigh, Text.toChars_ofChars]
    simp
  have hreads : readParts {} isoLayout d.iso.toChars =
      some { year := d.year.toNat, month := d.month, day := d.day } := by
    have hlayout : isoLayout = [.year, .literal '-', .month, .literal '-', .day] := rfl
    rw [hchars, hlayout, Instant.readParts_cons (Instant.take_year _ _ (by omega)),
      Instant.readParts_cons (hhyphen _ _),
      Instant.readParts_cons (Instant.take_month _ _ hbounds.1 hbounds.2.1),
      Instant.readParts_cons (hhyphen _ _),
      Instant.readParts_cons (Instant.take_day _ _ (by omega)), readParts]
  have hexists : (⟨(d.year.toNat : Int), d.month, d.day⟩ : CalendarDate).Exists := by
    rw [hyear]
    exact hd
  rw [readLayout, hreads, Option.filter_some, Reading.date, if_pos (decide_eq_true hexists)]

theorem CalendarDate.isIsoDate_iso {d : CalendarDate} (hd : d.Exists) (hlow : 0 ≤ d.year)
    (hhigh : d.year < 10000) : isIsoDate d.iso = true := by
  rw [isIsoDate, readLayout_iso hd hlow hhigh, Option.isSome_some]

end Stockroom

import Stockroom.Proofs.Json.RoundTrip

/-!
Written values that are cut off. A string ends at its first closing quote, whatever follows, so what is
left of an object with one text does not read as a value, wherever in the text it breaks off.

Main statements:
* `Json.readPieces_ends`: what a string uses up, and that the rest does not matter;
* `Json.readPieces_cut`: a written string that is cut off does not end;
* `Json.read_cut`: nor does an object whose one member is that string.
-/
namespace Stockroom
set_option autoImplicit false

namespace Json

/-! ## Strings -/

/-- A string uses up what stands before its closing quote, and reads the same whatever follows. -/
theorem readPieces_ends {cs rest : List Char} {ps : List Piece}
    (h : readPieces cs = some (ps, rest)) :
    ∃ used, cs = used ++ '"' :: rest ∧
      ∀ more, readPieces (used ++ '"' :: more) = some (ps, more) := by
  fun_induction readPieces cs generalizing ps with
  | case1 => cases h
  | case2 rest =>
    cases h
    exact ⟨[], rfl, fun more => rfl⟩
  | case3 a b c d rest n hunit ih =>
    obtain ⟨⟨more, after⟩, hmore, heq⟩ := Option.map_eq_some_iff.mp h
    cases heq
    obtain ⟨used, rfl, hused⟩ := ih hmore
    refine ⟨'\\' :: 'u' :: a :: b :: c :: d :: used, rfl, fun more => ?_⟩
    simp only [List.cons_append, readPieces, hunit, hused, Option.map_some]
  | case4 => cases h
  | case5 e rest hnot c hsimple ih =>
    obtain ⟨⟨more, after⟩, hmore, heq⟩ := Option.map_eq_some_iff.mp h
    cases heq
    obtain ⟨used, rfl, hused⟩ := ih hmore
    have hletter : e ≠ 'u' := by
      rintro rfl
      cases hsimple
    refine ⟨'\\' :: e :: used, rfl, fun more => ?_⟩
    rw [List.cons_append, List.cons_append, readPieces_simple hletter hsimple, hused]
    rfl
  | case6 => cases h
  | case7 => cases h
  | case8 c rest hquote hunit hescape hplain ih =>
    obtain ⟨⟨more, after⟩, hmore, heq⟩ := Option.map_eq_some_iff.mp h
    cases heq
    obtain ⟨used, rfl, hused⟩ := ih hmore
    refine ⟨c :: used, rfl, fun more => ?_⟩
    have hchar : ¬ c.toNat < 0x20 ∧ c ≠ '\\' := by simpa using hplain
    rw [List.cons_append, readPieces_plain (fun heq => hquote heq) hchar.2 hchar.1, hused]
    rfl

section
variable {t key : Text} {tail kept rest junk after : List Char} {ps : List Piece}

/-- A written string that is cut off ends only at the quote that was written: if that is gone, and what
stands in place of the rest has none, it does not end. -/
theorem readPieces_cut (hcut : t.flatMap escapedGlyph ++ '"' :: tail = kept ++ rest)
    (hjunk : '"' ∉ junk) (h : readPieces (kept ++ junk) = some (ps, after)) :
    ∃ beyond, tail = beyond ++ rest ∧ after = beyond ++ junk := by
  obtain ⟨used, hsplit, hused⟩ := readPieces_ends h
  obtain ⟨gap, -, hgap⟩ | ⟨gap, rfl, hgap⟩ := List.append_eq_append_iff.mp hsplit
  · -- the quote would be in what stands in place of the rest
    exact absurd (hgap ▸ List.mem_append_right gap List.mem_cons_self) hjunk
  · cases gap with
    | nil =>
      obtain rfl : '"' :: after = junk := hgap
      exact absurd List.mem_cons_self hjunk
    | cons c beyond =>
      obtain ⟨rfl, rfl⟩ := List.cons.inj hgap
      have hwhole := hused (beyond ++ rest)
      rw [List.append_assoc, List.cons_append] at hcut
      rw [← hcut, readPieces_escapes] at hwhole
      exact ⟨beyond, (Prod.mk.inj (Option.some.inj hwhole)).2, rfl⟩

/-! ## An object with one text -/

/-- Nothing that starts with a character of several bytes goes on with an object. -/
theorem skipSpace_large (h : ∀ c ∈ junk, 128 ≤ c.toNat) : skipSpace junk = junk := by
  cases junk with
  | nil => rfl
  | cons c junk =>
    have hc := h c List.mem_cons_self
    have hne (d : Char) (hd : d.toNat < 128) : (c == d) = false :=
      beq_eq_false_iff_ne.mpr fun heq => absurd (heq ▸ hc) (by omega)
    refine skipSpace_cons ?_ junk
    simp only [isSpace, hne ' ' (by decide), hne '\t' (by decide), hne '\n' (by decide),
      hne '\r' (by decide), Bool.or_self]

theorem readMembers_cut (hcut : t.flatMap escapedGlyph ++ ['"', '}'] = kept ++ rest)
    (hrest : rest ≠ []) (hjunk : ∀ c ∈ junk, 128 ≤ c.toNat) (fuel depth : Nat) :
    readMembers (fuel + 2) depth (renderString key ++ ':' :: '"' :: (kept ++ junk)) = none := by
  have hne {d : Char} (hd : d.toNat < 128) : d ∉ junk := fun hmem => absurd (hjunk d hmem) (by omega)
  rw [readMembers_key (skipSpace_cons (by decide) _), readValue, readString]
  cases hread : readPieces (kept ++ junk) with
  | none => rfl
  | some p =>
    obtain ⟨ps, after⟩ := p
    obtain ⟨beyond, htail, rfl⟩ := readPieces_cut hcut (hne (by decide)) hread
    have hbeyond : beyond = [] := by
      cases beyond with
      | nil => rfl
      | cons c beyond =>
        have hlast := List.append_eq_nil_iff.mp (List.cons.inj htail).2.symm
        exact absurd hlast.2 hrest
    subst hbeyond
    simp only [Option.map_some, Option.bind_some, List.nil_append, skipSpace_large hjunk]
    split
    · exact absurd List.mem_cons_self (hne (by decide))
    · exact absurd List.mem_cons_self (hne (by decide))
    · rfl

/-- An object whose one member is a text is not read once the end of it is gone. -/
theorem read_cut (hcut : t.flatMap escapedGlyph ++ ['"', '}'] = kept ++ rest) (hrest : rest ≠ [])
    (hjunk : ∀ c ∈ junk, 128 ≤ c.toNat) :
    read ('{' :: (renderString key ++ ':' :: '"' :: (kept ++ junk))) = none := by
  have hmembers (fuel : Nat) := @readMembers_cut t key kept rest junk hcut hrest hjunk fuel 1
  obtain ⟨inner, hinner⟩ : ∃ inner,
      renderString key ++ ':' :: '"' :: (kept ++ junk) = '"' :: inner := ⟨_, rfl⟩
  rw [hinner] at hmembers ⊢
  have hvalue (fuel : Nat) : readValue (fuel + 3) 0 ('{' :: '"' :: inner) = none := by
    rw [readValue, if_neg (by decide), skipSpace_cons (by decide)]
    change Option.map _ (readMembers (fuel + 2) 1 ('"' :: inner)) = none
    rw [hmembers, Option.map_none]
  obtain ⟨fuel, hfuel⟩ : ∃ fuel, 2 * ('{' :: '"' :: inner).length + 2 = fuel + 3 :=
    ⟨2 * inner.length + 3, by simp only [List.length_cons]; omega⟩
  rw [read, readFirst, skipSpace_cons (by decide), hfuel, hvalue]

end

end Json
end Stockroom

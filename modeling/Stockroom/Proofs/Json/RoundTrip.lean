import Stockroom.Proofs.Json.Literal

/-!
Written values are read back, if their numbers are integers and they are not nested too deep. Texts
come back mended, and each member of an object carries the source it was read from.

Main definitions and statements:
* `Json.Whole`, `Json.height`: all numbers are integers, and how deep a value is nested;
* `Json.legible`: a value as it is read back;
* `Json.readValue_render`: a written value is read up to what follows it;
* `Json.readFirst_render`, `Json.read_render`: the value of a text.
-/
namespace Stockroom
set_option autoImplicit false

namespace Json

/-! ## Values that are read back -/

mutual

/-- All numbers are integers. -/
def Whole : Json → Prop
  | .null | .bool _ | .string _ => True
  | .number literal => ∃ i, literal = (Text.ofInt i).toChars
  | .array items => WholeItems items
  | .object members => WholeMembers members

def WholeItems : List Json → Prop
  | [] => True
  | v :: rest => Whole v ∧ WholeItems rest

def WholeMembers : List (Text × List Char × Json) → Prop
  | [] => True
  | (_, _, v) :: rest => Whole v ∧ WholeMembers rest

end

mutual

/-- How deep arrays and objects are nested. -/
def height : Json → Nat
  | .null | .bool _ | .number _ | .string _ => 0
  | .array items => heightItems items + 1
  | .object members => heightMembers members + 1

def heightItems : List Json → Nat
  | [] => 0
  | v :: rest => max (height v) (heightItems rest)

def heightMembers : List (Text × List Char × Json) → Nat
  | [] => 0
  | (_, _, v) :: rest => max (height v) (heightMembers rest)

end

mutual

/-- A value as it is read back. -/
def legible : Json → Json
  | .null => .null
  | .bool b => .bool b
  | .number literal => .number literal
  | .string s => .string s.mended
  | .array items => .array (legibleItems items)
  | .object members => .object (legibleMembers members)

def legibleItems : List Json → List Json
  | [] => []
  | v :: rest => legible v :: legibleItems rest

def legibleMembers : List (Text × List Char × Json) → List (Text × List Char × Json)
  | [] => []
  | (key, _, v) :: rest => (key.mended, v.render, legible v) :: legibleMembers rest

end

/-! ## What written values start with -/

/-- A character that starts a value: no space, and nothing that closes an array or an object. -/
def Opens (c : Char) : Prop := isSpace c = false ∧ c ≠ ']' ∧ c ≠ '}'

theorem opens_digit {c : Char} (h : c.isDigit = true) : Opens c :=
  ⟨by simp [isSpace, digit_ne h (d := ' ') (by decide), digit_ne h (d := '\t') (by decide),
      digit_ne h (d := '\n') (by decide), digit_ne h (d := '\r') (by decide)],
    digit_ne h (by decide), digit_ne h (by decide)⟩

theorem ofInt_opens (i : Int) : ∃ c cs, (Text.ofInt i).toChars = c :: cs ∧ Opens c := by
  rw [toChars_ofInt]
  split
  · exact ⟨'-', _, rfl, by decide, by decide, by decide⟩
  · obtain ⟨c, cs, hcs, hc, -⟩ := toDigits_eq_cons i.natAbs
    exact ⟨c, cs, hcs, opens_digit hc⟩

theorem render_opens {v : Json} (h : Whole v) : ∃ c cs, v.render = c :: cs ∧ Opens c := by
  cases v with
  | null => exact ⟨'n', _, rfl, by decide, by decide, by decide⟩
  | bool b =>
    cases b with
    | false => exact ⟨'f', _, rfl, by decide, by decide, by decide⟩
    | true => exact ⟨'t', _, rfl, by decide, by decide, by decide⟩
  | number literal =>
    obtain ⟨i, rfl⟩ := h
    exact ofInt_opens i
  | string s => exact ⟨'"', _, rfl, by decide, by decide, by decide⟩
  | array items => exact ⟨'[', _, rfl, by decide, by decide, by decide⟩
  | object members => exact ⟨'{', _, rfl, by decide, by decide, by decide⟩

theorem skipSpace_cons {c : Char} (h : isSpace c = false) (cs : List Char) :
    skipSpace (c :: cs) = c :: cs := by
  rw [skipSpace, List.dropWhile_cons, h]
  rfl

theorem skipSpace_render {v : Json} (h : Whole v) (rest : List Char) :
    skipSpace (v.render ++ rest) = v.render ++ rest := by
  obtain ⟨c, cs, hcs, hc⟩ := render_opens h
  rw [hcs, List.cons_append, skipSpace_cons hc.1]

/-! ## Reading values -/

theorem readValue_number {fuel depth : Nat} {c : Char} {cs literal rest : List Char}
    (hc : c = '-' ∨ c.isDigit = true) (h : readNumber (c :: cs) = some (literal, rest)) :
    readValue (fuel + 1) depth (c :: cs) = some (.number literal, rest) := by
  have hne {d : Char} (hminus : d ≠ '-') (hdigit : d.isDigit = false) : c ≠ d := by
    rintro rfl
    rcases hc with rfl | hc
    · exact hminus rfl
    · rw [hc] at hdigit
      cases hdigit
  rw [readValue, h, Option.map_some]
  · rintro _ heq; exact hne (d := 'n') (by decide) (by decide) (List.cons.inj heq).1
  · rintro _ heq; exact hne (d := 't') (by decide) (by decide) (List.cons.inj heq).1
  · rintro _ heq; exact hne (d := 'f') (by decide) (by decide) (List.cons.inj heq).1
  · rintro _ heq; exact hne (d := '"') (by decide) (by decide) (List.cons.inj heq).1
  · rintro _ heq; exact hne (d := '[') (by decide) (by decide) (List.cons.inj heq).1
  · rintro _ heq; exact hne (d := '{') (by decide) (by decide) (List.cons.inj heq).1

theorem readValue_ofInt (i : Int) (fuel depth : Nat) {rest : List Char} (h : Ends rest) :
    readValue (fuel + 1) depth ((Text.ofInt i).toChars ++ rest) =
      some (.number (Text.ofInt i).toChars, rest) := by
  have hread := readNumber_ofInt i h
  have hhead : ∃ c cs, (Text.ofInt i).toChars = c :: cs ∧ (c = '-' ∨ c.isDigit = true) := by
    rw [toChars_ofInt]
    split
    · exact ⟨'-', _, rfl, .inl rfl⟩
    · obtain ⟨c, cs, hcs, hc, -⟩ := toDigits_eq_cons i.natAbs
      exact ⟨c, cs, hcs, .inr hc⟩
  obtain ⟨c, cs, hcs, hc⟩ := hhead
  rw [hcs, List.cons_append] at hread ⊢
  exact readValue_number hc hread

theorem consumed_append (before after : List Char) : consumed (before ++ after) after = before := by
  rw [consumed, List.length_append, Nat.add_sub_cancel, List.take_left]

/-- The items of an array are read by a reader that reads each of them. -/
theorem readValue_array {items : List Json} {fuel depth : Nat} {rest : List Char}
    (hv : WholeItems items) (hdepth : depth < maxDepth)
    (h : items ≠ [] → readItems fuel (depth + 1) (renderItems items ++ ']' :: rest) =
      some (legibleItems items, rest)) :
    readValue (fuel + 1) depth ('[' :: (renderItems items ++ ']' :: rest)) =
      some (.array (legibleItems items), rest) := by
  rw [readValue, if_neg (by omega)]
  cases items with
  | nil => rfl
  | cons v more =>
    have hread := h (by simp)
    obtain ⟨c, cs, hcs, hc⟩ := render_opens hv.1
    have hitems : ∃ tail, renderItems (v :: more) = c :: tail := by
      cases more with
      | nil => exact ⟨cs, hcs⟩
      | cons w more => exact ⟨_, by rw [renderItems, hcs, List.cons_append]; simp⟩
    obtain ⟨tail, htail⟩ := hitems
    rw [htail, List.cons_append] at hread ⊢
    rw [skipSpace_cons hc.1]
    split
    · next heq => exact absurd (List.cons.inj heq).1 hc.2.1
    · rw [hread, Option.map_some]

/-- The members of an object are read by a reader that reads each of them. -/
theorem readValue_object {members : List (Text × List Char × Json)} {fuel depth : Nat}
    {rest : List Char} (hdepth : depth < maxDepth)
    (h : members ≠ [] → readMembers fuel (depth + 1) (renderMembers members ++ '}' :: rest) =
      some (legibleMembers members, rest)) :
    readValue (fuel + 1) depth ('{' :: (renderMembers members ++ '}' :: rest)) =
      some (.object (legibleMembers members), rest) := by
  rw [readValue, if_neg (by omega)]
  cases members with
  | nil => rfl
  | cons m more =>
    have hread := h (by simp)
    have hmembers : ∃ tail, renderMembers (m :: more) = '"' :: tail := by
      obtain ⟨key, source, v⟩ := m
      cases more with
      | nil => exact ⟨_, rfl⟩
      | cons w more => exact ⟨_, rfl⟩
    obtain ⟨tail, htail⟩ := hmembers
    rw [htail, List.cons_append] at hread ⊢
    rw [skipSpace_cons (by decide)]
    split
    · next heq => exact absurd (List.cons.inj heq).1 (by decide)
    · rw [hread, Option.map_some]

theorem ends_comma (rest : List Char) : Ends (',' :: rest) := ends_cons rest (by decide)

theorem ends_bracket (rest : List Char) : Ends (']' :: rest) := ends_cons rest (by decide)

theorem ends_brace (rest : List Char) : Ends ('}' :: rest) := ends_cons rest (by decide)

section
variable {v : Json} {key : Text} {fuel depth : Nat} {rest : List Char}

theorem readItems_last (hv : Whole v)
    (h : readValue fuel depth (v.render ++ ']' :: rest) = some (legible v, ']' :: rest)) :
    readItems (fuel + 1) depth (v.render ++ ']' :: rest) = some ([legible v], rest) := by
  rw [readItems, skipSpace_render hv, h]
  rfl

theorem readItems_more {vs : List Json} {after : List Char} (hv : Whole v)
    (h : readValue fuel depth (v.render ++ ',' :: rest) = some (legible v, ',' :: rest))
    (hmore : readItems fuel depth rest = some (vs, after)) :
    readItems (fuel + 1) depth (v.render ++ ',' :: rest) = some (legible v :: vs, after) := by
  have hcomma : skipSpace (',' :: rest) = ',' :: rest := skipSpace_cons (by decide) rest
  rw [readItems, skipSpace_render hv, h]
  simp only [Option.bind_eq_bind, Option.bind_some, hcomma, hmore, Option.pure_def]

/-- What is read of a member before its value. -/
theorem readMembers_key {start : List Char} (hstart : skipSpace start = start) :
    readMembers (fuel + 1) depth (renderString key ++ ':' :: start) =
      (readValue fuel depth start).bind fun (v', rest') =>
        match skipSpace rest' with
        | '}' :: after => some ([(key.mended, consumed start rest', v')], after)
        | ',' :: more => (readMembers fuel depth more).bind fun (entries, after) =>
          some ((key.mended, consumed start rest', v') :: entries, after)
        | _ => none := by
  have hquote : skipSpace (renderString key ++ ':' :: start) =
      '"' :: (key.flatMap escapedGlyph ++ '"' :: (':' :: start)) := by
    rw [renderString, List.cons_append, skipSpace_cons (by decide), List.append_assoc]
    rfl
  have hcolon : skipSpace (':' :: start) = ':' :: start := skipSpace_cons (by decide) _
  rw [readMembers, hquote]
  simp only [readString_escaped, Option.bind_eq_bind, Option.bind_some, hcolon, hstart]
  rfl

theorem readMembers_last (hv : Whole v)
    (h : readValue fuel depth (v.render ++ '}' :: rest) = some (legible v, '}' :: rest)) :
    readMembers (fuel + 1) depth (renderString key ++ ':' :: (v.render ++ '}' :: rest)) =
      some ([(key.mended, v.render, legible v)], rest) := by
  have hbrace : skipSpace ('}' :: rest) = '}' :: rest := skipSpace_cons (by decide) rest
  rw [readMembers_key (skipSpace_render hv _), h]
  simp only [Option.bind_some, hbrace, consumed_append]

theorem readMembers_more {members : List (Text × List Char × Json)} {after : List Char}
    (hv : Whole v)
    (h : readValue fuel depth (v.render ++ ',' :: rest) = some (legible v, ',' :: rest))
    (hmore : readMembers fuel depth rest = some (members, after)) :
    readMembers (fuel + 1) depth (renderString key ++ ':' :: (v.render ++ ',' :: rest)) =
      some ((key.mended, v.render, legible v) :: members, after) := by
  have hcomma : skipSpace (',' :: rest) = ',' :: rest := skipSpace_cons (by decide) rest
  rw [readMembers_key (skipSpace_render hv _), h]
  simp only [Option.bind_some, hcomma, hmore, consumed_append]

end

-- The recursion is that of the writer. The steps that are left suffice, since every step of the
-- reader goes past a character that was written, or enters a value.
mutual

theorem readValue_render (v : Json) (hv : Whole v) (fuel depth : Nat) (rest : List Char)
    (hfuel : 2 * v.render.length ≤ fuel) (hdepth : depth + height v ≤ maxDepth)
    (hrest : Ends rest) : readValue fuel depth (v.render ++ rest) = some (legible v, rest) := by
  obtain ⟨c, cs, hcs, hc⟩ := render_opens hv
  cases fuel with
  | zero =>
    rw [hcs] at hfuel
    simp at hfuel
  | succ fuel =>
    match v, hv, hfuel, hdepth with
    | .null, _, _, _ => rfl
    | .bool true, _, _, _ => rfl
    | .bool false, _, _, _ => rfl
    | .number literal, hv, _, _ =>
      obtain ⟨i, rfl⟩ := hv
      exact readValue_ofInt i fuel depth hrest
    | .string s, _, _, _ =>
      simp only [render, renderString, List.cons_append, List.append_assoc, List.nil_append,
        readValue, readString_escaped, Option.map_some, legible]
    | .array items, hv, hfuel, hdepth =>
      rw [height] at hdepth
      simp only [render, List.length_cons, List.length_append, List.cons_append, List.append_assoc,
        List.nil_append] at hfuel ⊢
      refine readValue_array hv (by omega) fun hne => ?_
      exact readItems_render items hne hv fuel (depth + 1) rest (by omega) (by omega)
    | .object members, hv, hfuel, hdepth =>
      rw [height] at hdepth
      simp only [render, List.length_cons, List.length_append, List.cons_append, List.append_assoc,
        List.nil_append] at hfuel ⊢
      refine readValue_object (by omega) fun hne => ?_
      exact readMembers_render members hne hv fuel (depth + 1) rest (by omega) (by omega)

theorem readItems_render (items : List Json) (hne : items ≠ []) (hv : WholeItems items)
    (fuel depth : Nat) (rest : List Char) (hfuel : 2 * (renderItems items).length + 1 ≤ fuel)
    (hdepth : depth + heightItems items ≤ maxDepth) :
    readItems fuel depth (renderItems items ++ ']' :: rest) = some (legibleItems items, rest) := by
  cases fuel with
  | zero => omega
  | succ fuel =>
    match items, hne, hv, hfuel, hdepth with
    | [v], _, hv, hfuel, hdepth =>
      rw [renderItems] at hfuel ⊢
      simp only [heightItems] at hdepth
      exact readItems_last hv.1 (readValue_render v hv.1 fuel depth _ (by omega) (by omega)
        (ends_bracket rest))
    | v :: w :: more, _, hv, hfuel, hdepth =>
      rw [heightItems] at hdepth
      rw [renderItems] at hfuel ⊢
      · simp only [List.length_append, List.length_cons] at hfuel
        simp only [List.append_assoc, List.cons_append]
        refine readItems_more hv.1 (readValue_render v hv.1 fuel depth _ (by omega) (by omega)
          (ends_comma _)) ?_
        exact readItems_render (w :: more) (by simp) hv.2 fuel depth rest (by omega) (by omega)
      · simp
      · simp

theorem readMembers_render (members : List (Text × List Char × Json)) (hne : members ≠ [])
    (hv : WholeMembers members) (fuel depth : Nat) (rest : List Char)
    (hfuel : 2 * (renderMembers members).length + 1 ≤ fuel)
    (hdepth : depth + heightMembers members ≤ maxDepth) :
    readMembers fuel depth (renderMembers members ++ '}' :: rest) =
      some (legibleMembers members, rest) := by
  cases fuel with
  | zero => omega
  | succ fuel =>
    match members, hne, hv, hfuel, hdepth with
    | [(key, source, v)], _, hv, hfuel, hdepth =>
      simp only [renderMembers, List.length_append, List.length_cons] at hfuel
      simp only [heightMembers] at hdepth
      simp only [renderMembers, List.append_assoc, List.cons_append]
      exact readMembers_last hv.1 (readValue_render v hv.1 fuel depth _ (by omega) (by omega)
        (ends_brace rest))
    | (key, source, v) :: w :: more, _, hv, hfuel, hdepth =>
      rw [heightMembers] at hdepth
      rw [renderMembers] at hfuel ⊢
      · simp only [List.length_append, List.length_cons] at hfuel
        simp only [List.append_assoc, List.cons_append]
        refine readMembers_more hv.1 (readValue_render v hv.1 fuel depth _ (by omega) (by omega)
          (ends_comma _)) ?_
        exact readMembers_render (w :: more) (by simp) hv.2 fuel depth rest (by omega) (by omega)
      · simp
      · simp

end

/-! ## Whole texts -/

/-- The first value of a text is the one written there. -/
theorem readFirst_render {v : Json} (hv : Whole v) (hdepth : height v ≤ maxDepth)
    {rest : List Char} (hrest : Ends rest) :
    readFirst (v.render ++ rest) = some (legible v, rest) := by
  rw [readFirst, skipSpace_render hv]
  exact readValue_render v hv _ 0 rest (by rw [List.length_append]; omega) (by omega) hrest

/-- White space may follow. -/
theorem read_render_space {v : Json} (hv : Whole v) (hdepth : height v ≤ maxDepth)
    {rest : List Char} (hrest : Ends rest) (hspace : skipSpace rest = []) :
    read (v.render ++ rest) = some (legible v) := by
  simp only [read, readFirst_render hv hdepth hrest, hspace]
  rfl

theorem read_render {v : Json} (hv : Whole v) (hdepth : height v ≤ maxDepth) :
    read v.render = some (legible v) := by
  have hread := read_render_space hv hdepth ends_nil rfl
  rwa [List.append_nil] at hread

end Json
end Stockroom

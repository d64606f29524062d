import Mathlib.Data.List.Chain
import Mathlib.Data.List.Flatten
import Stockroom.Proofs.Intake.Settled
import Stockroom.Proofs.Text.Cut

/-!
What the cleaning of e-mail addresses gives: nothing, or an address with one at sign, a dot somewhere
after it and none next to it, and no semicolon or comma. White space is all that may be left in it. It
is dropped before the bytes around it are read again, and some of these then spell white space; an
address that has some is not settled, as the next cleaning drops it.

Main definitions and statements:
* `Text.Unspaced`, `EmailAddress`: texts without white space, and addresses;
* `tidyEmail_eq_mended`, `tidyEmail_unspaced`: tidying as reading again, then mending and dropping;
* `cleanEmail_settled`, `cleanEmail_unspaced`: addresses that cleaning again leaves as they are;
* `cleanEmail_address`: what is stored, when it is settled, and what is stored unchanged.
-/
namespace Stockroom
set_option autoImplicit false

/-! ## White space -/

namespace Text

/-- There is no white space in a text. -/
def Unspaced (t : Text) : Prop := ∀ g ∈ t, g.isBlank = false

instance (t : Text) : Decidable t.Unspaced := inferInstanceAs (Decidable (∀ g ∈ t, _))

theorem Unspaced.squeeze {t : Text} (h : t.Unspaced) : t.squeeze = t :=
  List.filter_eq_self.mpr fun g hg => by rw [h g hg]; rfl

theorem squeeze_unspaced (t : Text) : t.squeeze.Unspaced := fun _ hg => by
  simpa using (List.mem_filter.mp hg).2

theorem squeeze_trimStart (t : Text) : t.trimStart.squeeze = t.squeeze := by
  induction t with
  | nil => rfl
  | cons g t ih =>
    cases hg : g.isBlank with
    | false => rw [trimStart, List.dropWhile_cons_of_neg (by simp [hg])]
    | true =>
      rw [trimStart, List.dropWhile_cons_of_pos hg, squeeze, squeeze,
        List.filter_cons_of_neg (by simp [hg])]
      exact ih

theorem squeeze_reverse (t : Text) : squeeze t.reverse = t.squeeze.reverse := List.filter_reverse

theorem squeeze_trim (t : Text) : t.trim.squeeze = t.squeeze := by
  have hend (s : Text) : s.trimEnd = (trimStart s.reverse).reverse := rfl
  rw [trim, hend, squeeze_reverse, squeeze_trimStart, squeeze_reverse, List.reverse_reverse,
    squeeze_trimStart]

end Text

/-! ## Mending and dropping -/

theorem mendSeparator_mendSeparator (g : Glyph) :
    mendSeparator (mendSeparator g) = mendSeparator g := by
  by_cases h : g = .char ';' ∨ g = .char ','
  · have hdot : mendSeparator g = dot := if_pos h
    rw [hdot]
    decide
  · have hsame : mendSeparator g = g := if_neg h
    rw [hsame, hsame]

theorem mendSeparator_eq_self {g : Glyph} (hsemicolon : g ≠ .char ';') (hcomma : g ≠ .char ',') :
    mendSeparator g = g :=
  if_neg fun h => h.elim hsemicolon hcomma

/-- The byte of a separator becomes that of a dot. -/
def mendByte (b : UInt8) : UInt8 := if b = 59 ∨ b = 44 then 46 else b

theorem mendSeparator_replacement : Text.Replacement mendByte mendSeparator where
  low b hb := by
    have hchar {c : UInt8} (hc : Text.isHigh c = false) :
        Glyph.char (Char.ofNat b.toNat) = .char (Char.ofNat c.toNat) ↔ b = c := by
      constructor
      · intro h
        have hbytes := congrArg Glyph.bytes h
        rw [Text.glyph_bytes_low hb, Text.glyph_bytes_low hc] at hbytes
        exact List.singleton_inj.mp hbytes
      · exact fun h => h ▸ rfl
    have hsemicolon := hchar (c := 59) (by decide)
    have hcomma := hchar (c := 44) (by decide)
    by_cases h : b = 59 ∨ b = 44
    · have hbyte : mendByte b = 46 := if_pos h
      have hglyph : mendSeparator (.char (Char.ofNat b.toNat)) = dot :=
        if_pos (h.imp hsemicolon.mpr hcomma.mpr)
      rw [hbyte, hglyph]
      exact ⟨by decide, rfl⟩
    · have hbyte : mendByte b = b := if_neg h
      have hglyph : mendSeparator (.char (Char.ofNat b.toNat)) = .char (Char.ofNat b.toNat) :=
        if_neg fun hg => h (hg.imp hsemicolon.mp hcomma.mp)
      rw [hbyte, hglyph]
      exact ⟨hb, rfl⟩
  high b hb := by
    refine ⟨if_neg ?_, if_neg (by simp)⟩
    rintro (rfl | rfl) <;> exact absurd hb (by decide)
  large c hc := by
    refine mendSeparator_eq_self ?_ ?_ <;>
    · intro h
      obtain rfl := Glyph.char.inj h
      exact absurd hc (by decide)

@[simp] theorem isBlank_mendSeparator (g : Glyph) : (mendSeparator g).isBlank = g.isBlank := by
  unfold mendSeparator
  split
  · next h => obtain rfl | rfl := h <;> rfl
  · rfl

/-! ### Dots next to at signs -/

/-- No dot stands right before an at sign. -/
def DotApart (g h : Glyph) : Prop := ¬ (g = dot ∧ h = atSign)

/-- No dot stands right after an at sign. -/
def AtApart (g h : Glyph) : Prop := DotApart h g

theorem isChain_dropDotsBeforeAt (t : Text) : (dropDotsBeforeAt t).IsChain DotApart := by
  induction t with
  | nil => exact List.isChain_nil
  | cons g rest ih =>
    rw [dropDotsBeforeAt]
    split
    · exact ih
    · next hkept =>
      refine List.isChain_cons.mpr ⟨fun h hh hboth => hkept ⟨hboth.1, ?_⟩, ih⟩
      rw [hboth.2] at hh
      exact hh

theorem head?_dropDotsBeforeAt {t : Text} (h : ∀ g ∈ t.head?, g ≠ dot) :
    (dropDotsBeforeAt t).head? = t.head? := by
  cases t with
  | nil => rfl
  | cons g rest =>
    rw [dropDotsBeforeAt]
    split
    · next hboth => exact absurd hboth.1 (h g rfl)
    · rfl

/-- Dropping dots before at signs moves none to the place after one. -/
theorem dropDotsBeforeAt_keeps {t : Text} (h : t.IsChain AtApart) :
    (dropDotsBeforeAt t).IsChain AtApart := by
  induction t with
  | nil => exact List.isChain_nil
  | cons g rest ih =>
    obtain ⟨hnext, hrest⟩ := List.isChain_cons.mp h
    rw [dropDotsBeforeAt]
    split
    · exact ih hrest
    · refine List.isChain_cons.mpr ⟨fun k hk hboth => ?_, ih hrest⟩
      obtain ⟨rfl, rfl⟩ := hboth
      have hhead : ∀ g ∈ rest.head?, g ≠ dot := fun g hg heq => hnext g hg ⟨heq, rfl⟩
      rw [head?_dropDotsBeforeAt hhead] at hk
      exact hhead dot hk rfl

theorem dropDotsBeforeAt_eq_self {t : Text} (h : t.IsChain DotApart) : dropDotsBeforeAt t = t := by
  induction t with
  | nil => rfl
  | cons g rest ih =>
    obtain ⟨hnext, hrest⟩ := List.isChain_cons.mp h
    have hsame := ih hrest
    simp only [dropDotsBeforeAt, hsame]
    exact if_neg fun hboth => hnext atSign hboth.2 ⟨hboth.1, rfl⟩

theorem dropDotsAfterAt_eq_self {t : Text} (h : t.IsChain AtApart) : dropDotsAfterAt t = t := by
  rw [dropDotsAfterAt, dropDotsBeforeAt_eq_self (List.isChain_reverse.mpr h), List.reverse_reverse]

theorem isChain_dropDotsAfterAt {t : Text} (h : t.IsChain DotApart) :
    (dropDotsAfterAt t).IsChain DotApart ∧ (dropDotsAfterAt t).IsChain AtApart := by
  have hreverse : t.reverse.IsChain AtApart := List.isChain_reverse.mpr h
  exact ⟨List.isChain_reverse.mpr (dropDotsBeforeAt_keeps hreverse),
    List.isChain_reverse.mpr (isChain_dropDotsBeforeAt t.reverse)⟩

/-- A dot is dropped, or nothing. -/
theorem filter_dropDotsBeforeAt (t : Text) :
    (dropDotsBeforeAt t).filter (· ≠ dot) = t.filter (· ≠ dot) := by
  induction t with
  | nil => rfl
  | cons g rest ih =>
    rw [dropDotsBeforeAt]
    split
    · next h => rw [ih, List.filter_cons_of_neg (by simp [h.1])]
    · rw [List.filter_cons, List.filter_cons, ih]

theorem filter_dropDotsAfterAt (t : Text) :
    (dropDotsAfterAt t).filter (· ≠ dot) = t.filter (· ≠ dot) := by
  rw [dropDotsAfterAt, List.filter_reverse, filter_dropDotsBeforeAt, List.filter_reverse,
    List.reverse_reverse]

theorem unspaced_iff_filter {t : Text} :
    t.Unspaced ↔ Text.Unspaced (t.filter (· ≠ dot)) := by
  refine ⟨fun h g hg => h g (List.mem_of_mem_filter hg), fun h g hg => ?_⟩
  by_cases hdot : g = dot
  · rw [hdot]
    decide
  · exact h g (List.mem_filter.mpr ⟨hg, by simpa using hdot⟩)

/-- Dots can be dropped before an at sign where a text was read from bytes. -/
theorem spelled_dropDotsBeforeAt {s t : Text} (h : (s ++ t).Spelled) :
    (s ++ dropDotsBeforeAt t).Spelled := by
  -- what is kept of `t` joins the text in front of it, which any text may be
  induction t generalizing s with
  | nil => exact h
  | cons g rest ih =>
    rw [dropDotsBeforeAt]
    split
    · next hboth =>
      obtain ⟨rfl, hhead⟩ := hboth
      obtain ⟨hleft, hright⟩ := (Text.spelled_cut (by decide)).mp h
      have hdropped : (dropDotsBeforeAt rest).Spelled := ih (s := []) hright
      obtain ⟨more, hmore⟩ := List.head?_eq_some_iff.mp hhead
      rw [hmore] at hdropped ⊢
      have hsign : Text.Spelled ([] ++ atSign :: more) := hdropped
      have hlast := ((Text.spelled_cut (by decide)).mp hsign).2
      exact (Text.spelled_cut (by decide)).mpr ⟨hleft, hlast⟩
    · have hstep : (s ++ [g] ++ dropDotsBeforeAt rest).Spelled := ih (by simpa using h)
      simpa using hstep

/-- The same from the other end. -/
theorem spelled_dropDotsAfterAt {s t : Text} (h : Text.Spelled (t.reverse ++ s)) :
    Text.Spelled ((dropDotsBeforeAt t).reverse ++ s) := by
  induction t generalizing s with
  | nil => exact h
  | cons g rest ih =>
    have hparts : Text.Spelled (rest.reverse ++ g :: s) := by simpa using h
    rw [dropDotsBeforeAt]
    split
    · next hboth =>
      obtain ⟨rfl, hhead⟩ := hboth
      obtain ⟨hleft, hright⟩ := (Text.spelled_cut (by decide)).mp hparts
      have hdropped : Text.Spelled ((dropDotsBeforeAt rest).reverse ++ []) := ih (by simpa using hleft)
      obtain ⟨more, hmore⟩ := List.head?_eq_some_iff.mp hhead
      rw [hmore] at hdropped ⊢
      have hsign : Text.Spelled (more.reverse ++ atSign :: []) := by simpa using hdropped
      have hfirst := ((Text.spelled_cut (by decide)).mp hsign).1
      have hjoined : Text.Spelled (more.reverse ++ atSign :: s) :=
        (Text.spelled_cut (by decide)).mpr ⟨hfirst, hright⟩
      simpa using hjoined
    · have hstep : Text.Spelled ((dropDotsBeforeAt rest).reverse ++ g :: s) := ih hparts
      simpa using hstep

/-! ## Tidied texts -/

/-- An address without white space and separators is as tidy as it can be. -/
theorem tidyEmail_eq_self {t : Text} (hspelled : t.Spelled) (hspace : t.Unspaced)
    (hmended : ∀ g ∈ t, mendSeparator g = g) (hdot : t.IsChain DotApart)
    (hat : t.IsChain AtApart) : tidyEmail t = t := by
  have hmap : t.map mendSeparator = t := by
    calc t.map mendSeparator = t.map id := List.map_congr_left hmended
      _ = t := List.map_id t
  rw [tidyEmail, Text.trim_eq_self hspace, hmap, hspace.squeeze, hspelled.rejoin,
    dropDotsBeforeAt_eq_self hdot, dropDotsAfterAt_eq_self hat]

section
variable {raw : Text} (hraw : ∀ b, .stray b ∈ raw → ¬ b < 0x80)
include hraw

theorem squeeze_stray : ∀ b, .stray b ∈ raw.squeeze → ¬ b < 0x80 :=
  fun b hb => hraw b (List.mem_of_mem_filter hb)

/-- Separators may be mended last. -/
theorem tidyEmail_eq_mended :
    tidyEmail raw = dropDotsAfterAt (dropDotsBeforeAt (raw.squeeze.rejoin.map mendSeparator)) := by
  have hsqueeze : Text.squeeze (raw.trim.map mendSeparator) = raw.squeeze.map mendSeparator := by
    calc Text.squeeze (raw.trim.map mendSeparator)
      _ = raw.trim.squeeze.map mendSeparator := by
        rw [Text.squeeze, Text.squeeze, List.filter_map]
        simp only [Function.comp_def, isBlank_mendSeparator]
      _ = raw.squeeze.map mendSeparator := by rw [Text.squeeze_trim]
  rw [tidyEmail, hsqueeze, mendSeparator_replacement.rejoin_map (squeeze_stray hraw)]

theorem tidyEmail_sublist : (tidyEmail raw).Sublist (raw.squeeze.rejoin.map mendSeparator) := by
  rw [tidyEmail_eq_mended hraw]
  exact (dropDotsAfterAt_sublist _).trans (dropDotsBeforeAt_sublist _)

theorem mendSeparator_tidyEmail : ∀ g ∈ tidyEmail raw, mendSeparator g = g := by
  intro g hg
  obtain ⟨source, -, rfl⟩ := List.mem_map.mp ((tidyEmail_sublist hraw).subset hg)
  exact mendSeparator_mendSeparator source

/-- The white space of a tidied text is what reading again brings about. -/
theorem tidyEmail_unspaced : (tidyEmail raw).Unspaced ↔ raw.squeeze.rejoin.Unspaced := by
  rw [tidyEmail_eq_mended hraw, unspaced_iff_filter, filter_dropDotsAfterAt, filter_dropDotsBeforeAt,
    ← unspaced_iff_filter]
  simp [Text.Unspaced]

theorem tidyEmail_spelled : (tidyEmail raw).Spelled := by
  have hmended : Text.Spelled (raw.squeeze.rejoin.map mendSeparator) := by
    rw [← mendSeparator_replacement.rejoin_map (squeeze_stray hraw)]
    exact Text.spelled_rejoin _
  have hbefore : (dropDotsBeforeAt (raw.squeeze.rejoin.map mendSeparator)).Spelled :=
    spelled_dropDotsBeforeAt (s := []) hmended
  have hafter := spelled_dropDotsAfterAt (s := [])
    (t := (dropDotsBeforeAt (raw.squeeze.rejoin.map mendSeparator)).reverse) (by simpa using hbefore)
  rw [tidyEmail_eq_mended hraw]
  simpa [dropDotsAfterAt] using hafter

/-- White space that is dropped makes a text shorter. -/
theorem tidyEmail_shorter (hspace : ¬ raw.Unspaced) :
    (tidyEmail raw).bytes.length < raw.bytes.length := by
  have hbytes {s t : Text} (hsub : s.Sublist t) : s.bytes.length ≤ t.bytes.length :=
    (hsub.flatMap Glyph.bytes).length_le
  have hmended : (Text.bytes (raw.squeeze.rejoin.map mendSeparator)).length =
      raw.squeeze.bytes.length := by
    rw [← mendSeparator_replacement.rejoin_map (squeeze_stray hraw), Text.bytes_rejoin,
      mendSeparator_replacement.bytes_map (squeeze_stray hraw), List.length_map]
  obtain ⟨g, hg, hblank⟩ : ∃ g ∈ raw, g.isBlank = true := by
    simpa [Text.Unspaced] using hspace
  obtain ⟨left, right, rfl⟩ := List.append_of_mem hg
  have hleft : Text.squeeze (left ++ g :: right) = Text.squeeze (left ++ right) := by
    simp [Text.squeeze, List.filter_append, hblank]
  have hfilled : 0 < (Text.bytes [g]).length :=
    List.length_pos_iff.mpr (Text.bytes_ne_nil (List.cons_ne_nil g []))
  calc (tidyEmail (left ++ g :: right)).bytes.length
    _ ≤ (Text.squeeze (left ++ g :: right)).bytes.length := hmended ▸ hbytes (tidyEmail_sublist hraw)
    _ ≤ (Text.bytes (left ++ right)).length := by
      rw [hleft]
      exact hbytes List.filter_sublist
    _ < (Text.bytes (left ++ ([g] ++ right))).length := by
      simp only [Text.bytes_append, List.length_append] at hfilled ⊢
      omega

end

/-! ## Addresses -/

/-- A text with one at sign, a dot somewhere after it and none next to it, and no separator that
stands for a dot. -/
structure EmailAddress where
  mailbox : Text
  domain : Text
  mailbox_sign : atSign ∉ mailbox
  domain_sign : atSign ∉ domain
  domain_dot : dot ∈ domain
  mailbox_last : mailbox.getLast? ≠ some dot
  domain_first : domain.head? ≠ some dot
  mended : ∀ g ∈ mailbox ++ domain, g ≠ .char ';' ∧ g ≠ .char ','

namespace EmailAddress

variable (a : EmailAddress)

def text : Text := a.mailbox ++ atSign :: a.domain

theorem mendSeparator_text : ∀ g ∈ a.text, mendSeparator g = g := by
  intro g hg
  obtain hg | hg := List.mem_append.mp hg
  · obtain ⟨hsemicolon, hcomma⟩ := a.mended g (List.mem_append_left _ hg)
    exact mendSeparator_eq_self hsemicolon hcomma
  obtain rfl | hg := List.mem_cons.mp hg
  · decide
  · obtain ⟨hsemicolon, hcomma⟩ := a.mended g (List.mem_append_right _ hg)
    exact mendSeparator_eq_self hsemicolon hcomma

theorem isChain_text : a.text.IsChain DotApart ∧ a.text.IsChain AtApart := by
  have hsignless {t : Text} (ht : atSign ∉ t) : t.IsChain DotApart ∧ t.IsChain AtApart := by
    have hapart : t.Pairwise DotApart ∧ t.Pairwise AtApart :=
      ⟨List.pairwise_of_forall_mem_list fun g _ h hh (hboth : _ ∧ _) => ht (hboth.2 ▸ hh),
        List.pairwise_of_forall_mem_list fun g hg h _ (hboth : _ ∧ _) => ht (hboth.2 ▸ hg)⟩
    exact hapart.imp List.Pairwise.isChain List.Pairwise.isChain
  obtain ⟨hmailbox, hmailbox'⟩ := hsignless a.mailbox_sign
  obtain ⟨hdomain, hdomain'⟩ := hsignless a.domain_sign
  constructor
  · refine List.isChain_append.mpr
      ⟨hmailbox, List.isChain_cons.mpr ⟨fun _ _ hboth => absurd hboth.1 (by decide), hdomain⟩, ?_⟩
    rintro g hg h hh ⟨rfl, -⟩
    exact a.mailbox_last hg
  · refine List.isChain_append.mpr
      ⟨hmailbox', List.isChain_cons.mpr ⟨?_, hdomain'⟩, ?_⟩
    · rintro g hg ⟨rfl, -⟩
      exact a.domain_first hg
    · rintro g hg h hh ⟨rfl, -⟩
      cases hh

theorem tidyEmail_text (hspelled : a.text.Spelled) (hspace : a.text.Unspaced) :
    tidyEmail a.text = a.text :=
  tidyEmail_eq_self hspelled hspace a.mendSeparator_text a.isChain_text.1 a.isChain_text.2

end EmailAddress

/-- What has the form of an address is taken or kept. -/
theorem cleanEmail_of_tidyEmail {raw : Text} {a : EmailAddress} (h : tidyEmail raw = a.text) :
    cleanEmail raw = a.text := by
  have hsplit : Text.splitOn atSign a.text = [a.mailbox, a.domain] :=
    Text.splitOn_eq_pair.mpr ⟨rfl, a.mailbox_sign, a.domain_sign⟩
  have hdot : a.domain.contains dot = true := List.contains_iff_mem.mpr a.domain_dot
  have hjudged : judgeEmail a.text = .taken a.text ∨ judgeEmail a.text = .kept a.text := by
    rw [judgeEmail, hsplit]
    dsimp only
    rw [if_pos hdot]
    exact ite_eq_or_eq _ _ _
  rw [cleanEmail, h]
  obtain hjudged | hjudged := hjudged <;> rw [hjudged]

theorem mem_of_hasInnerDot {t : Text} (h : hasInnerDot t = true) : dot ∈ t :=
  List.mem_of_mem_drop ((List.dropLast_sublist _).subset (List.contains_iff_mem.mp h))

/-- What is not dropped has one at sign and a dot after it. -/
theorem cleanEmail_shape (raw : Text) :
    cleanEmail raw = [] ∨ ∃ mailbox domain,
      Text.splitOn atSign (tidyEmail raw) = [mailbox, domain] ∧ dot ∈ domain := by
  refine Classical.or_iff_not_imp_right.mpr fun hshape => ?_
  have hjudged : judgeEmail (tidyEmail raw) = .dropped ∨
      judgeEmail (tidyEmail raw) = .taken (tidyEmail raw) ∧ tidyEmail raw = [] := by
    unfold judgeEmail
    split
    · next mailbox domain hsplit =>
      have hdotless : dot ∉ domain := fun hdot => hshape ⟨mailbox, domain, hsplit, hdot⟩
      rw [if_neg, if_neg]
      · exact .inl rfl
      · exact fun hdot => hdotless (List.contains_iff_mem.mp hdot)
      · exact fun hboth => hdotless (mem_of_hasInnerDot (Bool.and_eq_true_iff.mp hboth).2)
    · split
      · next hempty => exact .inr ⟨rfl, List.isEmpty_iff.mp hempty⟩
      · exact .inl rfl
  rw [cleanEmail]
  obtain hdropped | ⟨htaken, hempty⟩ := hjudged
  · rw [hdropped]
  · rw [htaken, hempty]

section
variable {raw : Text} (hraw : ∀ b, .stray b ∈ raw → ¬ b < 0x80)
include hraw

/-- What is stored is nothing, or the tidied text where that is an address. -/
theorem cleanEmail_cases :
    cleanEmail raw = [] ∨ ∃ a : EmailAddress, tidyEmail raw = a.text ∧ cleanEmail raw = a.text := by
  obtain hnone | ⟨mailbox, domain, hsplit, hdot⟩ := cleanEmail_shape raw
  · exact .inl hnone
  obtain ⟨htidy, hmailbox, hdomain⟩ := Text.splitOn_eq_pair.mp hsplit
  have hchains : (tidyEmail raw).IsChain DotApart ∧ (tidyEmail raw).IsChain AtApart :=
    isChain_dropDotsAfterAt
      (isChain_dropDotsBeforeAt (Text.squeeze (raw.trim.map mendSeparator)).rejoin)
  have hmended := mendSeparator_tidyEmail hraw
  rw [htidy] at hchains hmended
  obtain ⟨-, -, hbefore⟩ := List.isChain_append.mp hchains.1
  obtain ⟨-, hafter, -⟩ := List.isChain_append.mp hchains.2
  let a : EmailAddress :=
    { mailbox, domain
      mailbox_sign := hmailbox
      domain_sign := hdomain
      domain_dot := hdot
      mailbox_last := fun hlast => hbefore dot hlast atSign rfl ⟨rfl, rfl⟩
      domain_first := fun hfirst => (List.isChain_cons.mp hafter).1 dot hfirst ⟨rfl, rfl⟩
      mended := fun g hg => by
        have hmem : g ∈ mailbox ++ atSign :: domain :=
          ((List.sublist_cons_self atSign domain).append_left mailbox).subset hg
        have hsame := hmended g hmem
        constructor <;>
        · rintro rfl
          exact absurd hsame (by decide) }
  exact .inr ⟨a, htidy, cleanEmail_of_tidyEmail htidy⟩

theorem cleanEmail_spelled : (cleanEmail raw).Spelled := by
  obtain hnone | ⟨a, htidy, haddress⟩ := cleanEmail_cases hraw
  · rw [hnone]
    exact ⟨[], rfl⟩
  · rw [haddress, ← htidy]
    exact tidyEmail_spelled hraw

theorem cleanEmail_unspaced_iff :
    (cleanEmail raw).Unspaced ↔ cleanEmail raw = [] ∨ raw.squeeze.rejoin.Unspaced := by
  obtain hnone | ⟨a, htidy, haddress⟩ := cleanEmail_cases hraw
  · rw [hnone]
    exact iff_of_true (fun _ hg => nomatch hg) (.inl rfl)
  · have hfilled : cleanEmail raw ≠ [] := by
      rw [haddress]
      exact List.append_ne_nil_of_right_ne_nil _ (List.cons_ne_nil _ _)
    rw [or_iff_right hfilled, haddress, ← htidy]
    exact tidyEmail_unspaced hraw

theorem cleanEmail_settled (hspace : (cleanEmail raw).Unspaced) :
    cleanEmail (cleanEmail raw) = cleanEmail raw := by
  have hspelled := cleanEmail_spelled hraw
  obtain hnone | ⟨a, -, haddress⟩ := cleanEmail_cases hraw
  · rw [hnone]
    decide
  · rw [haddress] at hspelled hspace ⊢
    exact cleanEmail_of_tidyEmail (a.tidyEmail_text hspelled hspace)

/-- A text that cleaning leaves as it is holds no white space. -/
theorem unspaced_of_cleanEmail (hsame : cleanEmail raw = raw) : raw.Unspaced := by
  obtain hnone | ⟨a, htidy, haddress⟩ := cleanEmail_cases hraw
  · rw [← hsame, hnone]
    exact fun _ hg => nomatch hg
  · -- otherwise cleaning would have made it shorter
    refine Decidable.byContradiction fun hspace => ?_
    have hshorter := tidyEmail_shorter hraw hspace
    rw [htidy, ← haddress, hsame] at hshorter
    exact Nat.lt_irrefl _ hshorter

end

theorem cleanEmail_unspaced {raw : Text} (h : raw.wellFormed = true) :
    (cleanEmail raw).Unspaced := by
  have hsqueezed : raw.squeeze.wellFormed = true :=
    Text.wellFormed_of_sublist List.filter_sublist h
  have hsame : raw.squeeze.rejoin = raw.squeeze := if_pos hsqueezed
  refine (cleanEmail_unspaced_iff fun _ hb => (Text.spelled_of_wellFormed h).stray hb).mpr (.inr ?_)
  rw [hsame]
  exact raw.squeeze_unspaced

/-- What is stored for a text that was read from bytes is nothing or an address. It is settled just
if it holds no white space, and it holds some only if bytes spell some when the white space between
them is gone. What is stored unchanged are the addresses without white space. -/
theorem cleanEmail_address {raw : Text} (h : raw.Spelled) :
    (cleanEmail raw = [] ∨ ∃ a : EmailAddress, cleanEmail raw = a.text) ∧
    (cleanEmail (cleanEmail raw) = cleanEmail raw ↔ (cleanEmail raw).Unspaced) ∧
    ((cleanEmail raw).Unspaced ↔ cleanEmail raw = [] ∨ raw.squeeze.rejoin.Unspaced) ∧
    (raw.wellFormed = true → (cleanEmail raw).Unspaced) ∧
    (cleanEmail raw = raw ↔ raw = [] ∨ (∃ a : EmailAddress, raw = a.text) ∧ raw.Unspaced) := by
  have hraw : ∀ b, .stray b ∈ raw → ¬ b < 0x80 := fun _ hb => h.stray hb
  refine ⟨?address, ⟨?unspaced, cleanEmail_settled hraw⟩, cleanEmail_unspaced_iff hraw,
    cleanEmail_unspaced, ⟨fun hsame => ?shape, ?unchanged⟩⟩
  case address => exact (cleanEmail_cases hraw).imp id fun ⟨a, _, haddress⟩ => ⟨a, haddress⟩
  case unspaced => exact unspaced_of_cleanEmail fun _ hb => (cleanEmail_spelled hraw).stray hb
  case shape =>
    obtain hnone | ⟨a, -, haddress⟩ := cleanEmail_cases hraw
    · exact .inl (hsame.symm.trans hnone)
    · exact .inr ⟨⟨a, hsame.symm.trans haddress⟩, unspaced_of_cleanEmail hraw hsame⟩
  case unchanged =>
    rintro (rfl | ⟨⟨a, rfl⟩, hspace⟩)
    · decide
    · exact cleanEmail_of_tidyEmail (a.tidyEmail_text h hspace)

/-- An address with a comma for a dot, a blank and dots next to the at sign. -/
def scrawledAddress : Text := " jean;dupont..@. example,com"

theorem scrawledAddress_cleaned :
    scrawledAddress.Spelled ∧ cleanEmail scrawledAddress = Text.ofString "jean.dupont@example.com" ∧
      ((cleanEmail scrawledAddress = [] ∨ ∃ a : EmailAddress, cleanEmail scrawledAddress = a.text) ∧
        (cleanEmail (cleanEmail scrawledAddress) = cleanEmail scrawledAddress ↔
          (cleanEmail scrawledAddress).Unspaced) ∧
        ((cleanEmail scrawledAddress).Unspaced ↔
          cleanEmail scrawledAddress = [] ∨ scrawledAddress.squeeze.rejoin.Unspaced) ∧
        (scrawledAddress.wellFormed = true → (cleanEmail scrawledAddress).Unspaced) ∧
        (cleanEmail scrawledAddress = scrawledAddress ↔ scrawledAddress = [] ∨
          (∃ a : EmailAddress, scrawledAddress = a.text) ∧ scrawledAddress.Unspaced)) := by
  have hspelled : scrawledAddress.Spelled := Text.spelled_of_wellFormed (by decide)
  exact ⟨hspelled, by decide +kernel, cleanEmail_address hspelled⟩

/-- Two bytes with a blank between them that spell a no-break space without it. -/
def splitSpace : Text := Text.ofBytes [97, 0xC2, 32, 0xA0, 98, 64, 99, 46, 100]

/-- White space is left, and cleaning again drops it. -/
theorem splitSpace_spelled :
    cleanEmail splitSpace = Text.ofString "a\u00a0b@c.d" ∧
      cleanEmail (cleanEmail splitSpace) = Text.ofString "ab@c.d" ∧
      ¬ (cleanEmail splitSpace).Unspaced ∧
      cleanEmail (cleanEmail splitSpace) ≠ cleanEmail splitSpace := by
  decide +kernel

end Stockroom

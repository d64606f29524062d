import Stockroom.Proofs.Store.Change

/-!
What is stored of a consumable fits its toner type: minus one stands exactly where a count does not
apply, and no other count is below zero. A record is classified, configured anew, checked and
written on the way in; this holds of every row whatever was asked of the store before, so every row
can be read back.

Main statements:
* `ConsumableRow.WellMarked`: the six counts of a row fit its toner type;
* `Consumable.validate_marks`: what a record that is checked looks like in storage;
* `Store.Change.wellMarked`: what one call keeps;
* `StoreCall.stored_consumables_fit`: every row of every history is well marked and can be read.
-/
namespace Stockroom
set_option autoImplicit false

/-! ## Counts as they are written -/

namespace Quantity

theorem written_notApplicable {q : Quantity} {n : Int} (h : q.written = .ok n)
    (hq : q.isApplicable = false) : n = sentinel := by
  cases q with
  | notApplicable => exact (pure_eq_ok.mp h).symm
  | counted k => simp [isApplicable, count?] at hq

theorem check_eq_ok {q : Quantity} : q.check = .ok () ↔ ∀ n, q = .counted n → 0 ≤ n := by
  cases q with
  | notApplicable => simp [check]
  | counted k =>
    simp only [check, counted.injEq, forall_eq']
    split
    · next hneg => simpa using hneg
    · next hneg => simpa using hneg

theorem written_counted {q : Quantity} {n : Int} (h : q.written = .ok n)
    (hq : q.isApplicable = true) : 0 ≤ n := by
  cases q with
  | notApplicable => simp [isApplicable, count?] at hq
  | counted k =>
    simp only [written, bind_eq_ok, pure_eq_ok, encode] at h
    obtain ⟨_, hcheck, rfl⟩ := h
    exact check_eq_ok.mp hcheck k rfl

theorem written_bound {q : Quantity} {n : Int} (h : q.written = .ok n) : sentinel ≤ n := by
  cases hq : q.isApplicable with
  | false => exact Int.le_of_eq (written_notApplicable h hq).symm
  | true => exact Int.le_trans (by decide) (written_counted h hq)

theorem decode_of_bound {v : Int} (h : sentinel ≤ v) : ∃ q, decode v = .ok q := by
  unfold decode
  split
  · exact ⟨_, rfl⟩
  · next hne =>
    have hv : 0 ≤ v := by
      simp only [sentinel] at h hne
      omega
    exact ⟨_, if_pos hv⟩

theorem decode_written {q : Quantity} {n : Int} (h : q.written = .ok n) : decode n = .ok q := by
  obtain ⟨_, hcheck, h⟩ := bind_eq_ok.mp h
  obtain rfl := pure_eq_ok.mp h
  cases q with
  | notApplicable => rfl
  | counted k =>
    have hk : ¬ k < 0 := by
      intro hneg
      rw [check, if_pos hneg] at hcheck
      cases hcheck
    have hne : k ≠ sentinel := by
      intro heq
      exact hk (heq ▸ by decide)
    rw [encode, decode, if_neg hne, if_pos (Int.not_lt.mp hk)]

end Quantity

/-! ## Rows that fit their toner type -/

/-- The columns of a row fit its toner type. -/
structure ConsumableRow.WellMarked (r : ConsumableRow) : Prop where
  tag : r.tonerTag = TonerType.unicolor.tag ∨ r.tonerTag = TonerType.multicolor.tag
  state : r.state = inStockState ∨ r.state = onOrderState
  unicolor : r.tonerTag = TonerType.unicolor.tag →
    0 ≤ r.black ∧ r.cyan = -1 ∧ r.magenta = -1 ∧ r.yellow = -1 ∧ r.colorBlack = -1
  multicolor : r.tonerTag = TonerType.multicolor.tag →
    r.black = -1 ∧ 0 ≤ r.cyan ∧ 0 ≤ r.magenta ∧ 0 ≤ r.yellow ∧ 0 ≤ r.colorBlack
  drum : -1 ≤ r.drum

theorem TonerType.tag_ne : unicolor.tag ≠ multicolor.tag := by decide

theorem TonerType.tag_of_ofTag {t : Text} {type : TonerType} (h : ofTag t = some type) :
    t = type.tag := by
  unfold ofTag at h
  split at h
  · next ht =>
    cases h
    exact ht
  · split at h
    · next ht =>
      cases h
      exact ht
    · cases h

namespace Consumable

theorem checkCounts_eq_ok {counts : List Quantity} :
    checkCounts counts = .ok () ↔ ∀ q ∈ counts, q.check = .ok () := by
  induction counts with
  | nil => simp [checkCounts]
  | cons first rest ih =>
    rw [checkCounts, List.forall_mem_cons]
    split
    · next hfirst => simp [hfirst, ih]
    · next hfirst => simp [hfirst]

/-- What the rules ask of a record. -/
theorem validate_eq_ok {c : Consumable} : c.validate = .ok () ↔
    c.brand ≠ [] ∧ c.reference ≠ [] ∧ c.branch ≠ [] ∧ isState c.state = true ∧
      ∃ t, c.taggedType = some t ∧ checkCounts c.quantities = .ok () ∧ c.checkMarks t = .ok () := by
  constructor
  · intro h
    simp only [validate, throw_bind] at h
    split at h
    · cases h
    next hbrand =>
    split at h
    · cases h
    next hreference =>
    split at h
    · cases h
    next hbranch =>
    split at h
    · cases h
    next hstate =>
    split at h
    · cases h
    next t htype =>
    obtain ⟨_, hcounts, hmarks⟩ := bind_eq_ok.mp h
    exact ⟨by simpa using hbrand, by simpa using hreference, by simpa using hbranch,
      by simpa using hstate, t, htype, hcounts, hmarks⟩
  · rintro ⟨hbrand, hreference, hbranch, hstate, t, htype, hcounts, hmarks⟩
    have hbrand : c.brand.isEmpty = false := by simpa using hbrand
    have hreference : c.reference.isEmpty = false := by simpa using hreference
    have hbranch : c.branch.isEmpty = false := by simpa using hbranch
    rw [validate, hbrand, hreference, hbranch, hstate, htype]
    dsimp only
    rw [hcounts, hmarks]
    rfl

/-- A checked record has a state, a toner type, and a count exactly where the toner type has one. -/
theorem validate_marks {c : Consumable} (h : c.validate = .ok ()) :
    isState c.state = true ∧ ∃ t : TonerType, c.tonerTag = t.tag ∧
      c.black.isApplicable = (t == .unicolor) ∧
      ∀ q ∈ c.colors, q.isApplicable = !(t == .unicolor) := by
  obtain ⟨-, -, -, hstate, t, htype, -, hmarks⟩ := validate_eq_ok.mp h
  rw [checkMarks] at hmarks
  split at hmarks
  · cases hmarks
  next hblack =>
  split at hmarks
  · cases hmarks
  next hcolors =>
  refine ⟨hstate, t, TonerType.tag_of_ofTag htype, by simpa using hblack, ?_⟩
  intro q hq
  simp only [List.any_eq_true, not_exists, not_and] at hcolors
  have hne := hcolors q hq
  cases hqa : q.isApplicable <;> cases ht' : (t == TonerType.unicolor) <;> simp_all

end Consumable

namespace ConsumableRow

/-- The row of a record: its tag, its state and every count as it is written. -/
theorem ofConsumable_eq_ok {c : Consumable} {r : ConsumableRow} (h : ofConsumable c = .ok r) :
    r.tonerTag = c.tonerTag ∧ r.state = c.state ∧ c.black.written = .ok r.black ∧
      c.cyan.written = .ok r.cyan ∧ c.magenta.written = .ok r.magenta ∧
      c.yellow.written = .ok r.yellow ∧ c.colorBlack.written = .ok r.colorBlack ∧
      c.drum.written = .ok r.drum := by
  simp only [ofConsumable, bind_eq_ok, pure_eq_ok] at h
  obtain ⟨_, hblack, _, hcyan, _, hmagenta, _, hyellow, _, hcolorBlack, _, hdrum, rfl⟩ := h
  exact ⟨rfl, rfl, hblack, hcyan, hmagenta, hyellow, hcolorBlack, hdrum⟩

/-- What is stored of a consumable is loaded as it was. -/
theorem load_ofConsumable {c : Consumable} {row : ConsumableRow} (h : ofConsumable c = .ok row) :
    row.load = .ok c := by
  simp only [ofConsumable, bind_eq_ok, pure_eq_ok] at h
  obtain ⟨black, hblack, cyan, hcyan, magenta, hmagenta, yellow, hyellow, colorBlack, hcolorBlack,
    drum, hdrum, rfl⟩ := h
  simp only [load, Quantity.ofColumn, Quantity.decode_written hblack,
    Quantity.decode_written hcyan, Quantity.decode_written hmagenta,
    Quantity.decode_written hyellow, Quantity.decode_written hcolorBlack,
    Quantity.decode_written hdrum]
  rfl

theorem wellMarked_of_validate {c : Consumable} {r : ConsumableRow} (hvalid : c.validate = .ok ())
    (hrow : ofConsumable c = .ok r) : r.WellMarked := by
  obtain ⟨hstate, t, htag, hblack, hcolors⟩ := Consumable.validate_marks hvalid
  obtain ⟨rtag, rstate, rblack, rcyan, rmagenta, ryellow, rcolorBlack, rdrum⟩ :=
    ofConsumable_eq_ok hrow
  simp only [Consumable.colors, List.forall_mem_cons, List.not_mem_nil, false_implies,
    implies_true, and_true] at hcolors
  obtain ⟨hcyan, hmagenta, hyellow, hcolorBlack⟩ := hcolors
  have hdrum := Quantity.written_bound rdrum
  rw [← rstate] at hstate
  rw [← rtag] at htag
  cases t with
  | unicolor =>
    refine ⟨.inl htag, by simpa [isState] using hstate, fun _ => ?_, fun hmulti => ?_, hdrum⟩
    · exact ⟨Quantity.written_counted rblack hblack, Quantity.written_notApplicable rcyan hcyan,
        Quantity.written_notApplicable rmagenta hmagenta,
        Quantity.written_notApplicable ryellow hyellow,
        Quantity.written_notApplicable rcolorBlack hcolorBlack⟩
    · exact absurd (htag.symm.trans hmulti) TonerType.tag_ne
  | multicolor =>
    refine ⟨.inr htag, by simpa [isState] using hstate, fun huni => ?_, fun _ => ?_, hdrum⟩
    · exact absurd (huni.symm.trans htag) TonerType.tag_ne
    · exact ⟨Quantity.written_notApplicable rblack hblack, Quantity.written_counted rcyan hcyan,
        Quantity.written_counted rmagenta hmagenta, Quantity.written_counted ryellow hyellow,
        Quantity.written_counted rcolorBlack hcolorBlack⟩

/-- No column of a well marked row is below minus one. -/
theorem WellMarked.bounds {r : ConsumableRow} (h : r.WellMarked) :
    ∀ v ∈ [r.black, r.cyan, r.magenta, r.yellow, r.colorBlack, r.drum], Quantity.sentinel ≤ v := by
  have hdrum := h.drum
  simp only [List.forall_mem_cons, List.not_mem_nil, false_implies, implies_true, and_true,
    Quantity.sentinel]
  rcases h.tag with htag | htag
  · have := h.unicolor htag
    omega
  · have := h.multicolor htag
    omega

theorem WellMarked.load {r : ConsumableRow} (h : r.WellMarked) : ∃ c, r.load = .ok c := by
  have hbounds := h.bounds
  simp only [List.forall_mem_cons, List.not_mem_nil, false_implies, implies_true, and_true]
    at hbounds
  obtain ⟨hblack, hcyan, hmagenta, hyellow, hcolorBlack, hdrum⟩ := hbounds
  obtain ⟨black, hblack⟩ := Quantity.decode_of_bound hblack
  obtain ⟨cyan, hcyan⟩ := Quantity.decode_of_bound hcyan
  obtain ⟨magenta, hmagenta⟩ := Quantity.decode_of_bound hmagenta
  obtain ⟨yellow, hyellow⟩ := Quantity.decode_of_bound hyellow
  obtain ⟨colorBlack, hcolorBlack⟩ := Quantity.decode_of_bound hcolorBlack
  obtain ⟨drum, hdrum⟩ := Quantity.decode_of_bound hdrum
  simp only [ConsumableRow.load, Quantity.ofColumn, hblack, hcyan, hmagenta, hyellow, hcolorBlack,
    hdrum]
  exact ⟨_, rfl⟩

end ConsumableRow


/-! ## Every history -/

theorem Store.Change.wellMarked {s s' : Store} (h : s.Change s')
    (hs : ∀ r ∈ s.consumables, r.WellMarked) : ∀ r ∈ s'.consumables, r.WellMarked := by
  cases h with
  | addConsumable c row hrow hvalid =>
    intro r hr
    rcases List.mem_append.mp hr with hr | hr
    · exact hs r hr
    · rw [List.mem_singleton.mp hr]
      exact ConsumableRow.wellMarked_of_validate hvalid hrow
  | replaceConsumable existing c row _ hrow hvalid =>
    intro r hr
    obtain ⟨old, hold, rfl⟩ := List.mem_map.mp hr
    split
    · exact ConsumableRow.wellMarked_of_validate hvalid hrow
    · exact hs old hold
  | removeConsumable id =>
    intro r hr
    exact hs r (List.mem_filter.mp hr).1
  | renameBranch id b name location =>
    intro r hr
    obtain ⟨old, hold, rfl⟩ := List.mem_map.mp hr
    have hmarked := hs old hold
    split
    -- a new name of the branch leaves the tag, the state and the counts as they are
    · exact ⟨hmarked.tag, hmarked.state, hmarked.unicolor, hmarked.multicolor, hmarked.drum⟩
    · exact hmarked
  | _ => exact hs

theorem Store.Change.sound {s s' : Store} (h : s.Change s') (hs : s.faults = {}) :
    s'.faults = {} := by
  cases h with
  | removeItem | removeConsumable | removeDelivery | removeRequest | removeRequests =>
    simp [Store.forget, hs]
  | _ => exact hs

namespace Store

/-- In a sound database a row is loaded as its columns say. -/
theorem loadConsumable_sound {s : Store} (hs : s.faults = {}) {activity : Text}
    {r : ConsumableRow} {c : Consumable} (h : r.load = .ok c) :
    s.loadConsumable activity r = .ok c := by
  simp only [loadConsumable, loadable, hs, h]
  rfl

theorem consumable?_sound {s : Store} (hs : s.faults = {})
    (hrows : ∀ r ∈ s.consumables, ∃ c, r.load = .ok c) (id : Int) :
    ∃ found, s.consumable? id = .ok found ∧
      (found.isSome ↔ ∃ r ∈ s.consumables, r.id = id) := by
  have hreadable : s.readable [.consumables] "getting consumable" = .ok () := by
    simp [readable, hs]
  cases hfind : s.consumables.find? (·.id == id) with
  | none =>
    refine ⟨none, by simp only [consumable?, hreadable, hfind]; rfl, ?_⟩
    simpa using hfind
  | some r =>
    obtain ⟨c, hc⟩ := hrows r (List.mem_of_find?_eq_some hfind)
    refine ⟨some c, ?_, ?_⟩
    · simp only [consumable?, hreadable, hfind, loadConsumable_sound hs hc]
      rfl
    · have hid : r.id = id := by simpa using List.find?_some hfind
      simpa using ⟨r, List.mem_of_find?_eq_some hfind, hid⟩

/-- Rows that can be read are loaded one after the other. -/
theorem loadConsumables_sound {s : Store} (hs : s.faults = {}) (activity : Text)
    (rows : List ConsumableRow) (hrows : ∀ r ∈ rows, ∃ c, r.load = .ok c) :
    ∃ cs : List Consumable, rows.map ConsumableRow.load = cs.map .ok ∧
      rows.mapM (s.loadConsumable activity) = .ok cs := by
  simp only [mapM_eq_ok]
  induction rows with
  | nil => exact ⟨[], rfl, rfl⟩
  | cons r rows ih =>
    obtain ⟨c, hc⟩ := hrows r List.mem_cons_self
    obtain ⟨cs, hload, hloaded⟩ := ih fun r hr => hrows r (List.mem_cons_of_mem _ hr)
    refine ⟨c :: cs, ?_, ?_⟩
    · rw [List.map_cons, List.map_cons, hc, hload]
    · rw [List.map_cons, List.map_cons, loadConsumable_sound hs hc, hloaded]

theorem consumableList_sound {s : Store} (hs : s.faults = {})
    (hrows : ∀ r ∈ s.consumables, ∃ c, r.load = .ok c) (f : ConsumableFilter) :
    ∃ cs : List Consumable, (s.consumablesKept f).map ConsumableRow.load = cs.map .ok ∧
      (s.consumableList f = .ok cs ∨ ConsumableFilter.maxPattern < f.patternLength) := by
  have hkept : ∀ r ∈ s.consumablesKept f, ∃ c, r.load = .ok c := by
    intro r hr
    have hr : r ∈ s.consumables.filter f.keeps := List.mem_mergeSort.mp hr
    exact hrows r (List.mem_filter.mp hr).1
  obtain ⟨cs, hload, hloaded⟩ := loadConsumables_sound hs "scanning consumable" _ hkept
  refine ⟨cs, hload, ?_⟩
  by_cases hlong : ConsumableFilter.maxPattern < f.patternLength
  · exact .inr hlong
  · refine .inl ?_
    have hreadable : s.readable [.consumables] "listing consumables" = .ok () := by
      simp [readable, hs]
    simp only [consumableList, hreadable, GT.gt, hlong, decide_false, Bool.and_false,
      Bool.false_and]
    exact hloaded

end Store

namespace StoreCall

/-- After any history of calls, whether they succeed or fail, every stored consumable has a known
toner type and state, its counts fit the toner type, and so it can be read back: alone, and in every
list whose search text the database takes. -/
theorem stored_consumables_fit (calls : List (Instant × StoreCall)) :
    let s := runAll {} calls
    (∀ r ∈ s.consumables, r.WellMarked) ∧
      (∀ r ∈ s.consumables, ∃ c, r.load = .ok c) ∧
      (∀ id, ∃ found, s.consumable? id = .ok found ∧
        (found.isSome ↔ ∃ r ∈ s.consumables, r.id = id)) ∧
      ∀ f, ∃ cs : List Consumable, (s.consumablesKept f).map ConsumableRow.load = cs.map .ok ∧
        (s.consumableList f = .ok cs ∨ ConsumableFilter.maxPattern < f.patternLength) := by
  have hmarked := runAll_invariant (fun _ _ h => h.wellMarked) {} calls (by simp)
  have hsound := runAll_invariant (fun _ _ h => h.sound) {} calls rfl
  have hload := fun r hr => (hmarked r hr).load
  exact ⟨hmarked, hload, Store.consumable?_sound hsound hload,
    Store.consumableList_sound hsound hload⟩

example : (runAll {}
    [({ unix := 0 }, .createConsumable
        { brand := "HP", reference := "CF410A", branch := "A", black := .counted 7 }),
      ({ unix := 1 }, .updateConsumable 1
        { brand := "HP", reference := "CF410A", branch := "A", tonerTag := "multicolor"
          magenta := .counted 3 })]).consumables.map
      (fun r => [r.black, r.cyan, r.magenta, r.yellow, r.colorBlack, r.drum]) =
    [[-1, 0, 3, 0, 0, -1]] := by decide +kernel

end StoreCall
end Stockroom

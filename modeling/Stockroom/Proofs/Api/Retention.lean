import Stockroom.Proofs.Api.Integrity
import Stockroom.Proofs.Api.Revocation
import Stockroom.Proofs.Record.Wire
import Stockroom.Proofs.Store.Soundness

/-!
What becomes of a stored consumable. Until it is updated or deleted, or its branch gets another name,
every request leaves it as it is, and what an answer shows of it reads as the record that it is.

Main definitions and statements:
* `Consumable.ReadFrom`: a value reads as a consumable;
* `Touches`, `Spares`: a request updates or deletes a consumable or renames its branch;
* `Stocked`, `handleAll_stocked`: a consumable stays as it is throughout a run that spares it;
* `Shows`, `Stocked.shows`: it is found by its id and in lists, and reads as it is.
-/
namespace Stockroom
set_option autoImplicit false

open Json (legible)

/-! ## Shown consumables -/

/-- The counts that are shown beside a consumable. -/
theorem Consumable.displayJson_whole (fields : List ShownQuantity) :
    (displayJson fields).Whole ∧ (displayJson fields).height ≤ 2 := by
  have hitems : Json.WholeItems (fields.map fun f =>
      .object [Json.member "label" (.string f.label), Json.member "quantity" (.int f.count)]) ∧
      Json.heightItems (fields.map fun f =>
        .object [Json.member "label" (.string f.label), Json.member "quantity" (.int f.count)]) ≤ 1 := by
    induction fields with
    | nil => exact ⟨trivial, Nat.zero_le 1⟩
    | cons f rest ih =>
      have hflat : Json.Flat [Json.member "label" (.string f.label),
          Json.member "quantity" (.int f.count)] :=
        Json.flat_text _ _ (Json.flat_int _ _ Json.flat_nil)
      exact ⟨⟨hflat.whole, ih.1⟩, Nat.max_le.mpr ⟨hflat.height_le, ih.2⟩⟩
  exact ⟨hitems.1, Nat.succ_le_succ hitems.2⟩

theorem Consumable.toMembers_names {c : Consumable} {members : List (Text × List Char × Json)}
    (h : c.toMembers = .ok members) : ∃ more, members = Json.member "id" (.int c.id) :: more := by
  simp only [toMembers, bind_eq_ok, pure_eq_ok] at h
  obtain ⟨_, -, _, -, _, -, _, -, _, -, _, -, rfl⟩ := h
  exact ⟨_, rfl⟩

/-- The text of a value reads as a consumable. -/
def Consumable.ReadFrom (c : Consumable) (v : Json) : Prop :=
  Json.decodeText wireFields default v.render = .ok c

namespace Api

variable {c : Consumable}

theorem shownConsumable_eq {members : List (Text × List Char × Json)}
    (h : c.toMembers = .ok members) : shownConsumable c =
      .object (members ++ [Json.member "display" (Consumable.displayJson c.display)]) := by
  rw [shownConsumable, h]

theorem shownConsumable_whole (h : c.Legible) :
    (shownConsumable c).Whole ∧ (shownConsumable c).height ≤ Json.maxDepth := by
  obtain ⟨members, hmembers, hflat, -⟩ := Consumable.toMembers_legible h
  obtain ⟨hwhole, hheight⟩ := Consumable.displayJson_whole c.display
  have hmember : ∀ m ∈ members ++ [Json.member "display" (Consumable.displayJson c.display)],
      m.2.2.Whole ∧ m.2.2.height ≤ 2 := by
    intro m hm
    rcases List.mem_append.mp hm with hm | hm
    · exact ⟨(hflat m hm).1, (hflat m hm).2 ▸ Nat.zero_le 2⟩
    · rw [List.mem_singleton.mp hm]
      exact ⟨hwhole, hheight⟩
  rw [shownConsumable_eq hmembers]
  refine ⟨Json.wholeMembers_iff.mpr fun m hm => (hmember m hm).1, ?_⟩
  exact Nat.le_trans (Nat.succ_le_succ (Json.heightMembers_le fun m hm => (hmember m hm).2)) (by decide)

/-- What is shown of a consumable is read back; the counts beside it are passed over. -/
theorem decode_shownConsumable (h : c.Legible) :
    Json.decodeRecord Consumable.wireFields default (legible (shownConsumable c)) =
      .ok c.received := by
  obtain ⟨members, hmembers, -, hdecode⟩ := Consumable.toMembers_legible h
  have hkey : Consumable.wireFields.find? (Json.sameKey ·.name (Text.ofString "display")) = none := by
    decide +kernel
  rw [shownConsumable_eq hmembers, Json.legible, Json.decodeRecord, hdecode, Json.member,
    Json.legibleMembers, Text.mended_ofString, Json.decodeMembers, hkey]
  rfl

theorem shownConsumable_readFrom (h : c.Legible) (hbranch : c.branch.wellFormed = true) :
    c.ReadFrom (shownConsumable c) := by
  obtain ⟨hwhole, hheight⟩ := shownConsumable_whole h
  rw [Consumable.ReadFrom, Json.decodeText_render hwhole hheight, decode_shownConsumable h,
    Consumable.received_eq hbranch]

/-- A value of an answer has an id. -/
def Names (v : Json) (id : Int) : Prop := ∃ more, v = .object (Json.member "id" (.int id) :: more)

theorem id_of_names {id : Int} (h : Names (shownConsumable c) id) : c.id = id := by
  obtain ⟨more, hmore⟩ := h
  cases hmembers : c.toMembers with
  | error e =>
    rw [shownConsumable, hmembers] at hmore
    cases hmore
  | ok members =>
    obtain ⟨others, rfl⟩ := Consumable.toMembers_names hmembers
    rw [shownConsumable_eq hmembers] at hmore
    have hvalue : Json.int c.id = Json.int id :=
      congrArg (·.2.2) (List.cons.inj (Json.object.inj hmore)).1
    have hread := readInt_ofInt c.id
    rw [Json.number.inj hvalue, readInt_ofInt] at hread
    exact (Option.some.inj hread).symm

/-! ## What a request does to a consumable -/

/-- The request updates or deletes the consumable, or gives its branch another name. -/
inductive Touches (s : Store) (req : Request) (c : Consumable) : Prop where
  | update (segment : Text) (hasks : asksFor req = some (.updateConsumable, segment))
      (hid : readInt64 segment.toChars = some c.id)
  | delete (segment : Text) (hasks : asksFor req = some (.deleteConsumable, segment))
      (hid : readInt64 segment.toChars = some c.id)
  | rename (segment : Text) (id : Int) (b : BranchRow) (sent : BranchForm)
      (hasks : asksFor req = some (.updateBranch, segment))
      (hid : readInt64 segment.toChars = some id) (hb : s.activeBranch? id = some b)
      (hbranch : b.name = c.branch) (hsent : sentBranch req = .ok sent) (hnew : sent.name ≠ b.name)

/-- A request that touches the consumable is refused. -/
def Spares (c : Consumable) (ctx : Context) (req : Request) (s _ : Store) : Prop :=
  (handle ctx s req).1.status = 200 → ¬Touches s req c

section
variable {ctx : Context} {claims : Claims} {s s' : Store} {req : Request} {endpoint : Endpoint}
  {segment : Text} {response : Response} {row : ConsumableRow}

theorem reachedConsumable_id (h : reachedConsumable claims s segment = .ok c) :
    readInt64 segment.toChars = some c.id := by
  obtain ⟨id, hid, h⟩ := bind_eq_ok.mp h
  obtain ⟨found, hfound, h⟩ := bind_eq_ok.mp h
  obtain ⟨rfl, -⟩ := reach_access h
  obtain ⟨row, hrow, hload⟩ := Store.consumable?_some (orRefuse_eq_ok hfound)
  have hrowid : row.id = id := by simpa using List.find?_some hrow
  rw [ConsumableRow.load_id hload, hrowid]
  exact idOf_eq_ok hid

theorem updateConsumable_keeps (hrow : row ∈ s.consumables)
    (h : updateConsumable ctx claims s segment req = .ok (response, s')) :
    response.status = 200 ∧
      (readInt64 segment.toChars ≠ some row.id → row ∈ s'.consumables) := by
  obtain ⟨existing, hexisting, h⟩ := bind_eq_ok.mp h
  obtain ⟨sent, -, h⟩ := bind_eq_ok.mp h
  obtain ⟨branch, -, h⟩ := bind_eq_ok.mp h
  obtain ⟨⟨shown, after⟩, hupdate, h⟩ := bind_eq_ok.mp h
  obtain ⟨_, -, h⟩ := bind_eq_ok.mp h
  cases h
  refine ⟨rfl, fun hother => ?_⟩
  obtain ⟨-, rfl⟩ | ⟨found, loaded, _, written, _, hfound, hload, -, -, -, -, -, rfl⟩ :=
    Store.updateConsumable_effect (orExplain_eq_ok hupdate)
  · exact hrow
  · have hid : loaded.id = existing.id := by
      rw [ConsumableRow.load_id hload]
      simpa using List.find?_some hfound
    have hne : row.id ≠ loaded.id := by
      intro heq
      rw [reachedConsumable_id hexisting, heq, hid] at hother
      exact hother rfl
    exact kept_mem_map_if hrow (by simpa using hne)

theorem deleteConsumable_keeps (hrow : row ∈ s.consumables)
    (h : deleteConsumable claims s segment = .ok (response, s')) :
    response.status = 200 ∧
      (readInt64 segment.toChars ≠ some row.id → row ∈ s'.consumables) := by
  obtain ⟨existing, hexisting, h⟩ := bind_eq_ok.mp h
  obtain ⟨after, hdelete, h⟩ := bind_eq_ok.mp h
  cases h
  refine ⟨rfl, fun hother => ?_⟩
  rw [Store.deleteConsumable_effect (orRefuse_eq_ok hdelete)]
  have hne : row.id ≠ existing.id := by
    intro heq
    rw [reachedConsumable_id hexisting, heq] at hother
    exact hother rfl
  exact List.mem_filter.mpr ⟨hrow, by simpa using hne⟩

/-- A consumable stays in its branch unless the branch is given another name. -/
theorem updateBranch_keeps (hrow : row ∈ s.consumables)
    (h : updateBranch s segment req = .ok (response, s')) :
    response.status = 200 ∧ (row ∈ s'.consumables ∨ ∃ id b sent,
      readInt64 segment.toChars = some id ∧ s.activeBranch? id = some b ∧ b.name = row.branch ∧
        sentBranch req = .ok sent ∧ sent.name ≠ b.name) := by
  obtain ⟨id, hid, h⟩ := bind_eq_ok.mp h
  obtain ⟨sent, hsent, h⟩ := bind_eq_ok.mp h
  obtain ⟨_, -, h⟩ := bind_eq_ok.mp h
  obtain ⟨_, -, h⟩ := bind_eq_ok.mp h
  obtain ⟨after, hupdate, h⟩ := bind_eq_ok.mp h
  have hanswer : response.status = 200 ∧ after = s' := by
    split at h
    · cases h
      exact ⟨rfl, rfl⟩
    · cases h
      exact ⟨rfl, rfl⟩
  obtain ⟨hstatus, rfl⟩ := hanswer
  refine ⟨hstatus, ?_⟩
  obtain ⟨-, rfl⟩ | ⟨b, hb, -, rfl⟩ := Store.updateBranch_effect (orRefuse_eq_ok hupdate)
  · exact .inl hrow
  by_cases hplace : b.name = row.branch
  · by_cases hname : sent.name = b.name
    · rw [hname, Store.withBranch_same]
      exact .inl hrow
    · exact .inr ⟨id, b, sent, idOf_eq_ok hid, hb, hplace, hsent, hname⟩
  · exact .inl (kept_mem_map_if hrow (by simpa using Ne.symm hplace))

/-- All other endpoints keep the consumables. -/
theorem Act.consumables_kept (act : Act claims s endpoint s') (hupdate : endpoint ≠ .updateConsumable)
    (hdelete : endpoint ≠ .deleteConsumable) (hrename : endpoint ≠ .updateBranch) :
    ∀ r ∈ s.consumables, r ∈ s'.consumables := by
  cases act with
  | updateConsumable => exact absurd rfl hupdate
  | deleteConsumable => exact absurd rfl hdelete
  | updateBranch => exact absurd rfl hrename
  | createConsumable => exact fun r hr => List.mem_append_left _ hr
  | _ => exact fun r hr => hr

/-- An endpoint that is served touches a consumable or keeps it. -/
theorem serve_keeps (hasks : asksFor req = some (endpoint, segment)) (hrow : row ∈ s.consumables)
    (hload : row.load = .ok c) (h : serve ctx claims s req segment endpoint = .ok (response, s')) :
    row ∈ s'.consumables ∨ response.status = 200 ∧ Touches s req c := by
  have hid := ConsumableRow.load_id hload
  by_cases hupdate : endpoint = .updateConsumable
  · subst hupdate
    obtain ⟨hstatus, hkept⟩ := updateConsumable_keeps hrow h
    by_cases hgiven : readInt64 segment.toChars = some row.id
    · exact .inr ⟨hstatus, .update segment hasks (hid ▸ hgiven)⟩
    · exact .inl (hkept hgiven)
  by_cases hdelete : endpoint = .deleteConsumable
  · subst hdelete
    obtain ⟨hstatus, hkept⟩ := deleteConsumable_keeps hrow h
    by_cases hgiven : readInt64 segment.toChars = some row.id
    · exact .inr ⟨hstatus, .delete segment hasks (hid ▸ hgiven)⟩
    · exact .inl (hkept hgiven)
  by_cases hrename : endpoint = .updateBranch
  · subst hrename
    obtain ⟨hstatus, hkept | ⟨id, b, sent, hgiven, hb, hplace, hsent, hnew⟩⟩ :=
      updateBranch_keeps hrow h
    · exact .inl hkept
    · have hbranch : b.name = c.branch := hplace.trans (Store.load_branch hload).symm
      exact .inr ⟨hstatus, .rename segment id b sent hasks hgiven hb hbranch hsent hnew⟩
  · exact .inl ((serve_act h).consumables_kept hupdate hdelete hrename row hrow)

/-! ## Runs -/

/-- A sound store holds the consumable. -/
structure Stocked (s : Store) (c : Consumable) : Prop where
  sound : s.Sound
  keyed : s.Keyed
  held : ∃ row ∈ s.consumables, row.load = .ok c

theorem handle_stocked (h : Stocked s c) (hspares : Spares c ctx req s (handle ctx s req).2) :
    Stocked (handle ctx s req).2 c := by
  refine ⟨(handle_step ctx s req).change.keeps_sound h.sound, handle_keyed ctx req h.keyed, ?_⟩
  obtain ⟨row, hrow, hload⟩ := h.held
  refine ⟨row, ?_, hload⟩
  unfold Spares at hspares
  rw [handle_eq] at hspares ⊢
  cases hdispatch : dispatch ctx s req with
  | error response => exact hrow
  | ok answer =>
    obtain ⟨response, s'⟩ := answer
    obtain ⟨claims, endpoint, segment, hasks, hserve⟩ := dispatch_served hdispatch
    obtain hkept | ⟨hstatus, htouches⟩ := serve_keeps hasks hrow hload hserve
    · exact hkept
    · rw [hdispatch] at hspares
      exact absurd htouches (hspares hstatus)

/-- A consumable stays as it is as long as nobody touches it. -/
theorem handleAll_stocked (run : List (Context × Request)) (h : Stocked s c)
    (hspared : Throughout (Spares c) s run) : Stocked (handleAll s run) c :=
  handleAll_keeps (P := (Stocked · c)) (Spares c) (fun _ _ _ => handle_stocked) s run hspared h

end

/-! ## Answers -/

/-- What the answers of a store show of a consumable: whoever may see it gets it by its id and in
every list whose filter keeps it, and it reads as it is. -/
structure Shows (s : Store) (c : Consumable) : Prop where
  reached : ∀ ctx req segment claims, (req.target == Text.ofString "*") = false →
    (cleanPath req.asked.path != req.asked.path) = false →
    asksFor req = some (.getConsumable, segment) → readInt64 segment.toChars = some c.id →
    caller ctx s req = some claims → Access.manager.admits claims = true →
    mayAccess claims c.branch = true → (handle ctx s req).1.status = 200
  alone : ∀ ctx req segment, asksFor req = some (.getConsumable, segment) →
    readInt64 segment.toChars = some c.id → isHead req.method = false →
    (handle ctx s req).1.status = 200 →
    ∃ v, (handle ctx s req).1.body = .json v ∧ c.ReadFrom v
  listed : ∀ ctx req segment, asksFor req = some (.listConsumables, segment) →
    isHead req.method = false → (handle ctx s req).1.status = 200 →
    ∃ entries, (handle ctx s req).1.body = .json (.array entries) ∧
      (∀ v ∈ entries, Names v c.id → c.ReadFrom v) ∧
      ∀ claims branch, caller ctx s req = some claims → listedBranch claims req = .ok branch →
        ∀ row ∈ s.consumables, row.load = .ok c →
          ConsumableFilter.keeps { branch, state := req.param "etat", search := req.param "search" }
            row = true →
          ∃ v ∈ entries, c.ReadFrom v

section
variable {ctx : Context} {claims : Claims} {s s' : Store} {req : Request} {segment : Text}
  {response : Response}

/-- A stored row with the id of the consumable is that of the consumable. -/
theorem Stocked.loaded (h : Stocked s c) {row : ConsumableRow} {other : Consumable}
    (hrow : row ∈ s.consumables) (hload : row.load = .ok other) (hid : other.id = c.id) :
    other = c := by
  obtain ⟨own, hown, hownload⟩ := h.held
  have hids : row.id = own.id := by
    rw [← ConsumableRow.load_id hload, hid, ConsumableRow.load_id hownload]
  obtain rfl := List.inj_on_of_nodup_map (h.keyed.distinct .consumables) hrow hown hids
  exact Except.ok.inj (hload.symm.trans hownload)

theorem Stocked.found (h : Stocked s c) : s.consumable? c.id = .ok (some c) := by
  obtain ⟨own, hown, hownload⟩ := h.held
  obtain ⟨found, hfound, hsome⟩ := Store.consumable?_sound h.sound.faultless h.sound.loads c.id
  have hthere := hsome.mpr ⟨own, hown, (ConsumableRow.load_id hownload).symm⟩
  obtain ⟨other, rfl⟩ := Option.isSome_iff_exists.mp hthere
  obtain ⟨row, hrow, hload⟩ := Store.consumable?_some hfound
  have hid : other.id = c.id := by
    rw [ConsumableRow.load_id hload]
    simpa using List.find?_some hrow
  rw [hfound, h.loaded (List.mem_of_find?_eq_some hrow) hload hid]

/-- A list holds the rows that its filter keeps. -/
theorem mem_consumableList {f : ConsumableFilter} {cs : List Consumable}
    (h : s.consumableList f = .ok cs) :
    (∀ other ∈ cs, ∃ row ∈ s.consumables, row.load = .ok other) ∧
      ∀ row ∈ s.consumables, row.load = .ok c → f.keeps row = true → c ∈ cs := by
  have hloaded : (s.consumablesKept f).map (s.loadConsumable "scanning consumable") =
      cs.map .ok := by
    obtain ⟨_, -, h⟩ := bind_eq_ok.mp h
    simp only [throw_bind] at h
    split at h
    · cases h
    · exact mapM_eq_ok.mp h
  have hkept (row : ConsumableRow) :
      row ∈ s.consumablesKept f ↔ row ∈ s.consumables ∧ f.keeps row = true := by
    rw [Store.consumablesKept, sortedBy, List.mem_mergeSort, List.mem_filter]
  constructor
  · intro other hother
    have hmem : (.ok other : Except StoreError Consumable) ∈ cs.map .ok := List.mem_map_of_mem hother
    rw [← hloaded] at hmem
    obtain ⟨row, hrow, hload⟩ := List.mem_map.mp hmem
    exact ⟨row, ((hkept row).mp hrow).1, Store.loadConsumable_eq_ok hload⟩
  · intro row hrow hload hkeeps
    have hmem := List.mem_map_of_mem (f := s.loadConsumable "scanning consumable")
      ((hkept row).mpr ⟨hrow, hkeeps⟩)
    rw [hloaded] at hmem
    obtain ⟨other, hother, hsame⟩ := List.mem_map.mp hmem
    have hother' := Store.loadConsumable_eq_ok hsame.symm
    obtain rfl : c = other := Except.ok.inj (hload.symm.trans hother')
    exact hother

theorem getConsumable_eq_ok (h : getConsumable claims s segment = .ok (response, s')) :
    ∃ other, readInt64 segment.toChars = some other.id ∧
      (∃ row ∈ s.consumables, row.load = .ok other) ∧ response = .json 200 (shownConsumable other) := by
  obtain ⟨other, hother, h⟩ := bind_eq_ok.mp h
  cases h
  obtain ⟨row, hrow, hload, -⟩ := reachedConsumable_access hother
  exact ⟨other, reachedConsumable_id hother, ⟨row, List.mem_of_find?_eq_some hrow, hload⟩, rfl⟩

theorem listConsumables_eq_ok (h : listConsumables claims s req = .ok (response, s')) :
    ∃ branch cs, listedBranch claims req = .ok branch ∧
      s.consumableList { branch, state := req.param "etat", search := req.param "search" } = .ok cs ∧
      response = .json 200 (.array (cs.map shownConsumable)) := by
  obtain ⟨branch, hbranch, h⟩ := bind_eq_ok.mp h
  simp only at h
  split at h
  · cases h
  obtain ⟨cs, hcs, h⟩ := bind_eq_ok.mp h
  cases h
  exact ⟨branch, cs, hbranch, orRefuse_eq_ok hcs, rfl⟩

theorem body_answered (response : Response) (h : isHead req.method = false) :
    (answered req response).body = response.body := by
  rw [answered, h]
  rfl

/-- A consumable that is held is shown. -/
theorem Stocked.shows (h : Stocked s c) (hlegible : c.Legible)
    (hbranch : c.branch.wellFormed = true) : Shows s c := by
  have hreads : c.ReadFrom (shownConsumable c) := shownConsumable_readFrom hlegible hbranch
  refine ⟨?_, ?_, ?_⟩
  · intro ctx req segment claims htarget hclean hasks hid hcaller hadmits haccess
    have hreached : reachedConsumable claims s segment = .ok c := by
      have hsegment : idOf segment "consumable" = .ok c.id := by
        rw [idOf, hid]
      rw [reachedConsumable, hsegment]
      simp only [bind, Except.bind, h.found, orRefuse, orMissing, haccess, if_true]
      rfl
    have hserve : serve ctx claims s req segment .getConsumable =
        .ok (.json 200 (shownConsumable c), s) := by
      show getConsumable claims s segment = _
      rw [getConsumable, hreached]
      rfl
    rw [handle_served htarget hclean hasks (by decide) hcaller hadmits hserve]
    rfl
  · intro ctx req segment hasks hid hmethod hstatus
    obtain ⟨claims, response, -, hserve, hanswer⟩ := served_of_status hasks (by decide)
      (fun claims => getConsumable_explains claims s segment) hstatus
    obtain ⟨other, hother, ⟨row, hrow, hload⟩, rfl⟩ := getConsumable_eq_ok hserve
    have hids : other.id = c.id := Option.some.inj (hother.symm.trans hid)
    refine ⟨shownConsumable c, ?_, hreads⟩
    rw [hanswer, body_answered _ hmethod, h.loaded hrow hload hids]
    rfl
  · intro ctx req segment hasks hmethod hstatus
    obtain ⟨claims, response, hcaller, hserve, hanswer⟩ := served_of_status hasks (by decide)
      (fun claims => listConsumables_explains claims s req) hstatus
    obtain ⟨branch, cs, hlisted, hcs, rfl⟩ := listConsumables_eq_ok hserve
    obtain ⟨hstored, hthere⟩ := mem_consumableList (c := c) hcs
    refine ⟨cs.map shownConsumable, by rw [hanswer, body_answered _ hmethod]; rfl, ?_, ?_⟩
    · intro v hv hnames
      obtain ⟨other, hother, rfl⟩ := List.mem_map.mp hv
      obtain ⟨row, hrow, hload⟩ := hstored other hother
      rw [h.loaded hrow hload (id_of_names hnames)]
      exact hreads
    · intro asker place hasker hplace row hrow hload hkeeps
      obtain rfl : claims = asker := Option.some.inj (hcaller.symm.trans hasker)
      obtain rfl : branch = place := Except.ok.inj (hlisted.symm.trans hplace)
      exact ⟨_, List.mem_map_of_mem (hthere row hrow hload hkeeps), hreads⟩

end

end Api
end Stockroom

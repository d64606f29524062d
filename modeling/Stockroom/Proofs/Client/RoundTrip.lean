import Stockroom.Proofs.Api.ServerErrors
import Stockroom.Proofs.Client.Submission
import Stockroom.Proofs.Record.Configuration

/-!
A consumable all the way through: written and read back, and sent by a client to the server, stored
there and shown again. What comes back is the record that was sent, with an empty state and an empty
toner type filled in, and with the id and the times that it was given.

Main definitions and statements:
* `Consumable.Sendable.filledIn`, `Consumable.Sendable.entered`: what is stored can be sent again;
* `Store.createConsumable_ready`: a sound store takes every record that is ready;
* `Client.MaySubmit`: a client with access to a branch;
* `Client.createConsumable_answer`: what the client is answered, and what is stored;
* `Client.consumable_round_trip`: what is sent comes back, at once and whenever it is asked for.
-/
namespace Stockroom
set_option autoImplicit false

open Json (legible)

/-! ## Records that are ready -/

namespace Consumable

theorem retimed_filledIn (c : Consumable) : c.retimed.filledIn = c.filledIn.retimed := by
  rw [filledIn_fields, filledIn_fields]
  rfl

theorem Sendable.filledIn {c : Consumable} (h : c.Sendable) : c.filledIn.Sendable := by
  have htexts := h.texts
  simp only [Consumable.texts, List.forall_mem_cons, List.not_mem_nil, false_implies, implies_true,
    and_true] at htexts
  obtain ⟨hbrand, hreference, htag, hdescription, hstate⟩ := htexts
  have htype : ∀ t : TonerType, t.tag.wellFormed = true := by
    rintro ⟨⟩
    · decide
    · decide
  rw [filledIn_fields]
  refine ⟨h.id, ?_, h.counts, h.createdAt, h.updatedAt⟩
  simp only [Consumable.texts, List.forall_mem_cons, List.not_mem_nil, false_implies, implies_true,
    and_true]
  refine ⟨hbrand, hreference, ?_, hdescription, ?_⟩
  · split
    · exact htype _
    · exact htag
  · split
    · decide
    · exact hstate

theorem Sendable.entered {c : Consumable} (h : c.Sendable) {id : Int} {now : Instant}
    (hid : fitsInt64 id = true) (hnow : now.Plain) : (c.entered id now).Legible where
  id := hid
  texts := h.texts
  counts := fun q hq => Quantity.written_of_count (h.counts q hq)
  createdAt := hnow
  updatedAt := hnow

end Consumable

theorem readyConsumable_retimed {c ready : Consumable} (h : readyConsumable c = .ok ready) :
    readyConsumable c.retimed = .ok ready.retimed := by
  obtain ⟨rfl, hvalid⟩ := Store.readyConsumable_eq_ok h
  have hretimed : c.filledIn.retimed.validate = .ok () := hvalid
  rw [readyConsumable, Consumable.retimed_filledIn, hretimed]

/-! ## Sound stores -/

namespace Store

variable {s : Store}

theorem Sound.writable_ok (hs : s.Sound) (table : TableName) (touches : Bool) (activity : Text) :
    s.writable table touches activity = .ok () := by
  cases h : s.writable table touches activity with
  | ok _ => rfl
  | error e => exact absurd h (hs.writable table touches activity).never

/-- A sound store takes a record that is ready, and gives it back. -/
theorem createConsumable_ready (hs : s.Sound) {c ready : Consumable}
    (h : readyConsumable c = .ok ready) (now : Instant) :
    ∃ row, row.load = .ok (ready.entered (nextId (s.ids .consumables)) now.stored) ∧
      s.createConsumable now c = .ok (ready.entered (nextId (s.ids .consumables)) now.stored,
        { s with consumables := s.consumables ++ [row] }) := by
  obtain ⟨-, hvalid⟩ := readyConsumable_eq_ok h
  obtain ⟨row, loaded, hrow, hload, -, -⟩ := consumableRow_loads hvalid
    (nextId (s.ids .consumables)) now.stored now.stored "creating consumable"
  have hentered : ready.entered (nextId (s.ids .consumables)) now.stored = loaded :=
    Except.ok.inj ((ConsumableRow.load_ofConsumable (consumableRow_eq_ok hrow)).symm.trans hload)
  have hread : loadConsumable { s with consumables := s.consumables ++ [row] } "getting consumable"
      row = .ok loaded := loadConsumable_sound hs.faultless hload
  change consumableRow ready (nextId (s.consumables.map (·.id))) _ _ _ = _ at hrow
  refine ⟨row, hentered ▸ hload, ?_⟩
  rw [createConsumable, h]
  simp only [insertConsumable, bind, Except.bind, hs.writable_ok, hrow, hread, hentered]
  rfl

/-- The name of an active branch is found. -/
theorem Sound.branchNamed?_eq (hs : s.Sound) {name : Text} (h : s.HasBranch name) :
    ∃ b, s.branchNamed? name = .ok (some b) := by
  obtain ⟨b, hb, hactive, hname⟩ := h
  have hfound : (s.activeBranchNamed? name).isSome = true :=
    List.find?_isSome.mpr ⟨b, hb, by rw [hactive, hname, beq_self_eq_true, Bool.and_true]⟩
  obtain ⟨row, hrow⟩ := Option.isSome_iff_exists.mp hfound
  cases hnamed : s.branchNamed? name with
  | error e => exact absurd hnamed (hs.branchNamed? name).never
  | ok found =>
    obtain ⟨_, -, hshown⟩ := bind_eq_ok.mp hnamed
    rw [hrow] at hshown
    obtain ⟨_, -, hshown⟩ := bind_eq_ok.mp hshown
    exact ⟨_, congrArg _ (pure_eq_ok.mp hshown).symm⟩

end Store

namespace Client

theorem branchForWrite_own {claims : Claims} {s : Store} {branch : Text} (hs : s.Sound)
    (hne : branch ≠ []) (haccess : Api.mayAccess claims branch = true)
    (hbranch : s.HasBranch branch) : Api.branchForWrite claims s branch = .ok branch := by
  have hnamed : branch.isEmpty = false := by simpa using hne
  obtain ⟨b, hb⟩ := hs.branchNamed?_eq hbranch
  simp only [Api.branchForWrite, hnamed, Bool.false_and, Bool.false_eq_true, if_false, haccess,
    Bool.not_true, hb]
  rfl

/-- A client may submit consumables for a branch: it is signed in as someone who may change the stock of
the branch, the branch is there, and what the client sends arrives. -/
structure MaySubmit (c : Client) (ctx : Api.Context) (s : Store) (claims : Claims) (branch : Text) :
    Prop where
  reaches : c.Reaches "/api/consumables"
  arrives : ∃ address, WebAddress.parse (c.base ++ Text.ofString "/api/consumables") = .ok address
  signedIn : c.token.isEmpty = false
  caller : Api.caller ctx s { method := "POST", target := "/api/consumables", headers := bearing c.token } =
    some claims
  manages : Api.Access.manager.admits claims = true
  access : Api.mayAccess claims branch = true
  place : s.HasBranch branch

section
variable {c : Client} {ctx : Nat → Api.Context} {n : Nat} {s : Store} {claims : Claims}
  {r ready : Consumable}

/-- What is stored of a record comes through the wire as it is. -/
theorem entered_legible (hr : r.Sendable) (hready : readyConsumable r = .ok ready) {id : Int}
    {now : Instant} (hid : fitsInt64 id = true) (hyear : now.FourDigitYear) :
    (ready.entered id now.stored).Legible := by
  obtain ⟨rfl, -⟩ := Store.readyConsumable_eq_ok hready
  exact hr.filledIn.entered hid ⟨hyear, rfl, rfl⟩

theorem ready_branch (hready : readyConsumable r = .ok ready) : ready.branch = r.branch := by
  obtain ⟨rfl, -⟩ := Store.readyConsumable_eq_ok hready
  exact Store.filledIn_branch r

/-- The server stores what a client sends, and the client reads from the answer what is stored. -/
theorem createConsumable_answer (hr : r.Sendable) (hbranch : r.branch.wellFormed = true)
    (hready : readyConsumable r = .ok ready) (hmay : c.MaySubmit (ctx n) s claims r.branch)
    (hs : s.Sound) (hkeyed : s.Keyed) (hyear : (ctx n).now.FourDigitYear)
    (hid : fitsInt64 (nextId (s.ids .consumables)) = true) :
    ∃ after, Api.Stocked after (ready.entered (nextId (s.ids .consumables)) (ctx n).now.stored) ∧
      c.createConsumable (servedTransport ctx c.base) r (n, s) =
        (.ok (ready.entered (nextId (s.ids .consumables)) (ctx n).now.stored), n + 1, after) := by
  obtain ⟨-, hvalid⟩ := Store.readyConsumable_eq_ok hready
  have hplace := ready_branch hready
  have hnamed : r.branch ≠ [] := hplace ▸ (Consumable.validate_eq_ok.mp hvalid).2.2.1
  have hlegible := entered_legible hr hready hid hyear
  have hown : (ready.entered (nextId (s.ids .consumables)) (ctx n).now.stored).received =
      ready.entered (nextId (s.ids .consumables)) (ctx n).now.stored :=
    Consumable.received_eq (hplace ▸ hbranch)
  obtain ⟨row, hload, hcreated⟩ :=
    Store.createConsumable_ready hs (readyConsumable_retimed hready) (ctx n).now
  change row.load = .ok (ready.entered (nextId (s.ids .consumables)) (ctx n).now.stored) at hload
  change s.createConsumable (ctx n).now { r.retimed with branch := r.branch } =
    .ok (ready.entered (nextId (s.ids .consumables)) (ctx n).now.stored, _) at hcreated
  generalize ready.entered (nextId (s.ids .consumables)) (ctx n).now.stored = stored
    at hload hcreated hlegible hown ⊢
  have hchange := Store.createConsumable_change hcreated
  generalize hafter : { s with consumables := s.consumables ++ [row] } = after at hcreated hchange
  have hheld : row ∈ after.consumables := by
    rw [← hafter]
    exact List.mem_append_right _ (List.mem_singleton_self row)
  refine ⟨after, ⟨hchange.keeps_sound hs, hchange.keyed hkeyed, row, hheld, hload⟩, ?_⟩
  obtain ⟨v, hbody, hposted⟩ := sentConsumable_posted hr
  obtain ⟨address, haddress⟩ := hmay.arrives
  have hserve : Api.serve (ctx n) claims s (posted (bearing c.token) "/api/consumables" v) []
      .createConsumable = .ok (.json 201 (Api.shownConsumable stored), after) := by
    have hgiven : Api.branchForWrite claims s r.retimed.branch = .ok r.branch :=
      branchForWrite_own hs hnamed hmay.access hmay.place
    show Api.createConsumable (ctx n) claims s _ = _
    rw [Api.createConsumable, hposted, Consumable.received_eq hbranch]
    simp only [bind, Except.bind, hgiven, hcreated, Api.orExplain]
    rfl
  have hcaller : Api.caller (ctx n) s (posted (bearing c.token) "/api/consumables" v) = some claims :=
    (Api.caller_congr rfl rfl).trans hmay.caller
  obtain ⟨hwhole, hheight⟩ := Api.shownConsumable_whole hlegible
  have hread : oneOf Consumable.wireFields (legible (Api.shownConsumable stored)) = some stored := by
    rw [oneOf, Api.decode_shownConsumable hlegible, hown]
    rfl
  rw [createConsumable, hbody]
  exact ask_answered hmay.reaches haddress hmay.signedIn consumables_posted (by decide) hcaller
    hmay.manages hserve hwhole hheight hread

/-- A consumable without stray bytes and without counts below zero is read back from its written form
as it was, but for zones that are not of whole minutes. If it is ready to be stored and a client sends
it to the branch that it names, the client reads from the answer the record that was stored, which is
the one that was sent with its defaults, an id and its times. Until the record is updated or deleted,
or the branch gets another name, it is found by its id and in the lists, and reads as that record. -/
theorem consumable_round_trip (hr : r.Sendable) (hbranch : r.branch.wellFormed = true) :
    (∃ v, r.toJson = .ok v ∧ r.retimed.ReadFrom v) ∧
    (r.createdAt.offset % 60 = 0 → r.updatedAt.offset % 60 = 0 → r.retimed = r) ∧
    ∀ (c : Client) (ctx : Nat → Api.Context) (n : Nat) (s : Store) (claims : Claims)
      (ready : Consumable), readyConsumable r = .ok ready →
      c.MaySubmit (ctx n) s claims r.branch → s.Sound → s.Keyed → (ctx n).now.FourDigitYear →
      fitsInt64 (nextId (s.ids .consumables)) = true →
      let stored := ready.entered (nextId (s.ids .consumables)) (ctx n).now.stored
      let result := c.createConsumable (servedTransport ctx c.base) r (n, s)
      result.1 = .ok stored ∧ ∀ run, Api.Throughout (Api.Spares stored) result.2.2 run →
        Api.Shows (Api.handleAll result.2.2 run) stored := by
  refine ⟨?_, ?_, ?_⟩
  · obtain ⟨members, hmembers, hflat, hdecode⟩ := Consumable.toMembers_sendable hr
    refine ⟨.object members, by rw [Consumable.toJson, hmembers]; rfl, ?_⟩
    have hall := hdecode []
    rw [List.append_nil, Consumable.received_eq hbranch] at hall
    rw [Consumable.ReadFrom,
      Json.decodeText_render hflat.whole (Nat.le_trans hflat.height_le (by decide)), legible]
    exact hall
  · intro hcreated hupdated
    rw [Consumable.retimed, Instant.reread_eq hcreated, Instant.reread_eq hupdated]
  · intro c ctx n s claims ready hready hmay hs hkeyed hyear hid
    obtain ⟨after, hstocked, hresult⟩ :=
      createConsumable_answer hr hbranch hready hmay hs hkeyed hyear hid
    have hplace := ready_branch hready
    rw [hresult]
    refine ⟨rfl, fun run hrun => ?_⟩
    exact (Api.handleAll_stocked run hstocked hrun).shows (entered_legible hr hready hid hyear)
      (hplace ▸ hbranch)

end

end Client

/-! ## A toner that is sent to a branch -/

def tonerInB : Consumable :=
  { brand := "HP", reference := "CF410A", branch := "B", black := .counted 7 }

/-- The toner as it is stored. -/
def tonerAsStored : Consumable :=
  { tonerInB with
    id := 1, tonerTag := "unicolor", state := "disponible", createdAt := { unix := 0 }
    updatedAt := { unix := 0 } }

theorem tonerInB_sendable : tonerInB.Sendable where
  id := by decide
  texts := by decide
  counts := by decide
  createdAt := Instant.unset_plain.writable
  updatedAt := Instant.unset_plain.writable

/-- Whoever bears a token that is accepted is its owner. -/
theorem bearing_caller {c : Client} {claims : Claims} {s : Store} {method target : Text}
    (htoken : c.token = Token.sign Api.earlyContext.secret claims)
    (hvalid : Api.caller Api.earlyContext {} (Api.signed claims "GET" "/" []) = some claims)
    (hrevoked : s.isRevoked = Store.isRevoked {}) :
    Api.caller Api.earlyContext s { method, target, headers := Client.bearing c.token } =
      some claims := by
  refine (Api.caller_congr ?_ hrevoked).trans hvalid
  rw [htoken]
  rfl

theorem clientOfFirst_submits :
    clientOfFirst.MaySubmit Api.earlyContext Api.branchOfManager Api.asFirst "B" where
  reaches := clientOfFirst_consumables
  arrives := ⟨_, clientOfFirst_address⟩
  signedIn := rfl
  caller := bearing_caller rfl Api.asFirst_valid rfl
  manages := by decide
  access := by decide
  place := by decide

theorem tonerInB_returns :
    let result := clientOfFirst.createConsumable
      (servedTransport (fun _ => Api.earlyContext) clientOfFirst.base) tonerInB (0, Api.branchOfManager)
    result.1 = .ok tonerAsStored ∧
      Api.Shows (Api.handleAll result.2.2 [(Api.earlyContext, Api.listingByFirst)]) tonerAsStored := by
  obtain ⟨hanswer, hshows⟩ := (Client.consumable_round_trip tonerInB_sendable (by decide)).2.2
    clientOfFirst (fun _ => Api.earlyContext) 0 Api.branchOfManager Api.asFirst
    tonerInB.filledIn (by rfl) clientOfFirst_submits Api.branchOfManager_sound
    Api.branchOfManager_keyed (by decide) (by decide)
  refine ⟨hanswer, hshows _ ⟨?_, trivial⟩⟩
  -- whoever asks for the branches does not touch a consumable
  rintro - (⟨_, hasks, -⟩ | ⟨_, hasks, -⟩ | ⟨_, _, _, _, hasks, -⟩)
  all_goals
    rw [Api.listingByFirst_asks] at hasks
    cases hasks

end Stockroom

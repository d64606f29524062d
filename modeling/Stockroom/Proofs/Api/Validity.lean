import Stockroom.Proofs.Api.Integrity
import Stockroom.Proofs.Calendar.Instant
import Stockroom.Proofs.Intake.Settled

/-!
Stored records stay as they have to be. What is added or replaced is checked, but not all of what is
stored comes from the record that was checked: an update keeps the kind of an item and fills in the
date and the administrator of a delivery, a new delivery may be dated by the clock, and a branch takes
its new name to its items unchecked.

Main definitions and statements:
* `Delivery.Recorded`, `ResetRequest.Recorded`: a delivery and a request as they are stored;
* `Store.createDelivery_recorded`, `Store.updateDelivery_recorded`: what is filled in keeps them so;
* `Act.items_valid`, `serve_deliveries`, `serve_requests`: what one request keeps;
* `Store.Change.keeps_kind`: an item that stays has the kind it had;
* `handleAll_valid`: all of it for every run.
-/
namespace Stockroom
set_option autoImplicit false

/-! ## Items -/

theorem Item.validate_rename {r : Item} {name : Text} (h : r.validate = .ok ()) (hname : name ≠ []) :
    ({ r with branch := name } : Item).validate = .ok () := by
  unfold validate at h ⊢
  split at h
  · cases h
  · next kind hkind =>
    split at h
    · cases h
    · dsimp only
      rw [hkind]
      dsimp only
      rw [if_neg (by simpa using hname)]
      exact h

/-! ## Deliveries -/

namespace Delivery

theorem validate_eq_ok {d : Delivery} : d.validate = .ok () ↔ d.brand ≠ [] ∧ d.model ≠ [] ∧
    1 ≤ d.quantity ∧ (d.arrivalDate = [] ∨ isIsoDate d.arrivalDate = true) ∧
    isAvailability d.availability = true := by
  constructor
  · intro h
    unfold validate at h
    split at h
    · cases h
    next hname =>
    split at h
    · cases h
    next hquantity =>
    split at h
    · cases h
    next hdate =>
    split at h
    · cases h
    next havailability =>
    simp only [Bool.or_eq_true, List.isEmpty_iff, not_or] at hname
    refine ⟨hname.1, hname.2, by omega, ?_, by simpa using havailability⟩
    by_cases hempty : d.arrivalDate = []
    · exact .inl hempty
    · exact .inr (by simpa [hempty] using hdate)
  · rintro ⟨hbrand, hmodel, hquantity, hdate, havailability⟩
    have hdated : ¬(!d.arrivalDate.isEmpty && !isIsoDate d.arrivalDate) = true := by
      rcases hdate with hdate | hdate <;> simp [hdate]
    rw [validate, if_neg (by simp [hbrand, hmodel]), if_neg (by omega), if_neg hdated,
      if_neg (by simp [havailability])]

/-- A delivery as it is stored. -/
structure Recorded (d : Delivery) : Prop where
  valid : d.validate = .ok ()
  trimmed : d.trimmed = d
  dated : d.arrivalDate ≠ []
  administered : d.adminName ≠ []

theorem isIsoDate_ne_nil {t : Text} (h : isIsoDate t = true) : t ≠ [] := by
  rintro rfl
  exact absurd h (by decide)

/-- A checked delivery with its date and its administrator filled in. -/
theorem Recorded.fill {r : Delivery} {date admin : Text} (hvalid : r.trimmed.validate = .ok ())
    (hdate : isIsoDate date = true) (htrim : admin.trim = admin) (hadmin : admin ≠ []) (id : Int)
    (createdAt updatedAt : Instant) :
    Recorded { r.trimmed with
      id, createdAt, updatedAt
      arrivalDate := if r.trimmed.arrivalDate.isEmpty then date else r.trimmed.arrivalDate
      adminName := if r.trimmed.adminName.isEmpty then admin else r.trimmed.adminName } := by
  obtain ⟨hbrand, hmodel, hquantity, hgiven, havailability⟩ := validate_eq_ok.mp hvalid
  have hdated : isIsoDate (if r.trimmed.arrivalDate.isEmpty then date else r.trimmed.arrivalDate) =
      true := by
    split
    · exact hdate
    · next hne => exact hgiven.resolve_left (by simpa using hne)
  have hadministered : (if r.trimmed.adminName.isEmpty then admin else r.trimmed.adminName) ≠ [] := by
    split
    · exact hadmin
    · next hne => simpa using hne
  have htrimmed : (if r.trimmed.adminName.isEmpty then admin else r.trimmed.adminName).trim =
      if r.trimmed.adminName.isEmpty then admin else r.trimmed.adminName := by
    split
    · exact htrim
    · exact Text.trim_trim _
  refine ⟨validate_eq_ok.mpr ⟨hbrand, hmodel, hquantity, .inr hdated, havailability⟩, ?_,
    isIsoDate_ne_nil hdated, hadministered⟩
  simp only [Delivery.trimmed, Text.trim_trim] at htrimmed ⊢
  rw [htrimmed]

theorem Recorded.isIsoDate {d : Delivery} (h : d.Recorded) : isIsoDate d.arrivalDate = true :=
  (validate_eq_ok.mp h.valid).2.2.2.1.resolve_left h.dated

end Delivery

namespace Store

variable {s s' : Store} {now : Instant}

theorem checkDelivery_eq_ok {r checked : Delivery} (h : checkDelivery r = .ok checked) :
    checked = r.trimmed ∧ r.trimmed.validate = .ok () := by
  unfold checkDelivery at h
  split at h
  · next hvalid =>
    cases h
    exact ⟨rfl, hvalid⟩
  · cases h

/-- Without a date, a new delivery is dated by the clock. -/
theorem createDelivery_recorded {r row : Delivery} (hlow : 0 ≤ now.date.year)
    (hhigh : now.date.year < 10000) (h : s.createDelivery now r = .ok (row, s')) :
    row.Recorded := by
  simp only [createDelivery, throw_bind, bind_eq_ok] at h
  obtain ⟨checked, hchecked, h⟩ := h
  obtain ⟨rfl, hvalid⟩ := checkDelivery_eq_ok hchecked
  split at h
  · cases h
  next hadmin =>
  simp only [bind_eq_ok, pure_eq_ok, Prod.mk.injEq] at h
  obtain ⟨_, -, rfl, -⟩ := h
  have htoday : isIsoDate now.date.iso = true :=
    CalendarDate.isIsoDate_iso (CalendarDate.ofDayNumber_exists _) hlow hhigh
  have hnamed : r.trimmed.adminName ≠ [] := by simpa using hadmin
  have hfilled := Delivery.Recorded.fill hvalid htoday (Text.trim_trim r.adminName) hnamed
    (nextId (s.deliveries.map (·.id))) now.stored now.stored
  rw [if_neg hadmin] at hfilled
  exact hfilled

theorem delivery?_mem {id : Int} {d : Delivery} (h : s.delivery? id = .ok (some d)) :
    d ∈ s.deliveries := by
  obtain ⟨_, -, h⟩ := bind_eq_ok.mp h
  split at h
  · cases h
  · next row hrow =>
    obtain ⟨_, -, h⟩ := bind_eq_ok.mp h
    cases h
    exact List.mem_of_find?_eq_some hrow

/-- Without a date or an administrator, a delivery keeps the one it had. -/
theorem updateDelivery_recorded {r : Delivery} {row : Option Delivery} {id : Int}
    (hs : ∀ d ∈ s.deliveries, d.Recorded) (h : s.updateDelivery now id r = .ok (row, s')) :
    ∀ d ∈ s'.deliveries, d.Recorded := by
  simp only [updateDelivery, bind_eq_ok] at h
  obtain ⟨found, hfound, h⟩ := h
  cases found with
  | none =>
    cases h
    exact hs
  | some existing =>
    simp only [bind_eq_ok, pure_eq_ok, Prod.mk.injEq] at h
    obtain ⟨checked, hchecked, _, -, -, rfl⟩ := h
    obtain ⟨rfl, hvalid⟩ := checkDelivery_eq_ok hchecked
    have hold := hs existing (delivery?_mem hfound)
    have htrim : existing.adminName.trim = existing.adminName := congrArg Delivery.adminName hold.trimmed
    refine forall_mem_map_if hs fun _ _ _ => ?_
    exact .fill hvalid hold.isIsoDate htrim hold.administered existing.id existing.createdAt now.stored

end Store

/-! ## Requests for new passwords -/

/-- A request as it is stored. -/
structure ResetRequest.Recorded (r : ResetRequest) : Prop where
  valid : r.validate = .ok ()
  trimmed : r.trimmed = r

theorem Store.createRequest_recorded {s s' : Store} {now : Instant} {r row : ResetRequest}
    (h : s.createRequest now r = .ok (row, s')) : row.Recorded := by
  unfold createRequest at h
  split at h
  · cases h
  · next hvalid =>
    simp only [bind_eq_ok, pure_eq_ok, Prod.mk.injEq] at h
    obtain ⟨_, -, rfl, -⟩ := h
    refine ⟨hvalid, ?_⟩
    simp only [ResetRequest.trimmed, Text.trim_trim]

/-! ## What one request keeps -/

namespace Api

section
variable {ctx : Context} {claims : Claims} {s s' : Store} {req : Request} {endpoint : Endpoint}
  {segment : Text} {response : Response}

theorem Act.items_valid (act : Act claims s endpoint s')
    (h : ∀ r ∈ s.items, r.validate = .ok ()) : ∀ r ∈ s'.items, r.validate = .ok () := by
  cases act with
  | createItem row hid hvalid =>
    intro r hr
    rcases List.mem_append.mp hr with hr | hr
    · exact h r hr
    · rw [List.mem_singleton.mp hr]
      exact hvalid
  | updateItem existing row hfound hid hkind hvalid =>
    exact forall_mem_map_if h fun _ _ _ => hvalid
  | deleteItem existing =>
    intro r hr
    exact h r (List.mem_filter.mp hr).1
  | updateBranch id b name location hb hname =>
    exact forall_mem_map_if h fun r hr _ => Item.validate_rename (h r hr) hname
  | _ => exact h

theorem Act.deliveries_kept (act : Act claims s endpoint s') (hcreate : endpoint ≠ .createDelivery)
    (hupdate : endpoint ≠ .updateDelivery) : ∀ d ∈ s'.deliveries, d ∈ s.deliveries := by
  cases act with
  | createDelivery => exact absurd rfl hcreate
  | updateDelivery => exact absurd rfl hupdate
  | deleteDelivery id => exact fun d hd => (List.mem_filter.mp hd).1
  | _ => exact fun d hd => hd

theorem Act.requests_kept (act : Act claims s endpoint s') (hleave : endpoint ≠ .leaveRequest) :
    ∀ r ∈ s'.requests, r ∈ s.requests := by
  cases act with
  | leaveRequest => exact absurd rfl hleave
  | deleteRequest id => exact fun r hr => (List.mem_filter.mp hr).1
  | deleteAllRequests => exact fun r hr => nomatch hr
  | _ => exact fun r hr => hr

theorem createDelivery_keeps (hlow : 0 ≤ ctx.now.date.year) (hhigh : ctx.now.date.year < 10000)
    (hs : ∀ d ∈ s.deliveries, d.Recorded)
    (h : createDelivery ctx claims s req = .ok (response, s')) :
    ∀ d ∈ s'.deliveries, d.Recorded := by
  obtain ⟨sent, -, h⟩ := bind_eq_ok.mp h
  obtain ⟨⟨row, after⟩, hcreate, h⟩ := bind_eq_ok.mp h
  cases h
  have hcreated := orExplain_eq_ok hcreate
  have hrow := Store.createDelivery_recorded hlow hhigh hcreated
  obtain ⟨-, rfl⟩ := Store.createDelivery_effect hcreated
  intro d hd
  rcases List.mem_append.mp hd with hd | hd
  · exact hs d hd
  · rw [List.mem_singleton.mp hd]
    exact hrow

theorem updateDelivery_keeps (hs : ∀ d ∈ s.deliveries, d.Recorded)
    (h : updateDelivery ctx s segment req = .ok (response, s')) :
    ∀ d ∈ s'.deliveries, d.Recorded := by
  obtain ⟨existing, -, h⟩ := bind_eq_ok.mp h
  obtain ⟨sent, -, h⟩ := bind_eq_ok.mp h
  obtain ⟨⟨row, after⟩, hupdate, h⟩ := bind_eq_ok.mp h
  obtain ⟨_, -, h⟩ := bind_eq_ok.mp h
  cases h
  exact Store.updateDelivery_recorded hs (orExplain_eq_ok hupdate)

theorem leaveRequest_keeps (hs : ∀ r ∈ s.requests, r.Recorded)
    (h : leaveRequest ctx s req = .ok (response, s')) : ∀ r ∈ s'.requests, r.Recorded := by
  obtain ⟨sent, -, h⟩ := bind_eq_ok.mp h
  obtain ⟨⟨row, after⟩, hcreate, h⟩ := bind_eq_ok.mp h
  cases h
  have hcreated := orExplain_eq_ok hcreate
  have hrow := Store.createRequest_recorded hcreated
  obtain ⟨-, rfl⟩ := Store.createRequest_effect hcreated
  intro r hr
  rcases List.mem_append.mp hr with hr | hr
  · exact hs r hr
  · rw [List.mem_singleton.mp hr]
    exact hrow

theorem serve_deliveries (hlow : 0 ≤ ctx.now.date.year) (hhigh : ctx.now.date.year < 10000)
    (hs : ∀ d ∈ s.deliveries, d.Recorded)
    (h : serve ctx claims s req segment endpoint = .ok (response, s')) :
    ∀ d ∈ s'.deliveries, d.Recorded := by
  by_cases hcreate : endpoint = .createDelivery
  · subst hcreate
    exact createDelivery_keeps hlow hhigh hs h
  by_cases hupdate : endpoint = .updateDelivery
  · subst hupdate
    exact updateDelivery_keeps hs h
  · exact fun d hd => hs d ((serve_act h).deliveries_kept hcreate hupdate d hd)

theorem serve_requests (hs : ∀ r ∈ s.requests, r.Recorded)
    (h : serve ctx claims s req segment endpoint = .ok (response, s')) :
    ∀ r ∈ s'.requests, r.Recorded := by
  by_cases hleave : endpoint = .leaveRequest
  · subst hleave
    exact leaveRequest_keeps hs h
  · exact fun r hr => hs r ((serve_act h).requests_kept hleave r hr)

end

end Api

/-! ## Kinds -/

namespace Store

variable {s s' : Store}

/-- Whatever becomes of an item, it has the kind it had; an id that is given again is given in another
request than the one that took it away. -/
theorem Change.keeps_kind (change : s.Change s') (hs : s.Keyed) {r r' : Item} (hr : r ∈ s.items)
    (hr' : r' ∈ s'.items) (hid : r'.id = r.id) : r'.kind = r.kind := by
  have hsame : ∀ old ∈ s.items, old.id = r.id → old.kind = r.kind := by
    intro old hold hold'
    rw [List.inj_on_of_nodup_map (hs.distinct .items) hold hr hold']
  cases change with
  | addItem row hfresh hvalid =>
    rcases List.mem_append.mp hr' with hr' | hr'
    · exact hsame r' hr' hid
    · rw [List.mem_singleton.mp hr', hfresh] at hid
      have htaken : r.id ∈ s.items.map (·.id) := List.mem_map_of_mem hr
      rw [← hid] at htaken
      exact absurd htaken (nextId_fresh _)
  | replaceItem existing row hfound hrow hkind hvalid =>
    obtain ⟨old, hold, rfl⟩ := List.mem_map.mp hr'
    rw [replaced_id Item.id] at hid
    split
    · next hreplaced =>
      rw [hkind]
      exact hsame existing hfound (hrow.symm.trans ((beq_iff_eq.mp hreplaced).symm.trans hid))
    · exact hsame old hold hid
  | removeItem id => exact hsame r' (List.mem_filter.mp hr').1 hid
  | renameBranch id b name location =>
    obtain ⟨old, hold, rfl⟩ := List.mem_map.mp hr'
    split at hid
    · rw [apply_ite Item.kind, ite_self]
      exact hsame old hold hid
    · rw [apply_ite Item.kind, ite_self]
      exact hsame old hold hid
  | _ => exact hsame r' hr' hid

end Store

namespace Api

/-- Every request of a run leaves an item with the id. -/
def Lasts (id : Int) (s : Store) (run : List (Context × Request)) : Prop :=
  Throughout (fun _ _ _ after => id ∈ after.ids .items) s run

theorem handleAll_keeps_kind (s : Store) (run : List (Context × Request)) (hs : s.Keyed) (r : Item)
    (hr : r ∈ s.items) (hlasts : Lasts r.id s run) :
    ∀ r' ∈ (handleAll s run).items, r'.id = r.id → r'.kind = r.kind := by
  induction run generalizing s r with
  | nil =>
    intro r' hr' hid
    rw [List.inj_on_of_nodup_map (hs.distinct .items) hr' hr hid]
  | cons first rest ih =>
    obtain ⟨ctx, req⟩ := first
    obtain ⟨hthere, hrest⟩ := hlasts
    obtain ⟨next, hnext, hid⟩ := List.mem_map.mp hthere
    have hkind : next.kind = r.kind :=
      (handle_step ctx s req).change.keeps_kind hs hr hnext hid
    rw [← hid] at hrest
    intro r' hr' hr'id
    rw [← hkind]
    exact ih _ (handle_keyed ctx req hs) next hnext hrest r' hr' (hr'id.trans hid.symm)

/-! ## Every run -/

/-- The clock shows a year of four digits. -/
def Context.FourDigitYear (ctx : Context) : Prop :=
  0 ≤ ctx.now.date.year ∧ ctx.now.date.year < 10000

instance (ctx : Context) : Decidable ctx.FourDigitYear := inferInstanceAs (Decidable (_ ∧ _))

/-- After every run of requests, from a store whose records are as they have to be: the items pass
their check, the requests for passwords are trimmed and pass theirs, an item has the kind it had ever
since it was added, and so long as the clock shows a year of four digits the deliveries are trimmed,
pass their check and have a date and an administrator. -/
theorem handleAll_valid (s : Store) (run : List (Context × Request)) (hs : s.Keyed)
    (hitems : ∀ r ∈ s.items, r.validate = .ok ()) (hdeliveries : ∀ d ∈ s.deliveries, d.Recorded)
    (hrequests : ∀ r ∈ s.requests, r.Recorded) :
    (∀ r ∈ (handleAll s run).items, r.validate = .ok ()) ∧
      (∀ before after, run = before ++ after → ∀ r ∈ (handleAll s before).items,
        Lasts r.id (handleAll s before) after →
          ∀ r' ∈ (handleAll s run).items, r'.id = r.id → r'.kind = r.kind) ∧
      ((∀ step ∈ run, step.1.FourDigitYear) → ∀ d ∈ (handleAll s run).deliveries, d.Recorded) ∧
      ∀ r ∈ (handleAll s run).requests, r.Recorded := by
  refine ⟨?_, ?_, ?_, ?_⟩
  · refine handleAll_invariant (P := fun s => ∀ r ∈ s.items, r.validate = .ok ()) ?_ s run hitems
    intro ctx req s h
    obtain ⟨claims, endpoint, act⟩ := (handle_step ctx s req).act
    exact act.items_valid h
  · rintro before after rfl r hr hlasts
    have hkeyed : (handleAll s before).Keyed :=
      handleAll_invariant (fun ctx req _ => handle_keyed ctx req) s before hs
    rw [handleAll_append]
    exact handleAll_keeps_kind _ after hkeyed r hr hlasts
  · intro hclock
    refine handleAll_keeps (P := fun s => ∀ d ∈ s.deliveries, d.Recorded)
      (fun ctx _ _ _ => ctx.FourDigitYear) ?_ s run (throughout_of_forall s hclock) hdeliveries
    intro ctx req s h hyear
    rcases handle_serves ctx s req with hsame | ⟨claims, endpoint, segment, response, hserve⟩
    · rwa [hsame]
    · exact serve_deliveries hyear.1 hyear.2 h hserve
  · refine handleAll_invariant (P := fun s => ∀ r ∈ s.requests, r.Recorded) ?_ s run hrequests
    intro ctx req s h
    rcases handle_serves ctx s req with hsame | ⟨claims, endpoint, segment, response, hserve⟩
    · rwa [hsame]
    · exact serve_requests h hserve

/-- The first administrator records a delivery without a date, of a brand with space around it. -/
def deliveryByFirst : Request :=
  signed asFirst "POST" "/api/new-pcs"
    ("\x7b\"marque\":\" HP \",\"modele\":\"Z2\",\"quantite_arrivee\":3," ++
      "\"admin_nom\":\"first\",\"disponibilite\":\"disponible\"\x7d").toList

/-- The delivery has the date of the clock. -/
def deliveryOfFirst : Delivery :=
  { id := 1, brand := "HP", model := "Z2", quantity := 3, arrivalDate := "1970-01-01"
    adminName := "first", availability := "disponible", createdAt := { unix := 0 }
    updatedAt := { unix := 0 } }

/-- Someone who is not signed in leaves a message, with space around the name. -/
def messageByOther : Request :=
  { method := "POST", target := "/api/password-requests"
    body := .text
      "\x7b\"name\":\" n \",\"email\":\"a@b.c\",\"message\":\"lost password\"\x7d".toList }

def messageOfOther : ResetRequest :=
  { id := 1, name := "n", email := "a@b.c", message := "lost password", createdAt := { unix := 0 } }

/-- The item of branch B, after the branch was given the name C. -/
def branchOfC : Store := { branchOfManager with items := [itemInB] }.withBranch 1 "B" "C" []

theorem renamingToC_renames :
    (handle earlyContext { branchOfManager with items := [itemInB] } renamingToC).2 = branchOfC :=
  renamingToC_served rfl (by decide +kernel)

theorem deliveryByFirst_adds :
    (handle earlyContext branchOfC deliveryByFirst).2 =
      { branchOfC with deliveries := [deliveryOfFirst] } := by
  have hasks : asksFor deliveryByFirst = some (Endpoint.createDelivery, []) := by decide +kernel
  have hcaller : caller earlyContext branchOfC deliveryByFirst = some asFirst :=
    signed_caller asFirst_valid rfl
  exact handle_admitted (by decide +kernel) (by decide +kernel) hasks (by decide) hcaller (by decide)
    (by decide +kernel)

theorem messageByOther_adds :
    (handle earlyContext { branchOfC with deliveries := [deliveryOfFirst] } messageByOther).2 =
      { branchOfC with deliveries := [deliveryOfFirst], requests := [messageOfOther] } := by
  decide +kernel

/-- An item, another name for its branch, a delivery and a message. -/
def fourRequests : List (Context × Request) :=
  [(earlyContext, additionByB), (earlyContext, renamingToC), (earlyContext, deliveryByFirst),
    (earlyContext, messageByOther)]

theorem fourRequests_run : handleAll branchOfManager fourRequests =
    { branchOfC with deliveries := [deliveryOfFirst], requests := [messageOfOther] } := by
  rw [fourRequests, handleAll, additionByB_adds, handleAll, renamingToC_renames, handleAll,
    deliveryByFirst_adds, handleAll, messageByOther_adds, handleAll]

/-- The item of branch B is there after each of the requests that follow. -/
theorem fourRequests_lasts : Lasts itemInB.id { branchOfManager with items := [itemInB] }
    [(earlyContext, renamingToC), (earlyContext, deliveryByFirst), (earlyContext, messageByOther)] := by
  refine ⟨?_, ?_, ?_, trivial⟩
  · rw [renamingToC_renames]
    decide
  · rw [renamingToC_renames, deliveryByFirst_adds]
    decide
  · rw [renamingToC_renames, deliveryByFirst_adds, messageByOther_adds]
    decide

/-- The item is still a valid workstation when its branch has another name, the delivery is dated by the
clock, and the texts that were sent with space around them are stored without. -/
theorem fourRequests_valid :
    branchOfManager.Keyed ∧
      (handleAll branchOfManager fourRequests).items.map (·.branch) = ["C"] ∧
      (∀ r ∈ (handleAll branchOfManager fourRequests).items,
        r.id = 1 → r.validate = .ok () ∧ r.kind = ItemKind.pc.tag) ∧
      (handleAll branchOfManager fourRequests).deliveries = [deliveryOfFirst] ∧
      deliveryOfFirst.Recorded ∧
      (handleAll branchOfManager fourRequests).requests = [messageOfOther] ∧
      messageOfOther.Recorded := by
  have hadded : handleAll branchOfManager [(earlyContext, additionByB)] =
      { branchOfManager with items := [itemInB] } := by
    rw [handleAll, handleAll]
    exact additionByB_adds
  obtain ⟨hvalid, hkind, hdeliveries, hrequests⟩ := handleAll_valid branchOfManager fourRequests
    branchOfManager_keyed (List.forall_mem_nil _) (List.forall_mem_nil _) (List.forall_mem_nil _)
  refine ⟨branchOfManager_keyed, by rw [fourRequests_run]; decide,
    fun r hr hid => ⟨hvalid r hr, ?_⟩, by rw [fourRequests_run], ?_, by rw [fourRequests_run], ?_⟩
  · refine hkind [(earlyContext, additionByB)] _ rfl itemInB ?_ (hadded ▸ fourRequests_lasts) r hr hid
    rw [hadded]
    exact List.mem_singleton_self _
  · refine hdeliveries ?_ deliveryOfFirst (by rw [fourRequests_run]; exact List.mem_singleton_self _)
    decide
  · exact hrequests messageOfOther (by rw [fourRequests_run]; exact List.mem_singleton_self _)

end Api
end Stockroom

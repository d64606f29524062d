import Stockroom.Client.Submit
import Stockroom.Proofs.Api.Retention

/-!
One submission, from the client through the router to the store and back. A record that comes through
the wire as it is, is either refused, and the client says so, or stored once, and the client takes
the answer for success: the answer to a stored record can always be read.

Main definitions and statements:
* `servedTransport`: the router as a transport, with its own time and token id for each request;
* `Client.Reaches`: a path of the server is reached at the address of the client;
* `ask_creates`, `ask_unknown`, `ask_answered`: what becomes of a request for a new record;
* `itemSubmitter_creates`, `consumableSubmitter_creates`: one submission.
-/
namespace Stockroom
set_option autoImplicit false

open Json (legible)

/-- The router of the server at the base address. The n-th request meets the n-th context. -/
def servedTransport (ctx : Nat → Api.Context) (base : Text) : Transport (Nat × Store) := fun o s =>
  ((routerTransport (ctx s.1) base o s.2).1, s.1 + 1, (routerTransport (ctx s.1) base o s.2).2)

/-- An item as it is stored: with an id and the time of its creation. -/
def Item.entered (r : Item) (id : Int) (now : Instant) : Item :=
  { r with id, createdAt := now, updatedAt := now }

/-- A consumable with an id and the time of its creation. -/
def Consumable.entered (r : Consumable) (id : Int) (now : Instant) : Consumable :=
  { r with id, createdAt := now, updatedAt := now }

theorem mended_ne_nil {t : Text} (h : t ≠ []) : t.mended ≠ [] := by
  cases t with
  | nil => exact absurd rfl h
  | cons g rest => exact List.cons_ne_nil _ _

theorem Item.Legible.received {r : Item} (h : r.Legible) : r.received.Legible :=
  ⟨h.id, h.texts, h.createdAt, h.updatedAt⟩

theorem Consumable.Legible.received {r : Consumable} (h : r.Legible) : r.received.Legible :=
  ⟨h.id, h.texts, h.counts, h.createdAt, h.updatedAt⟩

theorem Item.Legible.entered {r : Item} (h : r.Legible) {id : Int} {now : Instant}
    (hid : fitsInt64 id = true) (hnow : now.Plain) : (r.entered id now).Legible :=
  ⟨hid, h.texts, hnow, hnow⟩

theorem Consumable.Legible.entered {r : Consumable} (h : r.Legible) {id : Int} {now : Instant}
    (hid : fitsInt64 id = true) (hnow : now.Plain) : (r.entered id now).Legible :=
  ⟨hid, h.texts, h.counts, hnow, hnow⟩

namespace Client

/-- A request for a path of the server asks the server for that path. -/
def Reaches (c : Client) (path : Text) : Prop :=
  ∀ a, WebAddress.parse (c.base ++ path) = .ok a → a.text.drop c.base.length = path

/-- A path to which records are posted for an endpoint. -/
structure PostsTo (path : Text) (endpoint : Api.Endpoint) : Prop where
  asks : Api.asksFor { method := "POST", target := path } = some (endpoint, [])
  target : (path == Text.ofString "*") = false
  clean : (cleanPath (Api.Request.asked { method := "POST", target := path }).path !=
    (Api.Request.asked { method := "POST", target := path }).path) = false

theorem items_posted : PostsTo "/api/inventory-items" .createItem where
  asks := by decide +kernel
  target := by decide
  clean := by decide +kernel

theorem consumables_posted : PostsTo "/api/consumables" .createConsumable where
  asks := by decide +kernel
  target := by decide
  clean := by decide +kernel

/-- A request with a record as the router gets it. -/
def posted (headers : List (Text × Text)) (path : Text) (v : Json) : Api.Request :=
  { method := "POST", target := path, headers, body := .text v.render }

/-- What the client makes of an answer. -/
def taken (answer : Api.Response) : Except ClientFault (List UInt8) :=
  if 200 ≤ answer.status ∧ answer.status ≤ 299 then .ok answer.bytes
  else .error (.status answer.status (errorText answer.bytes))

section
variable {c : Client} {ctx : Nat → Api.Context} {path : Text} {v : Json} {n : Nat} {s : Store}

/-- The headers of a request to an address. -/
def headersTo (c : Client) (address : WebAddress) : List (Text × Text) :=
  if (c.authorization address).isEmpty then [] else [("Authorization", c.authorization address)]

/-- The headers of a request with a token. -/
def bearing (token : Text) : List (Text × Text) := [("Authorization", "Bearer " ++ token)]

theorem headersTo_token (address : WebAddress) (h : c.token.isEmpty = false) :
    c.headersTo address = bearing c.token := by
  have htoken : c.authorization address = Text.ofString "Bearer " ++ c.token := by
    rw [authorization, h]
    rfl
  unfold headersTo
  rw [htoken]
  rfl

/-- The router answers a request to an address that can be read. -/
theorem exchange_arrives (ctx : Nat → Api.Context) {address : WebAddress} (hreach : c.Reaches path)
    (haddress : WebAddress.parse (c.base ++ path) = .ok address) :
    c.exchange (servedTransport ctx c.base) "POST" path (some v) (n, s) =
      (taken (Api.handle (ctx n) s (posted (c.headersTo address) path v)).1, n + 1,
        (Api.handle (ctx n) s (posted (c.headersTo address) path v)).2) := by
  have hreceived : Outgoing.received c.base
      { method := "POST", address, authorization := c.authorization address, body := some v } =
      posted (c.headersTo address) path v := by
    rw [Outgoing.received, hreach address haddress]
    rfl
  rw [exchange, haddress]
  simp only [servedTransport, routerTransport, hreceived]
  generalize Api.handle (ctx n) s _ = answer
  simp only [taken]
  split <;> rfl

/-- A request goes nowhere, or the router answers it. -/
theorem exchange_posts (ctx : Nat → Api.Context) (hreach : c.Reaches path) :
    (∃ fault, c.exchange (servedTransport ctx c.base) "POST" path (some v) (n, s) =
      (.error fault, n, s)) ∨
    ∃ headers, c.exchange (servedTransport ctx c.base) "POST" path (some v) (n, s) =
      (taken (Api.handle (ctx n) s (posted headers path v)).1, n + 1,
        (Api.handle (ctx n) s (posted headers path v)).2) := by
  cases haddress : WebAddress.parse (c.base ++ path) with
  | error fault =>
    refine .inl ⟨.address fault, ?_⟩
    rw [exchange, haddress]
  | ok address => exact .inr ⟨c.headersTo address, exchange_arrives ctx hreach haddress⟩

/-- The client reads what a creation is answered with. -/
theorem decoded_created {α : Type} {decode : Decoder α} {x : α} (hwhole : v.Whole)
    (hheight : v.height ≤ Json.maxDepth) (hx : decode (legible v) = some x) (activity : Text)
    (req : Api.Request) (hmethod : Api.isHead req.method = false) :
    decoded decode activity (taken (Api.answered req (.json 201 v))) = .ok x := by
  have hbytes : (Api.answered req (.json 201 v)).bytes =
      (Text.ofChars (v.render ++ ['\n'])).bytes := by
    rw [Api.answered, hmethod]
    rfl
  have htaken : taken (Api.answered req (.json 201 v)) =
      .ok (Text.ofChars (v.render ++ ['\n'])).bytes := by
    rw [taken, hbytes]
    exact if_pos (by decide : 200 ≤ 201 ∧ 201 ≤ 299)
  have hfirst : Json.readFirst (v.render ++ ['\n']) = some (legible v, ['\n']) :=
    Json.readFirst_render hwhole hheight (Json.ends_cons [] (by decide))
  rw [htaken, Client.decoded, Text.ofBytes_bytes (Text.wellFormed_ofChars _), Text.toChars_ofChars,
    hfirst]
  simp only [Option.bind_some, hx]

/-- A response from which the client can read a record. -/
def Readable {α : Type} (decode : Decoder α) (response : Api.Response) : Prop :=
  ∃ v, response = .json 201 v ∧ v.Whole ∧ v.height ≤ Json.maxDepth ∧
    (decode (legible v)).isSome = true

theorem readable_of_flat {α : Type} {decode : Decoder α} {v : Json}
    (hv : v.Whole ∧ v.height ≤ 1) (hdecode : (decode (legible v)).isSome = true) :
    Readable decode (.json 201 v) :=
  ⟨v, rfl, hv.1, Nat.le_trans hv.2 (by decide), hdecode⟩

theorem Readable.decoded {α : Type} {decode : Decoder α} {response : Api.Response}
    (h : Readable decode response) (activity : Text) (req : Api.Request)
    (hmethod : Api.isHead req.method = false) :
    ∃ x, decoded decode activity (taken (Api.answered req response)) = .ok x := by
  obtain ⟨v, rfl, hwhole, hheight, hdecode⟩ := h
  obtain ⟨x, hx⟩ := Option.isSome_iff_exists.mp hdecode
  exact ⟨x, decoded_created hwhole hheight hx activity req hmethod⟩

theorem PostsTo.dispatch {endpoint : Api.Endpoint} (h : PostsTo path endpoint) (ctx : Api.Context)
    (headers : List (Text × Text)) : Api.dispatch ctx s (posted headers path v) =
      Api.guarded ctx s (posted headers path v) endpoint [] :=
  Api.dispatch_asked h.target h.clean h.asks

/-- The client takes a refusal for an error. -/
theorem taken_refused {req : Api.Request} {status : Nat} (h : 400 ≤ status) {message : Text} :
    taken (Api.answered req (.failure status message)) =
      .error (.status status (errorText (Api.answered req (.failure status message)).bytes)) :=
  if_neg fun hsuccess => by
    have hgiven : status = (Api.answered req (.failure status message)).status := rfl
    omega

/-- A submission is refused and changes nothing, or it is accepted and leaves a store as told. -/
def Creates (result : Reply × Nat × Store) (s : Store) (stored : Store → Prop) : Prop :=
  (result.1.error ≠ none ∧ result.2.2 = s) ∨ (result.1.error = none ∧ stored result.2.2)

theorem creates_of_error {α : Type} {stored : Store → Prop} (e : ClientError) (n : Nat) :
    Creates (replyOf ((.error e : Except ClientError α), n, s)) s stored :=
  .inl ⟨Option.some_ne_none _, rfl⟩

/-- An endpoint that explains what it refuses, and whose answers can be read. -/
theorem ask_creates {α : Type} {decode : Decoder α} {stored : Store → Prop} {activity : Text}
    {endpoint : Api.Endpoint} (hreach : c.Reaches path) (hpath : PostsTo path endpoint)
    (hexplains : ∀ claims req, Api.Explains (Api.serve (ctx n) claims s req [] endpoint))
    (hserve : ∀ claims headers response s',
      Api.serve (ctx n) claims s (posted headers path v) [] endpoint = .ok (response, s') →
      stored s' ∧ Readable decode response) :
    Creates (replyOf (c.ask (servedTransport ctx c.base) activity "POST" path (.ok (some v)) decode
      (n, s))) s stored := by
  unfold ask
  split
  · exact creates_of_error _ n
  simp only
  obtain ⟨fault, hnowhere⟩ | ⟨headers, hanswer⟩ :=
    exchange_posts (c := c) (v := v) (n := n) (s := s) ctx hreach
  · rw [hnowhere]
    exact creates_of_error _ n
  rw [hanswer, Api.handle_eq, hpath.dispatch]
  cases hguarded : Api.guarded (ctx n) s (posted headers path v) endpoint [] with
  | error response =>
    obtain ⟨status, message, hstatus, rfl⟩ := Api.guarded_explains
      (fun claims => hexplains claims (posted headers path v)) response hguarded
    simp only [taken_refused hstatus]
    exact creates_of_error _ (n + 1)
  | ok result =>
    obtain ⟨response, s'⟩ := result
    have hserved : ∃ claims, Api.serve (ctx n) claims s (posted headers path v) [] endpoint =
        .ok (response, s') := by
      unfold Api.guarded at hguarded
      split at hguarded
      · exact ⟨_, hguarded⟩
      · obtain ⟨claims, -, hguarded⟩ := bind_eq_ok.mp hguarded
        obtain ⟨_, -, hguarded⟩ := bind_eq_ok.mp hguarded
        exact ⟨claims, hguarded⟩
    obtain ⟨claims, hserved⟩ := hserved
    obtain ⟨hstored, hreadable⟩ := hserve claims headers response s' hserved
    obtain ⟨x, hx⟩ := hreadable.decoded activity (posted headers path v) rfl
    simp only [hx]
    exact .inr ⟨rfl, hstored⟩

/-- Whoever is not known is refused, and nothing changes. -/
theorem ask_unknown {α : Type} (activity : Text) (decode : Decoder α) {address : WebAddress}
    {endpoint : Api.Endpoint} {status : Nat} {message : Text} (hreach : c.Reaches path)
    (haddress : WebAddress.parse (c.base ++ path) = .ok address) (htoken : c.token.isEmpty = false)
    (hpath : PostsTo path endpoint) (hguarded : endpoint.access ≠ .anyone) (hstatus : 400 ≤ status)
    (hrefused : Api.authenticate (ctx n) s (posted (bearing c.token) path v) =
      Api.refuse status message) :
    ∃ e, c.ask (servedTransport ctx c.base) activity "POST" path (.ok (some v)) decode (n, s) =
      (.error e, n + 1, s) := by
  have hdispatch : Api.dispatch (ctx n) s (posted (bearing c.token) path v) =
      .error (.failure status message) := by
    rw [hpath.dispatch, Api.guarded]
    split
    · next hanyone => exact absurd hanyone hguarded
    · rw [hrefused]
      rfl
  rw [ask, if_neg (by rw [htoken]; decide)]
  simp only [exchange_arrives ctx hreach haddress, headersTo_token address htoken, Api.handle_eq,
    hdispatch, taken_refused hstatus]
  exact ⟨_, rfl⟩

/-- Whoever is admitted is answered, and the client reads what the endpoint answers. -/
theorem ask_answered {α : Type} {decode : Decoder α} {activity : Text} {claims : Claims}
    {address : WebAddress} {w : Json} {x : α} {s' : Store} {endpoint : Api.Endpoint}
    (hreach : c.Reaches path) (haddress : WebAddress.parse (c.base ++ path) = .ok address)
    (htoken : c.token.isEmpty = false) (hpath : PostsTo path endpoint)
    (hguarded : endpoint.access ≠ .anyone)
    (hcaller : Api.caller (ctx n) s (posted (bearing c.token) path v) = some claims)
    (hadmits : endpoint.access.admits claims = true)
    (hserve : Api.serve (ctx n) claims s (posted (bearing c.token) path v) [] endpoint =
      .ok (.json 201 w, s'))
    (hwhole : w.Whole) (hheight : w.height ≤ Json.maxDepth) (hx : decode (legible w) = some x) :
    c.ask (servedTransport ctx c.base) activity "POST" path (.ok (some v)) decode (n, s) =
      (.ok x, n + 1, s') := by
  have hhandled : Api.handle (ctx n) s (posted (bearing c.token) path v) =
      (Api.answered (posted (bearing c.token) path v) (.json 201 w), s') :=
    Api.handle_served hpath.target hpath.clean hpath.asks hguarded hcaller hadmits hserve
  have hdecoded := decoded_created hwhole hheight hx activity (posted (bearing c.token) path v) rfl
  rw [ask, if_neg (by rw [htoken]; decide)]
  simp only [exchange_arrives ctx hreach haddress, headersTo_token address htoken, hhandled, hdecoded]

end

/-! ## Items and consumables -/

theorem branchForWrite_named {claims : Claims} {s : Store} {branch given : Text}
    (hne : branch ≠ []) (h : Api.branchForWrite claims s branch = .ok given) : given = branch := by
  have hnamed : branch.isEmpty = false := by simpa using hne
  simp only [Api.branchForWrite, hnamed, Bool.false_and, Bool.false_eq_true, if_false] at h
  split at h
  · cases h
  · obtain ⟨found, -, h⟩ := bind_eq_ok.mp h
    split at h
    · exact (pure_eq_ok.mp h).symm
    · cases h

variable {c : Client} (ctx : Nat → Api.Context) {n : Nat} {s : Store}

/-- An item that comes through the wire as it is can be read from an answer. -/
theorem readable_item {r : Item} (h : r.Legible) :
    Readable (oneOf Item.wireFields) (.json 201 r.toJson) := by
  refine readable_of_flat r.toJson_whole ?_
  rw [oneOf, Item.decode_toJson h]
  rfl

/-- An item is refused, or it is stored as it was sent, with the next id and the time. -/
theorem itemSubmitter_creates {r : Item} (hreach : c.Reaches "/api/inventory-items")
    (hyear : (ctx n).now.FourDigitYear) (hr : r.Legible) (hbranch : r.branch ≠ [])
    (hid : fitsInt64 (nextId (s.items.map (·.id))) = true) :
    Creates (c.itemSubmitter (servedTransport ctx c.base) r (n, s)) s fun s' =>
      s' = { s with
        items := s.items ++
          [r.received.entered (nextId (s.items.map (·.id))) (ctx n).now.stored] } := by
  have hbody : itemBody r = .ok (some r.toJson) := by
    have hwritable {t : Instant} (ht : t.Plain) : t.isWritable = true := by
      rw [Instant.isWritable, ht.offset]
      decide
    rw [itemBody, hwritable hr.createdAt, hwritable hr.updatedAt]
    rfl
  have hstored : (ctx n).now.stored.Plain := ⟨hyear, rfl, rfl⟩
  rw [itemSubmitter, createItem, hbody]
  refine ask_creates hreach items_posted
    (fun claims req => Api.createItem_explains (ctx n) claims s req) ?_
  intro claims headers response s' hserve
  have hsent : Api.sentRecord Item.wireFields (posted headers "/api/inventory-items" r.toJson) =
      .ok r.received := by
    have hdecode : Json.decodeFirst Item.wireFields default r.toJson.render = .ok r.received := by
      have hread {v : Json} (hv : v.Whole ∧ v.height ≤ 1) :
          Json.decodeFirst Item.wireFields default v.render =
            Json.decodeRecord Item.wireFields default (legible v) :=
        Json.decodeFirst_render hv.1 (Nat.le_trans hv.2 (by decide))
      rw [hread r.toJson_whole, Item.decode_toJson hr]
    rw [Api.sentRecord, posted, Api.Request.text, hdecode]
  obtain ⟨sent, hsent', hserve⟩ := bind_eq_ok.mp hserve
  obtain rfl : r.received = sent := Except.ok.inj (hsent.symm.trans hsent')
  obtain ⟨branch, hgiven, hserve⟩ := bind_eq_ok.mp hserve
  obtain rfl := branchForWrite_named (mended_ne_nil hbranch) hgiven
  obtain ⟨⟨row, after⟩, hcreated, hserve⟩ := bind_eq_ok.mp hserve
  obtain ⟨-, hrow, hafter⟩ := Store.createItem_effect (r := r.received) (Api.orExplain_eq_ok hcreated)
  obtain ⟨rfl, rfl⟩ := Prod.mk.inj (pure_eq_ok.mp hserve)
  have hentered : row = r.received.entered (nextId (s.items.map (·.id))) (ctx n).now.stored := hrow
  rw [hentered] at hafter ⊢
  exact ⟨hafter, readable_item (hr.received.entered hid hstored)⟩

theorem filledIn_eq {r : Consumable} (htag : r.tonerTag ≠ []) (hstate : r.state ≠ []) :
    r.filledIn = r := by
  have htagged : r.tonerTag.isEmpty = false := by simpa using htag
  have hplaced : r.state.isEmpty = false := by simpa using hstate
  simp only [Consumable.filledIn, hplaced, htagged, Bool.false_eq_true, if_false]

/-- A consumable that comes through the wire as it is can be read from an answer. -/
theorem readable_shown {r : Consumable} (h : r.Legible) :
    Readable (oneOf Consumable.wireFields) (.json 201 (Api.shownConsumable r)) := by
  obtain ⟨hwhole, hheight⟩ := Api.shownConsumable_whole h
  refine ⟨_, rfl, hwhole, hheight, ?_⟩
  rw [oneOf, Api.decode_shownConsumable h]
  rfl

/-- A consumable that can be sent arrives, with U+FFFD in place of the stray bytes of its branch. -/
theorem sentConsumable_posted {r : Consumable} (h : r.Sendable) :
    ∃ v, consumableBody r = .ok (some v) ∧ ∀ headers path,
      Api.sentConsumable (posted headers path v) = .ok r.received.retimed := by
  obtain ⟨members, hmembers, hflat, hdecode⟩ := Consumable.toMembers_sendable h
  refine ⟨.object members, ?_, fun headers path => ?_⟩
  · rw [consumableBody, Consumable.toJson, hmembers]
    rfl
  · have hread : Json.decodeFirst Consumable.wireFields {} (Json.object members).render =
        .ok r.received.retimed := by
      have hall := hdecode []
      rw [List.append_nil] at hall
      rw [Json.decodeFirst_render hflat.whole (Nat.le_trans hflat.height_le (by decide)),
        Json.legible]
      exact hall
    rw [Api.sentConsumable, posted, Api.Request.text, hread]

/-- A consumable is refused, or it is stored as it was sent, with the next id and the time. -/
theorem consumableSubmitter_creates {r : Consumable} (hreach : c.Reaches "/api/consumables")
    (hyear : (ctx n).now.FourDigitYear) (hr : r.Legible) (hbranch : r.branch ≠ [])
    (htag : r.tonerTag ≠ []) (hstate : r.state ≠ [])
    (hid : fitsInt64 (nextId (s.consumables.map (·.id))) = true) :
    Creates (c.consumableSubmitter (servedTransport ctx c.base) r (n, s)) s fun s' =>
      ∃ row, ConsumableRow.ofConsumable
          (r.received.entered (nextId (s.consumables.map (·.id))) (ctx n).now.stored) = .ok row ∧
        s' = { s with consumables := s.consumables ++ [row] } := by
  obtain ⟨v, hbody, hposted⟩ := sentConsumable_posted hr.sendable
  have hstored : (ctx n).now.stored.Plain := ⟨hyear, rfl, rfl⟩
  rw [consumableSubmitter, createConsumable, hbody]
  refine ask_creates hreach consumables_posted
    (fun claims req => Api.createConsumable_explains (ctx n) claims s req) ?_
  intro claims headers response s' hserve
  have hsent : Api.sentConsumable (posted headers "/api/consumables" v) = .ok r.received := by
    rw [hposted, hr.retimed]
  obtain ⟨sent, hsent', hserve⟩ := bind_eq_ok.mp hserve
  obtain rfl : r.received = sent := Except.ok.inj (hsent.symm.trans hsent')
  obtain ⟨branch, hgiven, hserve⟩ := bind_eq_ok.mp hserve
  obtain rfl := branchForWrite_named (mended_ne_nil hbranch) hgiven
  obtain ⟨⟨shown, after⟩, hcreated, hserve⟩ := bind_eq_ok.mp hserve
  obtain ⟨row, -, hrow, hload, rfl⟩ :=
    Store.createConsumable_effect (c := r.received) (Api.orExplain_eq_ok hcreated)
  have hready : r.received.filledIn = r.received := filledIn_eq htag hstate
  rw [hready] at hrow
  obtain ⟨rfl, rfl⟩ := Prod.mk.inj (pure_eq_ok.mp hserve)
  have hentered : ConsumableRow.ofConsumable
      (r.received.entered (nextId (s.consumables.map (·.id))) (ctx n).now.stored) = .ok row := hrow
  refine ⟨⟨row, hentered, rfl⟩, ?_⟩
  obtain rfl := Except.ok.inj (hload.symm.trans (ConsumableRow.load_ofConsumable hentered))
  exact readable_shown (hr.received.entered hid hstored)

end Client

/-! ## The client of an administrator -/

/-- A client with the token of the first administrator. -/
def clientOfFirst : Client :=
  { base := "http://server", token := Token.sign Api.earlyContext.secret Api.asFirst }

theorem clientOfFirst_items : clientOfFirst.Reaches "/api/inventory-items" := by
  have hparse : WebAddress.parse (clientOfFirst.base ++ Text.ofString "/api/inventory-items") =
      .ok { scheme := "http", host := "server", path := "/api/inventory-items" } := by
    decide +kernel
  intro a ha
  rw [hparse] at ha
  cases ha
  decide +kernel

theorem clientOfFirst_address :
    WebAddress.parse (clientOfFirst.base ++ Text.ofString "/api/consumables") =
      .ok { scheme := "http", host := "server", path := "/api/consumables" } := by
  decide +kernel

theorem clientOfFirst_consumables : clientOfFirst.Reaches "/api/consumables" := by
  intro a ha
  rw [clientOfFirst_address] at ha
  cases ha
  decide +kernel

end Stockroom

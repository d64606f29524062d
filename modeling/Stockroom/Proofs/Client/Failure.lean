import Stockroom.Client.Submit
import Stockroom.Proofs.Json.Record
import Stockroom.Proofs.Json.Truncation
import Stockroom.Proofs.Outcome
import Stockroom.Proofs.Text.Cut

/-!
What a client is told when the server fails. A failure is answered with its reason as the one text of an
object, and the client reads no more of an error than a fixed number of bytes. If that is all of it, the
client reports the reason as the server gave it; otherwise what it has read is no value, and it reports
that as it stands.

Main definitions and statements:
* `failureText`, `errorText_failure`: the reason is read back if the whole of it is read;
* `errorText_cut`: what is reported if it is not;
* `Client.Call`, `Client.Call.outgoing`, `Client.Call.failure`: what a client may be asked for, the
  request that it sends then, and why it fails;
* `Client.failure_told`: the error that is reported;
* `Client.longReason_lost`: a reason that is too long.
-/
namespace Stockroom
set_option autoImplicit false

open Json (member)

/-! ## Reasons -/

/-- What a failure with a reason is written as. -/
def failureText (message : Text) : Text :=
  Text.ofChars (Json.object [member "error" (.string message)]).render

section
variable {message : Text}

theorem failure_bytes (status : Nat) (message : Text) :
    (Api.Response.failure status message).bytes = (failureText message).bytes ++ [10] := by
  have hsplit : (Api.Response.failure status message).bytes =
      (Text.ofChars ((Json.object [member "error" (.string message)]).render ++ ['\n'])).bytes := rfl
  rw [hsplit, Text.ofChars_append, Text.bytes_append]
  rfl

/-- The field of the reason, the one field that is read of an error. -/
def reasonFields : List (Json.Field Refusal Text) := [Json.textField "error" fun _ e => e]

theorem errorText_of_read {body : List UInt8} {cs : List Char}
    (h : (Text.ofBytes (body.take errorLimit)).toChars = cs) :
    errorText body = match Json.decodeText reasonFields [] cs with
      | .ok (g :: rest) => g :: rest
      | _ => (Text.ofBytes (body.take errorLimit)).trim := by
  rw [← h]
  rfl

theorem decode_reason (hmessage : message.wellFormed = true) {rest : List Char}
    (hends : Json.Ends rest) (hspace : Json.skipSpace rest = []) :
    Json.decodeText reasonFields []
      ((Json.object [member "error" (.string message)]).render ++ rest) = .ok message := by
  have hflat : Json.Flat [member "error" (.string message)] := Json.flat_text _ _ Json.flat_nil
  have hdistinct : Json.Distinct reasonFields := by decide
  rw [Json.decodeText, Json.read_render_space hflat.whole
    (Nat.le_trans hflat.height_le (by decide)) hends hspace]
  calc Json.decodeMembers reasonFields false []
        (Json.legibleMembers [member "error" (.string message)])
      = Json.decodeMembers reasonFields false message.mended (Json.legibleMembers []) :=
        Json.decode_text hdistinct 0 rfl
    _ = .ok message := by rw [Text.mended_of_wellFormed hmessage]; rfl

/-- The reason is read back if the whole of it is read. -/
theorem errorText_failure (status : Nat) (hmessage : message.wellFormed = true) (hne : message ≠ [])
    (hfits : (failureText message).bytes.length ≤ errorLimit) :
    errorText (Api.Response.failure status message).bytes = message := by
  -- the line end may or may not be read
  obtain ⟨rest, hends, hspace, htext⟩ : ∃ rest, Json.Ends rest ∧ Json.skipSpace rest = [] ∧
      Text.ofBytes ((Api.Response.failure status message).bytes.take errorLimit) =
        Text.ofChars ((Json.object [member "error" (.string message)]).render ++ rest) := by
    rw [failure_bytes, List.take_append, List.take_of_length_le hfits, failureText,
      Text.ofBytes_append, ← failureText]
    cases errorLimit - (failureText message).bytes.length with
    | zero => exact ⟨[], Json.ends_nil, rfl, by rw [Text.ofChars_append]; rfl⟩
    | succ n =>
      refine ⟨['\n'], Json.ends_cons [] (by decide), rfl, ?_⟩
      rw [List.take_succ_cons, List.take_nil, Text.ofChars_append]
      rfl
  rw [errorText_of_read ((congrArg Text.toChars htext).trans (Text.toChars_ofChars _)),
    decode_reason hmessage hends hspace]
  cases message with
  | nil => exact absurd rfl hne
  | cons g rest => rfl

/-! ## Reasons that are cut off -/

/-- What is written before the reason. -/
def reasonOpening : List Char := '{' :: (Json.renderString "error" ++ [':', '"'])

/-- What is written of the reason and after it. -/
def reasonWritten (message : Text) : List Char :=
  message.flatMap Json.escapedGlyph ++ ['"', '}']

theorem failureText_eq (message : Text) :
    failureText message = Text.ofChars (reasonOpening ++ reasonWritten message) := by
  refine congrArg Text.ofChars ?_
  simp only [Json.render, Json.renderMembers, member, reasonOpening, reasonWritten,
    Json.renderString, List.cons_append, List.append_assoc, List.nil_append]

/-- What is read of a reason that is too long: the beginning, without the end of the object. -/
theorem failureText_take (hlong : errorLimit < (failureText message).bytes.length) :
    ∃ kept rest high, reasonWritten message = kept ++ rest ∧ rest ≠ [] ∧
      (∀ b ∈ high, Text.isHigh b = true) ∧
      Text.ofBytes ((failureText message).bytes.take errorLimit) =
        Text.ofChars (reasonOpening ++ kept) ++ Text.ofBytes high := by
  have hopening : (Text.ofChars reasonOpening).bytes.length = 10 := by decide
  obtain ⟨kept, rest, high, hsplit, htake, hhigh, hrest⟩ :=
    Text.bytes_take (reasonWritten message) (errorLimit - 10)
  refine ⟨kept, rest, high, hsplit, hrest ?_, hhigh, ?_⟩
  · rw [failureText_eq, Text.ofChars_append, Text.bytes_append, List.length_append, hopening,
      errorLimit] at hlong
    rw [errorLimit]
    omega
  · rw [← Text.ofBytes_append, Text.ofChars_append, Text.bytes_append, List.append_assoc, ← htake,
      failureText_eq, Text.ofChars_append, Text.bytes_append, List.take_append, hopening,
      List.take_of_length_le (by rw [hopening]; decide)]

/-- If the whole of it is not read, the client reports what it has read. -/
theorem errorText_cut (status : Nat) (hlong : errorLimit < (failureText message).bytes.length) :
    errorText (Api.Response.failure status message).bytes =
      (Text.ofBytes ((failureText message).bytes.take errorLimit)).trim := by
  have hbody : (Api.Response.failure status message).bytes.take errorLimit =
      (failureText message).bytes.take errorLimit := by
    rw [failure_bytes, List.take_append_of_le_length (Nat.le_of_lt hlong)]
  obtain ⟨kept, rest, high, hsplit, hrest, hhigh, htext⟩ := failureText_take hlong
  have hchars : (Text.ofBytes ((failureText message).bytes.take errorLimit)).toChars =
      '{' :: (Json.renderString "error" ++ ':' :: '"' :: (kept ++ (Text.ofBytes high).toChars)) := by
    have hmap : (Text.ofChars (reasonOpening ++ kept) ++ Text.ofBytes high).toChars =
        (Text.ofChars (reasonOpening ++ kept)).toChars ++ (Text.ofBytes high).toChars :=
      List.map_append
    rw [htext, hmap, Text.toChars_ofChars]
    simp only [reasonOpening, List.cons_append, List.append_assoc, List.nil_append]
  have hnone : Json.decodeText reasonFields []
      ('{' :: (Json.renderString "error" ++ ':' :: '"' :: (kept ++ (Text.ofBytes high).toChars))) =
      .error .shape := by
    rw [Json.decodeText, Json.read_cut hsplit hrest fun c hc => Text.large_of_high hhigh hc]
  rw [errorText_of_read ((congrArg _ (congrArg _ hbody)).trans hchars), hnone, hbody]

theorem Text.trim_head? {g : Glyph} (hg : g.isBlank = false) (t : Text) :
    (Text.trim (g :: t)).head? = some g := by
  have hlast : [g].dropWhile Glyph.isBlank = [g] := List.dropWhile_cons_of_neg (by simp [hg])
  rw [Text.trim, Text.trimStart, List.dropWhile_cons_of_neg (by simp [hg]), Text.trimEnd,
    List.reverse_cons, List.dropWhile_append]
  split
  · rw [hlast]
    rfl
  · rw [List.reverse_append]
    rfl

/-- Then the report begins with the brace of the object. -/
theorem errorText_cut_head? (status : Nat)
    (hlong : errorLimit < (failureText message).bytes.length) :
    (errorText (Api.Response.failure status message).bytes).head? = some (.char '{') := by
  obtain ⟨kept, rest, high, -, -, -, htext⟩ := failureText_take hlong
  rw [errorText_cut status hlong, htext]
  exact Text.trim_head? (by decide) _

theorem length_le_flatMap {α β : Type} {f : α → List β} (hf : ∀ a, f a ≠ []) (as : List α) :
    as.length ≤ (as.flatMap f).length := by
  induction as with
  | nil => exact Nat.le_refl 0
  | cons a as ih =>
    have hpos : 0 < (f a).length := List.length_pos_iff.mpr (hf a)
    rw [List.flatMap_cons, List.length_append, List.length_cons]
    omega

/-- Whatever is written takes a byte at least. -/
theorem length_lt_failureText (message : Text) :
    message.length < (failureText message).bytes.length := by
  have hglyph : ∀ g : Glyph, g.bytes ≠ []
    | .char _ => String.utf8EncodeChar_ne_nil
    | .stray _ => List.cons_ne_nil _ _
  have hescaped : ∀ g, Json.escapedGlyph g ≠ []
    | .stray _ => List.cons_ne_nil _ _
    | .char c => by
      simp only [Json.escapedGlyph, Json.escapedChar]
      repeat' split
      all_goals exact List.cons_ne_nil _ _
  calc message.length ≤ (message.flatMap Json.escapedGlyph).length := length_le_flatMap hescaped _
    _ < (reasonOpening ++ reasonWritten message).length := by
      simp only [reasonWritten, List.length_append, List.length_cons]
      omega
    _ = (failureText message).length := by rw [failureText_eq, Text.ofChars, List.length_map]
    _ ≤ (failureText message).bytes.length := length_le_flatMap hglyph _

end

/-! ## Calls -/

namespace Client

/-- What a client may be asked for. -/
inductive Call where
  | login (username password : Text)
  | logout
  | listBranches
  | createItem (r : Item)
  | listItems (branch kind : Text)
  | createConsumable (r : Consumable)
  | updateConsumable (id : Int) (r : Consumable)
  | listConsumables (branch state search : Text)

/-- A request as a client sends it. None is sent where a token is needed and there is none, nor where the
address or the body cannot be written. -/
def sent (c : Client) (signedIn : Bool) (method : String) (path : Text)
    (body : Except ClientFault (Option Json)) : Option Outgoing :=
  if signedIn && c.token.isEmpty then none
  else match body, WebAddress.parse (c.base ++ path) with
    | .ok body, .ok address =>
      some { method := Text.ofString method, address, authorization := c.authorization address, body }
    | _, _ => none

/-- The error of a result. -/
def reported {α : Type} : Except ClientError α → Option ClientError
  | .ok _ => none
  | .error e => some e

namespace Call

/-- What a call is for, as its errors say it. -/
def activity : Call → Text
  | .login .. => "login"
  | .logout => "logout"
  | .listBranches => "listing branches"
  | .createItem _ => "creating inventory item"
  | .listItems .. => "listing inventory items"
  | .createConsumable _ => "creating consumable"
  | .updateConsumable .. => "updating consumable"
  | .listConsumables .. => "listing consumables"

/-- The request that a call sends. -/
def outgoing (c : Client) : Call → Option Outgoing
  | .login username password => c.sent false "POST" "/api/auth/login"
      (.ok (some (.object [member "password" (.string password), member "username" (.string username)])))
  | .logout => c.sent true "POST" "/api/auth/logout" (.ok none)
  | .listBranches => c.sent true "GET" "/api/branches" (.ok none)
  | .createItem r => c.sent true "POST" "/api/inventory-items" (itemBody r)
  | .listItems branch kind => c.sent true "GET"
      ("/api/inventory-items" ++ queryPart [("branche", branch), ("kind", kind)]) (.ok none)
  | .createConsumable r => c.sent true "POST" "/api/consumables" (consumableBody r)
  | .updateConsumable id r =>
      c.sent true "PUT" ("/api/consumables/" ++ Text.ofInt id) (consumableBody r)
  | .listConsumables branch state search => c.sent true "GET"
      ("/api/consumables" ++ queryPart [("branche", branch), ("etat", state), ("search", search)])
      (.ok none)

/-- Why a call fails, if it does. -/
def failure {σ : Type} (c : Client) (send : Transport σ) (s : σ) : Call → Option ClientError
  | .login username password => reported (c.login send username password s).1
  | .logout => reported (c.logout send s).1
  | .listBranches => reported (c.listBranches send s).1
  | .createItem r => reported (c.createItem send r s).1
  | .listItems branch kind => reported (c.listItems send branch kind s).1
  | .createConsumable r => reported (c.createConsumable send r s).1
  | .updateConsumable id r => reported (c.updateConsumable send id r s).1
  | .listConsumables branch state search => reported (c.listConsumables send branch state search s).1

end Call

section
variable {σ : Type} {c : Client} {send : Transport σ} {s : σ} {method : String} {path : Text}
  {o : Outgoing} {answer : Incoming}

theorem signedIn_of_sent {body : Except ClientFault (Option Json)}
    (h : c.sent true method path body = some o) : c.token.isEmpty = false := by
  unfold sent at h
  split at h
  · cases h
  · next htoken => simpa using htoken

theorem body_of_sent {signedIn : Bool} {body : Except ClientFault (Option Json)}
    (h : c.sent signedIn method path body = some o) : body = .ok o.body ∧
      ∃ address, WebAddress.parse (c.base ++ path) = .ok address ∧
        o = ⟨Text.ofString method, address, c.authorization address, o.body⟩ := by
  unfold sent at h
  split at h
  · cases h
  split at h
  · next address haddress =>
    cases h
    exact ⟨rfl, address, haddress, rfl⟩
  · cases h

variable (hsend : (send o s).1 = .ok answer)
  (hstatus : ¬ (200 ≤ answer.status ∧ answer.status ≤ 299))
include hsend hstatus

theorem exchange_refused {signedIn : Bool} {body : Except ClientFault (Option Json)}
    (h : c.sent signedIn method path body = some o) :
    (c.exchange send method path o.body s).1 =
      .error (.status answer.status (errorText answer.body)) := by
  obtain ⟨-, address, haddress, ho⟩ := body_of_sent h
  rw [exchange, haddress]
  dsimp only
  rw [← ho]
  split
  · next reason after hresult =>
    rw [hresult] at hsend
    cases hsend
  · next received after hresult =>
    rw [hresult] at hsend
    cases hsend
    rw [if_neg hstatus]

theorem ask_refused {α : Type} {decode : Decoder α} {activity : Text}
    {body : Except ClientFault (Option Json)} (h : c.sent true method path body = some o) :
    reported (c.ask send activity method path body decode s).1 =
      some (.failed activity (.status answer.status (errorText answer.body))) := by
  obtain ⟨rfl, -⟩ := body_of_sent h
  have hrefused := exchange_refused hsend hstatus h
  rw [ask, if_neg (by simp [signedIn_of_sent h])]
  dsimp only
  rw [hrefused]
  rfl

/-- Whatever a client is asked for, it reports the status and the text of an answer that is no
success. -/
theorem failure_of_answer {call : Call} (h : call.outgoing c = some o) :
    call.failure c send s =
      some (.failed call.activity (.status answer.status (errorText answer.body))) := by
  cases call with
  | login username password =>
    have hbody := Except.ok.inj (body_of_sent h).1
    have hrefused := exchange_refused hsend hstatus h
    rw [← hbody] at hrefused
    show reported (c.login send username password s).1 = _
    rw [login]
    dsimp only
    rw [hrefused]
    rfl
  | logout =>
    have hbody := Except.ok.inj (body_of_sent h).1
    have hrefused := exchange_refused hsend hstatus h
    rw [← hbody] at hrefused
    show reported (c.logout send s).1 = _
    rw [logout, if_neg (by simp [signedIn_of_sent h])]
    split
    · next hresult =>
      rw [hresult] at hrefused
      cases hrefused
    · next hresult =>
      rw [hresult] at hrefused
      cases hrefused
      rfl
  | listBranches => exact ask_refused hsend hstatus h
  | createItem r => exact ask_refused hsend hstatus h
  | listItems branch kind => exact ask_refused hsend hstatus h
  | createConsumable r => exact ask_refused hsend hstatus h
  | updateConsumable id r => exact ask_refused hsend hstatus h
  | listConsumables branch state search => exact ask_refused hsend hstatus h

end

/-- A failure reaches the client with its status and its reason, whatever it is that the client was
asked for, if the written reason is no longer than what is read of an error. Of a longer one the client
reports what it has read of it, as it was written. -/
theorem failure_told {σ : Type} (call : Call) (c : Client) (send : Transport σ) (s : σ) (o : Outgoing)
    (status : Nat) (message : Text) (hout : call.outgoing c = some o)
    (hsend : (send o s).1 = .ok ⟨status, (Api.Response.failure status message).bytes⟩)
    (hstatus : ¬ (200 ≤ status ∧ status ≤ 299)) (hmessage : message.wellFormed = true)
    (hne : message ≠ []) :
    call.failure c send s = some (.failed call.activity (.status status
      (if (failureText message).bytes.length ≤ errorLimit then message
        else (Text.ofBytes ((failureText message).bytes.take errorLimit)).trim))) := by
  rw [failure_of_answer hsend hstatus hout]
  split
  · next hfits => rw [errorText_failure status hmessage hne hfits]
  · next hlong => rw [errorText_cut status (Nat.lt_of_not_le hlong)]

/-! ## A reason that fits, and one that does not -/

def clientOfServer : Client := { base := "http://server", token := "t" }

def listingBranches : Outgoing :=
  { method := "GET", address := { scheme := "http", host := "server", path := "/api/branches" }
    authorization := "Bearer t" }

theorem listingBranches_sent : Call.listBranches.outgoing clientOfServer = some listingBranches := by
  have haddress : WebAddress.parse (clientOfServer.base ++ Text.ofString "/api/branches") =
      .ok listingBranches.address := toOption_eq_some.mp (by decide +kernel)
  simp only [Call.outgoing, sent, haddress]
  rfl

/-- A server that answers everything with one failure. -/
def failing (status : Nat) (message : Text) : Transport Unit := fun _ s =>
  (.ok ⟨status, (Api.Response.failure status message).bytes⟩, s)

def markedReason : Text := "no access to branch <\"É\">\n"

/-- Quotes, markup, a line end and a letter of two bytes come through. -/
theorem markedReason_told :
    Call.listBranches.failure clientOfServer (failing 403 markedReason) () =
      some (.failed "listing branches" (.status 403 markedReason)) := by
  have htold := failure_told .listBranches clientOfServer (failing 403 markedReason) ()
    listingBranches 403 markedReason listingBranches_sent rfl (by decide) (by decide) (by decide)
  rwa [if_pos (by decide +kernel)] at htold

/-- The client reads 4096 bytes, and the reason alone has as many. -/
theorem longReason_lost :
    let reason : Text := List.replicate 4096 (.char 'a')
    reason.wellFormed = true ∧ reason ≠ [] ∧
      Call.listBranches.outgoing clientOfServer = some listingBranches ∧
      (failing 400 reason listingBranches ()).1 =
        .ok ⟨400, (Api.Response.failure 400 reason).bytes⟩ ∧
      Call.listBranches.failure clientOfServer (failing 400 reason) () ≠
        some (.failed "listing branches" (.status 400 reason)) := by
  intro reason
  have hlong : errorLimit < (failureText reason).bytes.length := by
    have hlength : reason.length = errorLimit := List.length_replicate
    rw [← hlength]
    exact length_lt_failureText reason
  have hwellFormed : reason.wellFormed = true := by
    rw [Text.wellFormed, List.all_replicate]
    rfl
  refine ⟨hwellFormed, List.cons_ne_nil _ _, listingBranches_sent, rfl, fun htold => ?_⟩
  have hsend : (failing 400 reason listingBranches ()).1 =
      .ok ⟨400, (Api.Response.failure 400 reason).bytes⟩ := rfl
  rw [failure_of_answer hsend (by decide) listingBranches_sent] at htold
  simp only [Option.some.injEq, ClientError.failed.injEq, ClientFault.status.injEq] at htold
  have hhead := errorText_cut_head? 400 hlong
  rw [htold.2.2] at hhead
  have hfirst : reason.head? = some (.char 'a') := rfl
  rw [hfirst] at hhead
  exact absurd hhead (by decide)

end Client
end Stockroom

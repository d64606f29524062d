import Stockroom.Proofs.Codec.Base64
import Stockroom.Proofs.Json.Record
import Stockroom.Proofs.Outcome
import Stockroom.Proofs.Text.Cut
import Stockroom.Token.Claims

/-!
What a token says. The claims of a token are those it was signed with, up to stray bytes in texts:
its parts are taken apart at the dots, decoded and read back. Whether a token is accepted depends on
the secret and the time, what it says does not.

Main definitions and statements:
* `Token.content?`: the claims of a token, whoever signed it;
* `Token.validate_eq_ok`: an accepted token says its claims and is without fault;
* `Token.content?_sign`: a token says what it was signed with;
* `Token.validate_sign`: whoever has the secret judges a token by the faults of its claims alone.
-/
namespace Stockroom
set_option autoImplicit false

namespace Token

/-! ## Parts -/

theorem dot_not_mem_encode (bs : List UInt8) :
    Glyph.char '.' ∉ Text.ofChars (Base64.encode Base64.urlSafe bs) := by
  have hchar : ∀ n < 64, Base64.urlSafe.char n ≠ '.' := by decide
  intro hmem
  obtain ⟨c, hc, heq⟩ := List.mem_map.mp hmem
  rw [Base64.encode_eq_sextets] at hc
  obtain ⟨n, hn, rfl⟩ := List.mem_map.mp hc
  exact hchar n (Base64.sextets_lt bs n hn) (Glyph.char.inj heq)

theorem dot_not_mem_encodePart (v : Json) : Glyph.char '.' ∉ encodePart v := dot_not_mem_encode _

theorem decodePart_encode (bs : List UInt8) :
    decodePart (Text.ofChars (Base64.encode Base64.urlSafe bs)) = some bs := by
  rw [decodePart, Text.toChars_ofChars, Base64.decode_encode]

theorem claimsOf_encodePart (v : Json) (hv : v.Whole) (hheight : v.height ≤ Json.maxDepth) :
    claimsOf (encodePart v) = (Json.decodeRecord Claims.fields {} v.legible).toOption := by
  have hread : Text.ofBytes (Text.ofChars v.render).bytes = Text.ofChars v.render :=
    Text.ofBytes_bytes (Text.wellFormed_ofChars _)
  rw [claimsOf, encodePart, decodePart_encode, Option.bind_eq_bind, Option.bind_some, hread,
    Text.toChars_ofChars, Json.decodeText_render hv hheight]

/-- The parts of a token. -/
theorem splitOn_sign (secret : Text) (c : Claims) :
    Text.splitOn (.char '.') (sign secret c) =
      [encodePart header, encodePart c.toJson, Text.ofChars (Base64.encode Base64.urlSafe
        (signature secret (encodePart header ++ [.char '.'] ++ encodePart c.toJson)))] := by
  have hsign : sign secret c = encodePart header ++ .char '.' :: (encodePart c.toJson ++
      .char '.' :: Text.ofChars (Base64.encode Base64.urlSafe
        (signature secret (encodePart header ++ [.char '.'] ++ encodePart c.toJson)))) := by
    simp only [sign, List.append_assoc, List.cons_append, List.nil_append]
  rw [hsign, Text.splitOn_append (dot_not_mem_encodePart _),
    Text.splitOn_append (dot_not_mem_encodePart _),
    Text.splitOn_of_not_mem (dot_not_mem_encode _)]

theorem methodOf_header : methodOf (encodePart header) = some signingMethod := by decide +kernel

/-! ## What a token says -/

/-- The claims of a token, whoever signed it. -/
def content? (token : Text) : Option Claims :=
  match Text.splitOn (.char '.') token with
  | [_, claimsPart, _] => claimsOf claimsPart
  | _ => none

/-- When a token expires, in seconds since the start of 1970. -/
def expiry? (token : Text) : Option Int := (content? token).bind (·.expiry)

section
variable {secret token : Text} {now : Instant} {claims : Claims}

theorem validate_eq_ok (h : validate secret now token = .ok claims) :
    content? token = some claims ∧ fault claims now = none := by
  unfold validate at h
  split at h
  · next headerPart claimsPart signaturePart hparts =>
    split at h
    · next method c hmethod hclaims =>
      split at h
      · cases h
      split at h
      · cases h
      split at h
      · cases h
      split at h
      · cases h
      split at h
      · cases h
      · next hfault =>
        cases h
        exact ⟨by rw [content?, hparts]; exact hclaims, hfault⟩
    · cases h
  · cases h

theorem fault_eq_none (h : fault claims now = none) :
    ∃ t, claims.expiry = some t ∧ now.isBefore (pointOf t) = true := by
  unfold fault at h
  split at h
  · cases h
  · next hpresent =>
    split at h
    · cases h
    · next hexpiry =>
      cases ht : claims.expiry with
      | none => simp [ht] at hpresent
      | some t => exact ⟨t, rfl, by simpa [ht] using hexpiry⟩

theorem content?_sign (c : Claims) : content? (sign secret c) = claimsOf (encodePart c.toJson) := by
  rw [content?, splitOn_sign]

/-- Whoever has the secret judges a token by the faults of its claims alone. -/
theorem validate_sign {c : Claims} (hcontent : claimsOf (encodePart c.toJson) = some claims) :
    validate secret now (sign secret c) = (fault claims now).elim (.ok claims) .error := by
  have hknown : (knownMethods.all fun m => signingMethod ≠ Text.ofString m) = false := by decide
  rw [validate, splitOn_sign]
  simp only [methodOf_header, hcontent, hknown, Bool.false_eq_true, if_false, ne_eq,
    not_true_eq_false, decodePart_encode]
  cases fault claims now <;> rfl

end

/-! ## Tokens of accounts -/

section
variable {a : Account} {id : Text} {now : Int}

/-- The members of the claims of an account. -/
theorem toJson_ofAccount : (Claims.ofAccount a id now).toJson =
    .object (Json.member "user_id" (.int a.id) :: Json.member "username" (.string a.username) ::
      Json.member "role" (.string a.role) :: (Json.memberUnlessEmpty "branch" a.branch ++
        (Json.memberUnlessEmpty "iss" tokenIssuer ++ (Json.memberUnlessEmpty "sub" a.username ++
          (Json.member "exp" (.int (now + tokenLifetime)) :: Json.member "iat" (.int now) ::
            (Json.memberUnlessEmpty "jti" id ++ [])))))) := by
  simp [Claims.toJson, Claims.ofAccount, Claims.secondsMember]

theorem flat_ofAccount : ∃ members, (Claims.ofAccount a id now).toJson = .object members ∧
    Json.Flat members :=
  ⟨_, toJson_ofAccount, Json.flat_int _ _ (Json.flat_text _ _ (Json.flat_text _ _
    (Json.flat_optional _ _ (Json.flat_optional _ _ (Json.flat_optional _ _ (Json.flat_int _ _
      (Json.flat_int _ _ (Json.flat_optional _ _ Json.flat_nil))))))))⟩

theorem claimsFields_distinct : Json.Distinct Claims.fields := by decide +kernel

theorem decode_seconds {key : String} {set : Claims → Option Int → Claims} {spoilt : Bool}
    {r : Claims} {rest : List (Text × List Char × Json)} {n t : Int} (i : Nat)
    (h : Claims.fields[i]? = some (Claims.secondsField key set))
    (hread : Claims.readSeconds (Text.ofInt n).toChars = some t) :
    Json.decodeMembers Claims.fields spoilt r
        (Json.legibleMembers (Json.member key (.int n) :: rest)) =
      Json.decodeMembers Claims.fields spoilt (set r (some t)) (Json.legibleMembers rest) := by
  have hdone : (Claims.secondsField key set).read r (Json.int n).render (Json.int n).legible =
      .done (set r (some t)) := by
    simp only [Claims.secondsField, Json.int, Json.legible, hread]
  exact Json.decode_member claimsFields_distinct i h rfl hdone

/-- The claims of an account as they are read back. -/
def readBack (a : Account) (id : Text) (expiry issuedAt : Int) : Claims :=
  { userId := a.id, username := a.username.mended, role := a.role.mended
    branch := a.branch.mended, issuer := tokenIssuer, subject := a.username.mended
    id := id.mended, expiry := some expiry, issuedAt := some issuedAt }

theorem claimsOf_ofAccount (expiry issuedAt : Int) (hid : fitsInt64 a.id = true)
    (hexpiry : Claims.readSeconds (Text.ofInt (now + tokenLifetime)).toChars = some expiry)
    (hissued : Claims.readSeconds (Text.ofInt now).toChars = some issuedAt) :
    claimsOf (encodePart (Claims.ofAccount a id now).toJson) =
      some (readBack a id expiry issuedAt) := by
  obtain ⟨members, hmembers, hflat⟩ := @flat_ofAccount a id now
  have hheight : (Json.object members).height ≤ Json.maxDepth :=
    Nat.le_trans hflat.height_le (by decide)
  have hdistinct := claimsFields_distinct
  rw [claimsOf_encodePart _ (hmembers ▸ hflat.whole) (hmembers ▸ hheight), toJson_ofAccount,
    Json.legible, Json.decodeRecord, Json.decode_int hdistinct 0 rfl hid,
    Json.decode_text hdistinct 1 rfl, Json.decode_text hdistinct 2 rfl,
    Json.decode_optional hdistinct 3 rfl rfl, Json.decode_optional hdistinct 4 rfl rfl,
    Json.decode_optional hdistinct 5 rfl rfl, decode_seconds 7 rfl hexpiry,
    decode_seconds 9 rfl hissued, Json.decode_optional hdistinct 10 rfl rfl]
  rfl

theorem readSeconds_of_decode {key : String} {set : Claims → Option Int → Claims} {spoilt : Bool}
    {r r' : Claims} {rest : List (Text × List Char × Json)} {n : Int} (i : Nat)
    (hfield : Claims.fields[i]? = some (Claims.secondsField key set))
    (h : Json.decodeMembers Claims.fields spoilt r
      (Json.legibleMembers (Json.member key (.int n) :: rest)) = .ok r') :
    ∃ t, Claims.readSeconds (Text.ofInt n).toChars = some t := by
  cases hread : Claims.readSeconds (Text.ofInt n).toChars with
  | some t => exact ⟨t, rfl⟩
  | none =>
    have hfound : Claims.fields.find? (Json.sameKey ·.name (Text.ofString key)) =
        some (Claims.secondsField key set) := Json.find?_field claimsFields_distinct hfield rfl
    rw [Json.member, Json.legibleMembers, Text.mended_ofString, Json.decodeMembers, hfound] at h
    simp only [Claims.secondsField, Json.int, Json.legible, hread] at h
    cases h

/-- Whatever is read from the token of an account, it says what the account was. -/
theorem eq_readBack_of_claimsOf {c : Claims}
    (h : claimsOf (encodePart (Claims.ofAccount a id now).toJson) = some c) :
    ∃ expiry issuedAt, c = readBack a id expiry issuedAt := by
  obtain ⟨members, hmembers, hflat⟩ := @flat_ofAccount a id now
  have hheight : (Json.object members).height ≤ Json.maxDepth :=
    Nat.le_trans hflat.height_le (by decide)
  have hdistinct := claimsFields_distinct
  have hread := h
  rw [claimsOf_encodePart _ (hmembers ▸ hflat.whole) (hmembers ▸ hheight), toOption_eq_some,
    toJson_ofAccount, Json.legible, Json.decodeRecord] at hread
  have hid := Json.fits_of_decode hdistinct 0 rfl hread
  rw [Json.decode_int hdistinct 0 rfl hid, Json.decode_text hdistinct 1 rfl,
    Json.decode_text hdistinct 2 rfl, Json.decode_optional hdistinct 3 rfl rfl,
    Json.decode_optional hdistinct 4 rfl rfl, Json.decode_optional hdistinct 5 rfl rfl] at hread
  obtain ⟨expiry, hexpiry⟩ := readSeconds_of_decode 7 rfl hread
  rw [decode_seconds 7 rfl hexpiry] at hread
  obtain ⟨issuedAt, hissued⟩ := readSeconds_of_decode 9 rfl hread
  rw [claimsOf_ofAccount expiry issuedAt hid hexpiry hissued] at h
  exact ⟨expiry, issuedAt, (Option.some.inj h).symm⟩

end

end Token
end Stockroom

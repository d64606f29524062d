import Stockroom.Json.Reader

/-!
Reading records from JSON objects. Keys match a field whatever their case, members that name no
field are passed over, a null leaves its field alone and a later member replaces an earlier one. A
value of the wrong type does not stop the reading but spoils the result; a field with a reader of
its own stops it at once with its own error.

Main definitions:
* `Json.sameKey`: equality of keys up to case;
* `Json.Step`, `Json.Field`: what a member does to a record;
* `Json.decodeMembers`, `Json.decodeRecord`.
-/
namespace Stockroom
set_option autoImplicit false

namespace Json

/-! ## Keys -/

/-- A character of a key with its case removed: Unicode joins the long s and the Kelvin sign to the
ASCII letters. -/
def keyChar (c : Char) : Char :=
  if c.toNat == 0x17F then 's' else if c.toNat == 0x212A then 'k' else c.toLower

/-- Whether a key names a field, whatever its case. -/
def sameKey (name : String) (key : Text) : Bool :=
  key.toChars.map keyChar == name.toList.map keyChar

/-! ## Members -/

/-- What a member does to a record: it replaces it, it has the wrong type, or it stops the reading. -/
inductive Step (ε ρ : Type) where
  | done (r : ρ)
  | mismatch
  | stop (e : ε)

/-- A field: its key, and what a value and its source do to the record. -/
structure Field (ε ρ : Type) where
  name : String
  read : ρ → List Char → Json → Step ε ρ

/-- A failed reading: the text or a type is wrong, or a field refused its value. -/
inductive DecodeError (ε : Type) where
  | shape
  | refused (e : ε)
  deriving Repr, DecidableEq

/-- Applies members in order. `spoilt` records whether a type was wrong so far. -/
def decodeMembers {ε ρ : Type} (fields : List (Field ε ρ)) (spoilt : Bool) (r : ρ) :
    List (Text × List Char × Json) → Except (DecodeError ε) ρ
  | [] => if spoilt then .error .shape else .ok r
  | (key, source, v) :: rest =>
    match fields.find? (sameKey ·.name key) with
    | none => decodeMembers fields spoilt r rest
    | some field =>
      match field.read r source v with
      | .done r => decodeMembers fields spoilt r rest
      | .mismatch => decodeMembers fields true r rest
      | .stop e => .error (.refused e)

/-- A record from a value: a null leaves it as it is, anything but an object is of the wrong type. -/
def decodeRecord {ε ρ : Type} (fields : List (Field ε ρ)) (r : ρ) :
    Json → Except (DecodeError ε) ρ
  | .null => .ok r
  | .object members => decodeMembers fields false r members
  | _ => .error .shape

/-- A record from the one value of a text. -/
def decodeText {ε ρ : Type} (fields : List (Field ε ρ)) (r : ρ) (cs : List Char) :
    Except (DecodeError ε) ρ :=
  match read cs with
  | some v => decodeRecord fields r v
  | none => .error .shape

/-- A record from the first value of a text; what follows it is not looked at. -/
def decodeFirst {ε ρ : Type} (fields : List (Field ε ρ)) (r : ρ) (cs : List Char) :
    Except (DecodeError ε) ρ :=
  match readFirst cs with
  | some (v, _) => decodeRecord fields r v
  | none => .error .shape

/-! ## Fields of common types -/

/-- A text field. -/
def textField {ε ρ : Type} (name : String) (set : ρ → Text → ρ) : Field ε ρ where
  name := name
  read r _ v := match v with
    | .null => .done r
    | .string s => .done (set r s)
    | _ => .mismatch

/-- An integer field of sixty-four bits: fractions and exponents are of the wrong type. -/
def intField {ε ρ : Type} (name : String) (set : ρ → Int → ρ) : Field ε ρ where
  name := name
  read r _ v := match v with
    | .null => .done r
    | .number literal => match readInt64 literal with
      | some i => .done (set r i)
      | none => .mismatch
    | _ => .mismatch

end Json
end Stockroom

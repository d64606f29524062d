import Stockroom.Json.Reader

/-!
Stock counts that may not apply. On the wire and in storage a count that does not apply is written
as minus one; in memory it is a case of its own.

Main definitions:
* `Quantity`: a count, or none that applies;
* `Quantity.encode`, `Quantity.decode`: the written integer;
* `Quantity.parse`, `Quantity.ofJson`, `Quantity.ofColumn`: readers of text, JSON and columns;
* `Quantity.readInto`, `Quantity.scanInto`: readers into a quantity that is there;
* `QuantityError.message`.
-/
namespace Stockroom
set_option autoImplicit false

/-- A stock count, or the absence of one. -/
inductive Quantity where
  | notApplicable
  | counted (n : Int)
  deriving DecidableEq, Repr, Inhabited

/-- Why a quantity cannot be read or written. -/
inductive QuantityError where
  /-- Neither minus one nor a count. -/
  | outOfRange (v : Int)
  /-- A text that is no integer. -/
  | notANumber (text : Text)
  /-- A JSON value that is no integer, with its source. -/
  | notAnInteger (source : Text)
  /-- A column of the wrong type. -/
  | columnType (name : Text)
  deriving DecidableEq, Repr

def QuantityError.message : QuantityError → Text
  | .outOfRange v => "invalid quantity: " ++ Text.ofInt v
  | .notANumber text => "invalid quantity: " ++ text.quoted
  | .notAnInteger source => "invalid quantity: " ++ source
  | .columnType name => "invalid quantity: unsupported column type " ++ name

namespace Quantity

/-- The written form of a quantity that does not apply. -/
def sentinel : Int := -1

/-- The written integer. -/
def encode : Quantity → Int
  | .notApplicable => sentinel
  | .counted n => n

/-- The quantity an integer stands for. -/
def decode (v : Int) : Except QuantityError Quantity :=
  if v = sentinel then .ok .notApplicable
  else if 0 ≤ v then .ok (.counted v)
  else .error (.outOfRange v)

/-- The quantity a decimal text stands for. -/
def parse (t : Text) : Except QuantityError Quantity :=
  match readInt64 t.toChars with
  | some v => decode v
  | none => .error (.notANumber t)

/-- The count, when one applies. -/
def count? : Quantity → Option Int
  | .notApplicable => none
  | .counted n => some n

def isApplicable (q : Quantity) : Bool := q.count?.isSome

/-- The count, or another number when none applies. -/
def getD (q : Quantity) (fallback : Int) : Int := q.count?.getD fallback

/-- The count, zero when none applies, as a quantity that applies. -/
def kept (q : Quantity) : Quantity := .counted (q.getD 0)

/-- Refuses a count below zero. -/
def check : Quantity → Except QuantityError Unit
  | .notApplicable => .ok ()
  | .counted n => if n < 0 then .error (.outOfRange n) else .ok ()

/-- The integer to be written; a count below zero cannot be written. -/
def written (q : Quantity) : Except QuantityError Int := do
  q.check
  return q.encode

/-- How a quantity is shown. -/
def shown : Quantity → Text
  | .notApplicable => "n/a"
  | .counted n => Text.ofInt n

/-- The integer a JSON text stands for: an integer literal, or a null, which stands for zero. -/
def integerOf (source : List Char) : Option Int :=
  match Json.read source with
  | some (.number literal) => readInt64 literal
  | some .null => some 0
  | _ => none

/-- What a JSON text makes of a quantity: the bare word `null` leaves it as it is. -/
def ofJson (current : Quantity) (source : List Char) : Except QuantityError Quantity :=
  if source = ['n', 'u', 'l', 'l'] then .ok current
  else match integerOf source with
    | some v => decode v
    | none => .error (.notAnInteger (Text.ofChars source))

/-- A value of a database column. -/
inductive Column where
  | null
  | integer (v : Int)
  | other (typeName : Text)

/-- The quantity a column holds. -/
def ofColumn : Column → Except QuantityError Quantity
  | .null => .ok .notApplicable
  | .integer v => decode v
  | .other typeName => .error (.columnType typeName)

/-! ## Reading in place -/

/-- Puts what an integer means in place of the quantity at hand. -/
def assign (v : Int) : ExceptT QuantityError (StateM Quantity) Unit :=
  match decode v with
  | .ok q => set q
  | .error e => throw e

/-- Reads a JSON text into the quantity at hand. -/
def readInto (source : List Char) : ExceptT QuantityError (StateM Quantity) Unit := do
  if source = ['n', 'u', 'l', 'l'] then return
  match integerOf source with
  | some v => assign v
  | none => throw (.notAnInteger (Text.ofChars source))

/-- Reads a column into the quantity at hand. -/
def scanInto : Column → ExceptT QuantityError (StateM Quantity) Unit
  | .null => set notApplicable
  | .integer v => assign v
  | .other typeName => throw (.columnType typeName)

/-- Whether reading into a quantity succeeds, and the quantity afterwards. -/
def update (target : Quantity) (reading : ExceptT QuantityError (StateM Quantity) Unit) :
    Except QuantityError Unit × Quantity := reading.run.run target

end Quantity
end Stockroom

import Stockroom.Calendar.Instant
import Stockroom.Net.MailAddress
import Stockroom.Text.Blank

/-!
Messages left on the login page by people who lost their password. An administrator reads them and
resets the password by hand.

Main definitions: `ResetRequest`, `ResetRequest.trimmed`, `ResetRequest.validate`.
-/
namespace Stockroom
set_option autoImplicit false

/-- The longest name and the shortest message, in characters. -/
def maxRequestName : Nat := 255
def leastMessageLength : Nat := 10

/-- A request for a new password. -/
structure ResetRequest where
  id : Int := 0
  name : Text := []
  email : Text := []
  message : Text := []
  createdAt : Instant := .unset
  deriving DecidableEq, Repr

instance : Inhabited ResetRequest := ⟨{}⟩

/-- Why a request is refused. -/
inductive ResetRequestError where
  | nameMissing
  | nameTooLong
  | badEmail
  | messageTooShort
  deriving DecidableEq, Repr

def ResetRequestError.message : ResetRequestError → Text
  | .nameMissing => "name required"
  | .nameTooLong => "name too long"
  | .badEmail => "invalid email"
  | .messageTooShort => "message must be at least " ++ Text.ofNat leastMessageLength ++ " characters"

namespace ResetRequest

/-- The request without space around its texts. -/
def trimmed (r : ResetRequest) : ResetRequest :=
  { r with name := r.name.trim, email := r.email.trim, message := r.message.trim }

/-- The rules of a trimmed request, in the order in which they are checked. -/
def validate (r : ResetRequest) : Except ResetRequestError Unit :=
  if r.name.isEmpty then .error .nameMissing
  else if r.name.length > maxRequestName then .error .nameTooLong
  else if !isMailAddress r.email then .error .badEmail
  else if r.message.length < leastMessageLength then .error .messageTooShort
  else .ok ()

end ResetRequest
end Stockroom

import Stockroom.Calendar.Instant
import Stockroom.Codec.Bcrypt

/-!
Accounts and what they may do. An administrator may see and change everything; a branch manager
manages the inventory of one branch.

Main definitions:
* `Role`, `roleReaches`, `mayAccessBranch`;
* `PasswordHash.ofPassword`, `PasswordHash.fits`: what is stored of a password;
* `Account`.
-/
namespace Stockroom
set_option autoImplicit false

/-- What an account is allowed to do. -/
inductive Role where
  | manager
  | admin
  deriving DecidableEq, Repr

namespace Role

def tag : Role → Text
  | .admin => "admin"
  | .manager => "responsable"

def ofTag (t : Text) : Option Role :=
  if t = admin.tag then some .admin else if t = manager.tag then some .manager else none

/-- How much a role is allowed to do; an unknown role nothing. -/
def level (t : Text) : Nat :=
  match ofTag t with
  | some .admin => 2
  | some .manager => 1
  | none => 0

end Role

/-- Whether a role is at least as powerful as a known one. -/
def roleReaches (role minimum : Text) : Bool :=
  0 < Role.level minimum && Role.level minimum ≤ Role.level role

/-- Whether someone with a role and a home branch may see or change records of a branch. -/
def mayAccessBranch (role home branch : Text) : Bool :=
  role == Role.admin.tag || (role == Role.manager.tag && !home.isEmpty && home == branch)

/-- The shortest password, in bytes. -/
def leastPasswordLength : Nat := 8

/-- Whether a password is long enough. -/
def isStrongPassword (password : Text) : Bool := leastPasswordLength ≤ password.bytes.length

/-- What is said of a password that is too short. -/
def weakPasswordMessage : Text := "password must be at least 8 characters"

/-! ## Stored passwords

The hash of a password depends on seventy-two bytes: the password and a zero byte, repeated as often
as needed. A password with more bytes than that is not hashed at all, but may still be compared. -/

/-- What is stored of a password: a hash that was made here, of which only the key matters, or a text
from elsewhere. -/
inductive PasswordHash where
  | ofKey (key : List UInt8)
  | foreign (text : Text)
  deriving DecidableEq, Repr

instance : Inhabited PasswordHash := ⟨.foreign []⟩

namespace PasswordHash

/-- The hash of a password; none when the password is too long. -/
def ofPassword (password : List UInt8) : Option PasswordHash :=
  if password.length > Bcrypt.keyLength then none else some (.ofKey (Bcrypt.keyOf password))

/-- Whether a password has the given hash. -/
def fits (hash : PasswordHash) (password : List UInt8) : Bool :=
  match hash with
  | .ofKey key => key == Bcrypt.keyOf password
  | .foreign text => Bcrypt.verify text.bytes password

/-- What is said of a password that cannot be hashed. -/
def tooLongMessage : Text := "hashing password: bcrypt: password length exceeds 72 bytes"

end PasswordHash

/-- The characters of generated passwords. -/
def passwordCharset : List Char :=
  "abcdefghijkmnopqrstuvwxyzABCDEFGHJKLMNPQRSTUVWXYZ23456789!@#$%&*".toList

/-- A password made of the given choices. -/
def generatedPassword (choices : List Nat) : Text :=
  choices.map fun n => .char (passwordCharset.getD (n % passwordCharset.length) 'a')

/-! ## Accounts -/

/-- An account. It is kept after its deletion, which then has a time. -/
structure Account where
  id : Int := 0
  username : Text := []
  passwordHash : PasswordHash := default
  role : Text := []
  branch : Text := []
  createdAt : Instant := .unset
  deletedAt : Option Instant := none
  deriving DecidableEq, Repr

instance : Inhabited Account := ⟨{}⟩

/-- Whether the account has not been deleted. -/
def Account.isActive (a : Account) : Bool := a.deletedAt.isNone

end Stockroom

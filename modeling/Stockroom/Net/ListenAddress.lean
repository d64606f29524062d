import Stockroom.Net.IpAddress

/-!
Where a server can listen: a host and a port, with a colon between them. The port is a number or the
name of a service; the host is an address or a name of this machine, or is left out.

Main definitions:
* `ListenAddress`, `ListenFault`;
* `ListenAddress.split`: host and port of a text;
* `portOfText`: the number of a port;
* `ListenAddress.fault`: why nothing can listen at a text.
-/
namespace Stockroom
set_option autoImplicit false

/-- A host and a port as they are written. -/
structure ListenAddress where
  host : Text
  port : Text
  deriving DecidableEq, Repr

/-- Why nothing can listen at a text. -/
inductive ListenFault where
  | missingPort (address : Text)
  | tooManyColons (address : Text)
  | missingBracket (address : Text)
  | strayBracket (bracket : Char) (address : Text)
  | invalidPort (port : Text)
  | unknownPort (port : Text)
  | unknownHost (host : Text)
  /-- An address of another machine. -/
  | foreign (host : Text) (port : Nat)
  deriving DecidableEq, Repr

def ListenFault.message : ListenFault → Text
  | .missingPort address => "listen tcp: address " ++ address ++ ": missing port in address"
  | .tooManyColons address => "listen tcp: address " ++ address ++ ": too many colons in address"
  | .missingBracket address => "listen tcp: address " ++ address ++ ": missing ']' in address"
  | .strayBracket bracket address =>
    Text.ofString "listen tcp: address " ++ address ++ ": unexpected '" ++
      Text.ofChars [bracket] ++ Text.ofString "' in address"
  | .invalidPort port => "listen tcp: address " ++ port ++ ": invalid port"
  | .unknownPort port => "listen tcp: lookup tcp/" ++ port ++ ": unknown port"
  | .unknownHost host => "listen tcp: lookup " ++ host ++ ": no such host"
  | .foreign host port =>
    let shown : Text := if host.contains (.char ':') then "[" ++ host ++ "]" else host
    "listen tcp " ++ shown ++ ":" ++ Text.ofNat port ++ ": bind: cannot assign requested address"

/-! ## Splitting -/

/-- Splits an address into a host, perhaps in brackets, and a port. -/
def ListenAddress.split (address : Text) : Except ListenFault ListenAddress :=
  let noBrackets (e : ListenAddress) (outside : Text) : Except ListenFault ListenAddress :=
    if e.host.contains (.char '[') || e.port.contains (.char '[') then
      .error (.strayBracket '[' address)
    else if outside.contains (.char ']') then .error (.strayBracket ']' address)
    else .ok e
  if !address.contains (.char ':') then .error (.missingPort address)
  else match address with
    | .char '[' :: inner =>
      match Text.cut (.char ']') inner with
      | none => .error (.missingBracket address)
      | some (host, .char ':' :: port) =>
        if port.contains (.char ':') then .error (.tooManyColons address)
        else noBrackets ⟨host, port⟩ port
      | some _ => .error (.missingPort address)
    | _ =>
      match Text.cut (.char ':') address with
      | some (host, port) =>
        if port.contains (.char ':') then .error (.tooManyColons address)
        else noBrackets ⟨host, port⟩ (host ++ port)
      | none => .error (.missingPort address)

/-! ## Ports -/

/-- The services that have a port of their own. -/
def knownServices : List (String × Nat) :=
  [("domain", 53), ("ftp", 21), ("ftps", 990), ("gopher", 70), ("http", 80), ("https", 443),
    ("imap2", 143), ("imap3", 220), ("imaps", 993), ("pop3", 110), ("pop3s", 995), ("smtp", 25),
    ("submissions", 465), ("ssh", 22), ("telnet", 23)]

/-- The largest port. -/
def maxPort : Nat := 65535

/-- The value of digits, after what was read so far. It is kept in thirty-two bits: from two to the
thirtieth on no more digits are read, and a product beyond goes round. -/
def portDigits (sofar : Nat) : List Char → Option Nat
  | [] => some sofar
  | c :: rest =>
    match digitValue c with
    | none => none
    | some d =>
      let next := sofar * 10 % Nat.pow 2 32 + d
      if Nat.pow 2 30 ≤ sofar || Nat.pow 2 32 ≤ next then some (Nat.pow 2 32 - 1)
      else portDigits next rest

/-- The number of a port, which may have a sign. -/
def portNumber : List Char → Option Int
  | '-' :: cs => (portDigits 0 cs).map fun n => -(n : Int)
  | '+' :: cs => (portDigits 0 cs).map fun n => (n : Int)
  | cs => (portDigits 0 cs).map fun n => (n : Int)

/-- The port that a number or the name of a service gives; without either it is zero. -/
def portOfText (port : Text) : Except ListenFault Nat :=
  match portNumber port.toChars with
  | some n => if 0 ≤ n ∧ n ≤ maxPort then .ok n.toNat else .error (.invalidPort port)
  | none =>
    match knownServices.lookup (String.ofList (port.toChars.map Char.toLower)) with
    | some n => .ok n
    | none => .error (.unknownPort port)

/-! ## Hosts -/

/-- Whether an address is one of this machine's own: the address of no host, or one of those that lead
back to the machine. -/
def isOwnAddress : IpAddress → Bool
  | .four groups => isOwnPair groups
  | .six groups _ =>
    if isMappedIpv4 groups then isOwnPair (groups.drop 6)
    else groups == [0, 0, 0, 0, 0, 0, 0, 0] || groups == [0, 0, 0, 0, 0, 0, 0, 1]
where
  isOwnPair : List Nat → Bool
    | [high, low] => high / 256 == 127 || (high == 0 && low == 0)
    | _ => false

/-- Four numbers with points, from the two groups they make up. -/
def pointedText (groups : List Nat) : Text :=
  List.intercalate [.char '.'] ((groups.flatMap fun g => [g / 256, g % 256]).map Text.ofNat)

/-- The host of an address as it is shown; eight groups stay as they are written. -/
def shownHost (host : Text) : IpAddress → Text
  | .four groups => pointedText groups
  | .six groups _ => if isMappedIpv4 groups then pointedText (groups.drop 6) else host

/-- The name of this machine. -/
def ownName : String := "localhost"

/-- Whether a text names this machine; a point may end the name. -/
def isOwnName (host : Text) : Bool :=
  let name := String.ofList (host.toChars.map Char.toLower)
  name == ownName || name == ownName ++ "."

/-- Why nothing can listen at a text. -/
def ListenAddress.fault (address : Text) : Option ListenFault :=
  match ListenAddress.split address with
  | .error fault => some fault
  | .ok e =>
    match portOfText e.port with
    | .error fault => some fault
    | .ok port =>
      if e.host.isEmpty || isOwnName e.host then none
      else match IpAddress.parse e.host.toChars with
        | .error _ => some (.unknownHost e.host)
        | .ok ip => if isOwnAddress ip then none else some (.foreign (shownHost e.host ip) port)

end Stockroom

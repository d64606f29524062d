import Stockroom.Calendar.Duration

/-!
Flags on a command line. A flag has a long name and perhaps a short one, and always takes a value:
the rest of its own argument, or the next one. Two dashes end the flags.

Main definitions: `Flag`, `flagUsages`, `FlagError`, `parseFlags`, `ParsedFlags`.
-/
namespace Stockroom
set_option autoImplicit false

/-- What a flag takes. -/
inductive FlagKind where
  | text
  | integer
  | duration
  deriving DecidableEq, Repr

def FlagKind.name : FlagKind → String
  | .text => "string"
  | .integer => "int"
  | .duration => "duration"

/-- A flag, what it is for, and its value when it is not given. -/
structure Flag where
  name : String
  short : Option Char := none
  kind : FlagKind := .text
  usage : String
  fallback : Text := []
  deriving DecidableEq, Repr

inductive FlagValue where
  | text (t : Text)
  | integer (i : Int)
  | duration (d : Duration)
  deriving DecidableEq, Repr

/-! ## Usage -/

namespace Flag

/-- The names of a flag. -/
def names (f : Flag) : Text :=
  match f.short with
  | some c => Text.ofChars ['-', c] ++ Text.ofString ", --" ++ Text.ofString f.name
  | none => Text.ofString "--" ++ Text.ofString f.name

/-- The names and the kind of a flag, as they start a line. -/
def start (f : Flag) : Text :=
  Text.ofString (if f.short.isSome then "  " else "      ") ++ f.names ++ Text.ofString " " ++
    Text.ofString f.kind.name

/-- Whether not giving the flag is the same as giving nothing. -/
def fallbackIsNothing (f : Flag) : Bool :=
  match f.kind with
  | .text => f.fallback.isEmpty
  | .integer => f.fallback == Text.ofString "0"
  | .duration => f.fallback == Text.ofString "0s"

/-- What a flag is for, and its value when it is not given. -/
def purpose (f : Flag) : Text :=
  let fallback := if f.kind == .text then f.fallback.quoted else f.fallback
  Text.ofString f.usage ++
    (if f.fallbackIsNothing then [] else Text.ofString " (default " ++ fallback ++ [.char ')'])

end Flag

/-- One line for each flag, in the order of their names, with what they are for in a column. -/
def flagUsages (flags : List Flag) : Text :=
  let sorted := flags.mergeSort fun a b => (Text.ofString a.name).le (Text.ofString b.name)
  let width := (sorted.map fun f => f.start.length).foldl max 0
  sorted.flatMap fun f =>
    f.start ++ List.replicate (width + 3 - f.start.length) (.char ' ') ++ f.purpose ++ [.char '\n']

/-! ## Integers -/

/-- Why a text is no integer. -/
inductive IntegerFault where
  | notAnInteger
  | outOfRange
  deriving DecidableEq, Repr

def IntegerFault.message (text : Text) : IntegerFault → Text
  | .notAnInteger => "strconv.ParseInt: parsing " ++ text.quoted ++ ": invalid syntax"
  | .outOfRange => "strconv.ParseInt: parsing " ++ text.quoted ++ ": value out of range"

/-- The value of a digit of any base up to sixteen. -/
def anyDigit (c : Char) : Option Nat :=
  match digitValue c with
  | some d => some d
  | none =>
    let n := c.toLower.toNat
    if 97 ≤ n && n ≤ 102 then some (n - 87) else none

/-- The value of digits of a base, among which there may be underscores. The first digit that is none
or that makes the value exceed sixty-four bits is the fault. -/
def baseValue (base sofar : Nat) : List Char → Except IntegerFault Nat
  | [] => .ok sofar
  | c :: rest =>
    if c == '_' then baseValue base sofar rest
    else match anyDigit c with
      | some d =>
        if base ≤ d then .error .notAnInteger
        else if Nat.pow 2 64 ≤ sofar * base + d then .error .outOfRange
        else baseValue base (sofar * base + d) rest
      | none => .error .notAnInteger

/-- Whether underscores stand one by one and between digits. -/
def underscoresDivide (afterDigit : Bool) : List Char → Bool
  | [] => true
  | ['_'] => false
  | '_' :: rest => afterDigit && underscoresDivide false rest
  | _ :: rest => underscoresDivide true rest

/-- The base that the front of a number names, whether a digit has been read with it, and the
digits. -/
def numberBase : List Char → Nat × Bool × List Char
  | '0' :: c :: d :: rest =>
    match c.toLower with
    | 'b' => (2, true, d :: rest)
    | 'o' => (8, true, d :: rest)
    | 'x' => (16, true, d :: rest)
    | _ => (8, true, c :: d :: rest)
  | '0' :: rest => (8, true, rest)
  | cs => (10, false, cs)

/-- Reads an integer of sixty-four bits in the base that its front names. -/
def readAnyInteger (t : Text) : Except IntegerFault Int :=
  let (negative, unsigned) := match t.toChars with
    | '-' :: rest => (true, rest)
    | '+' :: rest => (false, rest)
    | cs => (false, cs)
  let (base, afterDigit, digits) := numberBase unsigned
  if unsigned.isEmpty then .error .notAnInteger
  else match baseValue base 0 digits with
    | .error fault => .error fault
    | .ok n =>
      let i : Int := if negative then -(n : Int) else n
      if !underscoresDivide afterDigit digits then .error .notAnInteger
      else if fitsInt64 i then .ok i
      else .error .outOfRange

/-! ## Reading a command line -/

/-- Why a command line cannot be read. -/
inductive FlagError where
  /-- Help was asked for. -/
  | help
  | badShape (argument : Text)
  | unknown (name : Text)
  | unknownShort (short : Char) (cluster : Text)
  | valueMissing (name : Text)
  | shortValueMissing (short : Char) (cluster : Text)
  | badValue (flag : Flag) (value : Text) (reason : Text)
  deriving DecidableEq, Repr

/-- A character in single quotes. -/
def singleQuoted (c : Char) : Text :=
  let inner := if c == '\'' then ['\\', '\''] else if c == '"' then ['"'] else quotedChar c
  Text.ofChars (['\''] ++ inner ++ ['\''])

def FlagError.message : FlagError → Text
  | .help => "help requested"
  | .badShape argument => "bad flag syntax: " ++ argument
  | .unknown name => "unknown flag: --" ++ name
  | .unknownShort short cluster =>
    "unknown shorthand flag: " ++ singleQuoted short ++ " in -" ++ cluster
  | .valueMissing name => "flag needs an argument: --" ++ name
  | .shortValueMissing short cluster =>
    "flag needs an argument: " ++ singleQuoted short ++ " in -" ++ cluster
  | .badValue flag value reason =>
    "invalid argument " ++ value.quoted ++ " for " ++ flag.names.quoted ++ " flag: " ++ reason

/-- The value that a text gives a flag. -/
def Flag.read (f : Flag) (value : Text) : Except FlagError FlagValue :=
  match f.kind with
  | .text => .ok (.text value)
  | .integer =>
    match readAnyInteger value with
    | .ok i => .ok (.integer i)
    | .error fault => .error (.badValue f value (fault.message value))
  | .duration =>
    match Duration.parse value with
    | .ok d => .ok (.duration d)
    | .error e => .error (.badValue f value e.message)

/-- The values that were given, the last one first, and the arguments that are no flags. -/
structure ParsedFlags where
  values : List (String × FlagValue) := []
  arguments : List Text := []
  deriving DecidableEq, Repr

/-- The front of arguments that are meant for a test and not for the program. -/
def testMark : Text := "test."

/-- A flag that an argument names: the flag, the value in the argument itself, and what to say if
there is no value. -/
structure NamedFlag where
  flag : Flag
  value : Option Text
  missing : FlagError

/-- Reads an argument of two dashes and a name. -/
def longFlag (flags : List Flag) (argument : Text) : Except FlagError NamedFlag :=
  let named : Text := argument.drop 2
  if named.head? == some (.char '-') || named.head? == some (.char '=') then
    .error (.badShape argument)
  else
    let (name, value) : Text × Option Text := match Text.cut (.char '=') named with
      | some (name, value) => (name, some value)
      | none => (named, none)
    match flags.find? fun f => name == Text.ofString f.name with
    | some flag => .ok { flag, value, missing := .valueMissing name }
    | none => .error (if name == Text.ofString "help" then .help else .unknown name)

/-- How a short name that no flag has is shown. All characters beyond ASCII are shown alike. -/
def shownShort (g : Glyph) : Char := if g.toChar.toNat < 0x80 then g.toChar else 'Ã'

/-- Reads an argument of one dash and a letter. -/
def shortFlag (flags : List Flag) (cluster : Text) : Except FlagError NamedFlag :=
  match cluster with
  | [] => .error (.badShape cluster)
  | g :: rest =>
    match flags.find? fun f => f.short.any fun c => g == .char c with
    | some flag =>
      let value : Option Text := match rest with
        | [] => none
        | .char '=' :: more => some (if more.isEmpty then rest else more)
        | _ => some rest
      .ok { flag, value, missing := .shortValueMissing g.toChar cluster }
    | none =>
      if g == .char 'h' then .error .help
      else .error (.unknownShort (shownShort g) cluster)

/-- Gives a flag a value. -/
def ParsedFlags.give (p : ParsedFlags) (f : Flag) (value : Text) : Except FlagError ParsedFlags :=
  match f.read value with
  | .ok v => .ok { p with values := (f.name, v) :: p.values }
  | .error e => .error e

/-- Reads arguments from the left, after what was read so far. A flag may be waiting for its value. -/
def parseArguments (flags : List Flag) (sofar : ParsedFlags) (waiting : Option NamedFlag) :
    List Text → Except FlagError ParsedFlags
  | [] => match waiting with
    | some named => .error named.missing
    | none => .ok sofar
  | argument :: rest =>
    match waiting, argument with
    | some named, value => do
      parseArguments flags (← sofar.give named.flag value) none rest
    | none, [.char '-', .char '-'] => .ok { sofar with arguments := sofar.arguments ++ rest }
    | none, .char '-' :: g :: cluster => do
      if testMark.isPrefixOf (g :: cluster) then return ← parseArguments flags sofar none rest
      let named ← if g == .char '-' then longFlag flags argument else shortFlag flags (g :: cluster)
      match named.value with
      | some value => parseArguments flags (← sofar.give named.flag value) none rest
      | none => parseArguments flags sofar (some named) rest
    | none, argument =>
      parseArguments flags { sofar with arguments := sofar.arguments ++ [argument] } none rest

/-- Reads a command line. -/
def parseFlags (flags : List Flag) (arguments : List Text) : Except FlagError ParsedFlags :=
  parseArguments flags {} none arguments

namespace ParsedFlags

/-- The text a flag was given, or what it is without. -/
def text (p : ParsedFlags) (name : String) (fallback : Text) : Text :=
  match p.values.lookup name with
  | some (.text t) => t
  | _ => fallback

/-- The integer a flag was given, or what it is without. -/
def integer (p : ParsedFlags) (name : String) (fallback : Int) : Int :=
  match p.values.lookup name with
  | some (.integer i) => i
  | _ => fallback

/-- The length of time a flag was given, or what it is without. -/
def duration (p : ParsedFlags) (name : String) (fallback : Duration) : Duration :=
  match p.values.lookup name with
  | some (.duration d) => d
  | _ => fallback

end ParsedFlags
end Stockroom

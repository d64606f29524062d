import Stockroom.Text.Numeral
import Stockroom.Text.Quoted

/-!
What can be wrong with a YAML text: with its tokens, with the way they follow each other, with its
aliases and tags, and with its content for what it should hold. Each cause has one wording.

Main definitions:
* `Yaml.Problem`: what keeps a text from being YAML;
* `Yaml.Mistake`: what does not fit in the content of a document;
* `Yaml.Fault`: why a text is refused;
* `Yaml.Fault.inToken`, `Yaml.Fault.inNode`: a problem with the line that is told of it;
* `Yaml.Fault.message`: what is told.
-/
namespace Stockroom.Yaml
set_option autoImplicit false

/-- How deep brackets, braces and blocks may lie in each other. -/
def maxDepth : Nat := 10000

/-! ## Problems -/

/-- What keeps a text from being YAML. -/
inductive Problem where
  | controlCharacter
  | brokenCharacter
  /-- A character that starts no token. -/
  | strayCharacter
  /-- A key without its colon. -/
  | missingColon
  | tooDeep
  | misplacedEntry
  | misplacedKey
  | misplacedValue
  | missingDirectiveName
  | badDirectiveName
  | unknownDirective
  | missingVersion
  | longVersion
  | missingVersionPoint
  | missingTagMark
  | missingTagText
  | missingTagClose
  | badEscapedByte
  | badLeadByte
  | badTrailByte
  | missingBlank
  | missingGap
  | missingLineEnd
  | missingName
  | zeroIndentation
  | tabInIndentation
  | tabInScalar
  | markInQuotes
  | endInQuotes
  | unknownEscape
  | badDigits
  | badCodePoint
  | missingDocumentStart
  | repeatedVersion
  | unknownVersion
  | repeatedHandle
  | unknownHandle
  | missingContent
  | missingItem
  | missingKey
  /-- Neither a comma nor the bracket or brace that closes. -/
  | missingComma (close : Char)
  deriving DecidableEq, Repr

def Problem.message : Problem → Text
  | .controlCharacter => "control characters are not allowed"
  | .brokenCharacter => "invalid leading UTF-8 octet"
  | .strayCharacter => "found character that cannot start any token"
  | .missingColon => "could not find expected ':'"
  | .tooDeep => "exceeded max depth of " ++ Text.ofNat maxDepth
  | .misplacedEntry => "block sequence entries are not allowed in this context"
  | .misplacedKey => "mapping keys are not allowed in this context"
  | .misplacedValue => "mapping values are not allowed in this context"
  | .missingDirectiveName => "could not find expected directive name"
  | .badDirectiveName => "found unexpected non-alphabetical character"
  | .unknownDirective => "found unknown directive name"
  | .missingVersion => "did not find expected version number"
  | .longVersion => "found extremely long version number"
  | .missingVersionPoint => "did not find expected digit or '.' character"
  | .missingTagMark => "did not find expected '!'"
  | .missingTagText => "did not find expected tag URI"
  | .missingTagClose => "did not find the expected '>'"
  | .badEscapedByte => "did not find URI escaped octet"
  | .badLeadByte => "found an incorrect leading UTF-8 octet"
  | .badTrailByte => "found an incorrect trailing UTF-8 octet"
  | .missingBlank => "did not find expected whitespace"
  | .missingGap => "did not find expected whitespace or line break"
  | .missingLineEnd => "did not find expected comment or line break"
  | .missingName => "did not find expected alphabetic or numeric character"
  | .zeroIndentation => "found an indentation indicator equal to 0"
  | .tabInIndentation => "found a tab character where an indentation space is expected"
  | .tabInScalar => "found a tab character that violates indentation"
  | .markInQuotes => "found unexpected document indicator"
  | .endInQuotes => "found unexpected end of stream"
  | .unknownEscape => "found unknown escape character"
  | .badDigits => "did not find expected hexdecimal number"
  | .badCodePoint => "found invalid Unicode character escape code"
  | .missingDocumentStart => "did not find expected <document start>"
  | .repeatedVersion => "found duplicate %YAML directive"
  | .unknownVersion => "found incompatible YAML document"
  | .repeatedHandle => "found duplicate %TAG directive"
  | .unknownHandle => "found undefined tag handle"
  | .missingContent => "did not find expected node content"
  | .missingItem => "did not find expected '-' indicator"
  | .missingKey => "did not find expected key"
  | .missingComma close =>
    Text.ofString "did not find expected ',' or '" ++ [.char close] ++ Text.ofString "'"

/-! ## Mistakes -/

/-- What does not fit in the content of a document. Lines count from one. -/
inductive Mistake where
  /-- A node of another kind than wanted; a scalar is shown by its beginning. -/
  | wrongKind (line : Nat) (tag : Text) (value : Option Text) (wanted : Text)
  /-- A key that stood in the same mapping before. -/
  | repeatedKey (line : Nat) (key : Text) (first : Nat)
  /-- A field under two keys that read alike. -/
  | repeatedField (line : Nat) (name owner : Text)
  deriving DecidableEq, Repr

/-- How many bytes of a scalar are shown in full, and how many of a longer one. -/
def shownBytes : Nat × Nat := (10, 7)

/-- A scalar as it is shown: of a long one only the beginning. -/
def shownScalar (value : Text) : Text :=
  let bytes := value.bytes
  if bytes.length ≤ shownBytes.1 then value
  else Text.ofBytes (bytes.take shownBytes.2) ++ "..."

/-- A text between grave accents. -/
def accented (t : Text) : Text :=
  let mark : Text := [.char (Char.ofNat 96)]
  mark ++ t ++ mark

def Mistake.message : Mistake → Text
  | .wrongKind line tag value wanted =>
    Text.ofString "line " ++ Text.ofNat line ++ Text.ofString ": cannot unmarshal " ++ tag ++
      (match value with
        | some value => Text.ofString " " ++ accented (shownScalar value)
        | none => []) ++ Text.ofString " into " ++ wanted
  | .repeatedKey line key first =>
    Text.ofString "line " ++ Text.ofNat line ++ Text.ofString ": mapping key " ++ key.quoted ++
      Text.ofString " already defined at line " ++ Text.ofNat first
  | .repeatedField line name owner =>
    Text.ofString "line " ++ Text.ofNat line ++ Text.ofString ": field " ++ name ++
      Text.ofString " already set in type " ++ owner

/-! ## Faults -/

/-- Why a text is refused. -/
inductive Fault where
  /-- A problem, with the line that is told of it. -/
  | malformed (line : Option Nat) (problem : Problem)
  /-- An alias of an anchor that did not come before. -/
  | unknownAnchor (name : Text)
  /-- An alias that leads back to itself. -/
  | endless (name : Text)
  /-- What a mapping takes over is no mapping. -/
  | badMerge
  | badBinary
  /-- A scalar that does not fit its tag. -/
  | misfit (found value tag : Text)
  /-- Nearly all of a document comes from aliases. -/
  | overgrown
  | mistakes (list : List Mistake)
  deriving DecidableEq, Repr

/-- The first of two lines that is not the first of the text. -/
def laterLine (start here : Nat) : Option Nat :=
  if start ≠ 0 then some start else if here ≠ 0 then some here else none

/-- A problem inside a token, told with the line where the token starts; of a token on the first line
with the line where it was noticed. No line is told if that is the first one too. -/
def Fault.inToken (start here : Nat) (problem : Problem) : Fault :=
  .malformed ((laterLine start here).map (· + 1)) problem

/-- A problem with the order of tokens, told with the line before the node in question starts; of a
node on the first line with the line before the token that does not fit. -/
def Fault.inNode (start here : Nat) (problem : Problem) : Fault :=
  .malformed (laterLine start here) problem

/-- What is told of a fault after the name of the format. -/
def Fault.detail : Fault → Text
  | .malformed none problem => problem.message
  | .malformed (some line) problem =>
    Text.ofString "line " ++ Text.ofNat line ++ Text.ofString ": " ++ problem.message
  | .unknownAnchor name => Text.ofString "unknown anchor '" ++ name ++ "' referenced"
  | .endless name => Text.ofString "anchor '" ++ name ++ "' value contains itself"
  | .badMerge => "map merge requires map or sequence of maps as the value"
  | .badBinary => "!!binary value contains invalid base64 data"
  | .misfit found value tag =>
    Text.ofString "cannot decode " ++ found ++ Text.ofString " " ++ accented value ++
      Text.ofString " as a " ++ tag
  | .overgrown => "document contains excessive aliasing"
  | .mistakes list =>
    Text.ofString "unmarshal errors:" ++ list.flatMap fun m => Text.ofString "\n  " ++ m.message

def Fault.message (fault : Fault) : Text := Text.ofString "yaml: " ++ fault.detail

end Stockroom.Yaml

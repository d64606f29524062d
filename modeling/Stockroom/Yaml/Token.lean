import Stockroom.Yaml.Cursor

/-!
The tokens of YAML. Blocks have no marks of their own in the text: their starts and ends are tokens
that follow from the columns.

Main definitions: `Yaml.Token`, `Yaml.PlacedToken`, `Yaml.Token.isDocumentEdge`,
`Yaml.Token.endsBlockNode`.
-/
namespace Stockroom.Yaml
set_option autoImplicit false

/-- A token. -/
inductive Token where
  | streamEnd
  | version (major minor : Nat)
  | tagHandle (handle expansion : List Char)
  | documentStart
  | documentEnd
  | blockSequenceStart
  | blockMappingStart
  | blockEnd
  | flowSequenceStart
  | flowSequenceEnd
  | flowMappingStart
  | flowMappingEnd
  | blockEntry
  | flowEntry
  | key
  | value
  | alias (name : List Char)
  | anchor (name : List Char)
  | tag (handle suffix : List Char)
  /-- The text of a scalar, and whether it stood without quotes or another mark of text. -/
  | scalar (text : List Char) (plain : Bool)
  deriving DecidableEq, Repr, Inhabited

namespace Token

/-- Whether a token is a directive. -/
def isDirective : Token → Bool
  | .version .. | .tagHandle .. => true
  | _ => false

/-- Whether a token starts or ends a document, so that the content before it is missing. -/
def isDocumentEdge : Token → Bool
  | .version .. | .tagHandle .. | .documentStart | .documentEnd | .streamEnd => true
  | _ => false

/-- Whether a token shows that the key or value of a block mapping is missing. -/
def endsBlockNode : Token → Bool
  | .key | .value | .blockEnd => true
  | _ => false

/-- Whether a token shows that the value of an entry between brackets is missing. -/
def endsFlowItem : Token → Bool
  | .flowEntry | .flowSequenceEnd => true
  | _ => false

/-- Whether a token shows that the value of an entry between braces is missing. -/
def endsFlowMember : Token → Bool
  | .flowEntry | .flowMappingEnd => true
  | _ => false

end Token

/-- A token and the place where it starts. -/
structure PlacedToken where
  token : Token
  place : Place
  deriving DecidableEq, Repr, Inhabited
end Stockroom.Yaml

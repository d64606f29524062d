import Stockroom.Yaml.Cursor
import Stockroom.Yaml.Kind

/-!
YAML documents: scalars, sequences and mappings, and aliases, which stand for a node elsewhere in the
document. A node may hold an alias of itself, so the nodes with an anchor are kept in a table.

Main definitions:
* `Yaml.Tag`, `Yaml.Node`, `Yaml.Document`;
* `Yaml.Node.tagged`: a scalar by its tag or its look;
* `Yaml.Document.target`: what an alias stands for;
* `Yaml.repeatedKeys`: the keys of a mapping that came before.
-/
namespace Stockroom.Yaml
set_option autoImplicit false

/-! ## Tags -/

/-- What a node is said to be, by a tag or by its look. -/
inductive Tag where
  /-- A scalar of the given kind. -/
  | kind (k : Kind)
  /-- Bytes in base 64. -/
  | binary
  /-- The mark under which a mapping takes over the entries of others. -/
  | merge
  | sequence
  | mapping
  /-- Something that means nothing here. -/
  | other (name : Text)
  deriving DecidableEq, Repr

def Kind.name : Kind → String
  | .null => "null"
  | .truth => "bool"
  | .integer => "int"
  | .number => "float"
  | .time => "timestamp"
  | .text => "str"

/-- The tags that say something, by the ends of their names. -/
def tagNames : List (String × Tag) :=
  ([.null, .truth, .integer, .number, .time, .text] : List Kind).map (fun k => (k.name, .kind k)) ++
    [("binary", .binary), ("merge", .merge), ("seq", .sequence), ("map", .mapping)]

/-- The beginning of those tags in full, and in short. -/
def tagSpace : String := "tag:yaml.org,2002:"
def shortSpace : String := "!!"

/-- The short name of a tag. -/
def Tag.name : Tag → Text
  | .kind k => shortSpace ++ k.name
  | .binary => "!!binary"
  | .merge => "!!merge"
  | .sequence => "!!seq"
  | .mapping => "!!map"
  | .other name => name

/-- A tag with the long beginning cut short. -/
def shortTag (tag : List Char) : List Char :=
  if tagSpace.toList.isPrefixOf tag then shortSpace.toList ++ tag.drop tagSpace.length else tag

/-- What a tag says. Its characters are the bytes of its name. -/
def tagOf (tag : List Char) : Tag :=
  let tag := shortTag tag
  (tagNames.findSome? fun (name, meaning) =>
    if (shortSpace ++ name).toList == tag then some meaning else none).getD
      (.other (Text.ofBytes (tag.map fun c => c.toNat.toUInt8)))

/-- What a tag says of a node; without a tag, or with a lone exclamation mark, the node's look counts. -/
def tagOr (look : Tag) (tag : List Char) : Tag :=
  if tag.isEmpty || tag == ['!'] then look else tagOf tag

/-! ## Nodes -/

/-- A node with the place where it starts. An alias gives the number of an anchor. -/
inductive Node where
  | scalar (place : Place) (tag : Tag) (text : List Char)
  | sequence (place : Place) (tag : Tag) (items : List Node)
  | mapping (place : Place) (tag : Tag) (entries : List (Node × Node))
  | alias (place : Place) (name : List Char) (anchor : Nat)
  deriving Inhabited, Repr

namespace Node

def place : Node → Place
  | .scalar place .. | .sequence place .. | .mapping place .. | .alias place .. => place

/-- The line where a node starts, counted from one. -/
def line (node : Node) : Nat := node.place.line + 1

/-- The spelling of a merge. -/
def mergeWord : List Char := ['<', '<']

/-- What a scalar without a tag is. Only a plain one may be other than text. -/
def lookOf (text : List Char) (plain : Bool) : Tag :=
  if !plain then .kind .text
  else if text == mergeWord then .merge
  else .kind (kindOf true text)

/-- A scalar by its tag or its look. -/
def tagged (place : Place) (tag : List Char) (text : List Char) (plain : Bool) : Node :=
  .scalar place (tagOr (lookOf text plain) tag) text

/-- The value of a missing node. -/
def null (place : Place) : Node := tagged place [] [] true

/-- Whether a key is the mark of a merge. -/
def isMerge : Node → Bool
  | .scalar _ tag text => tag = .merge && text == mergeWord
  | _ => false

/-- The number of nodes in a node, itself included. -/
def size : Node → Nat
  | .scalar .. => 1
  | .alias .. => 1
  | .sequence _ _ items => sizes items + 1
  | .mapping _ _ entries => entrySizes entries + 1
where
  sizes : List Node → Nat
    | [] => 0
    | n :: rest => n.size + sizes rest
  entrySizes : List (Node × Node) → Nat
    | [] => 0
    | (k, v) :: rest => k.size + v.size + entrySizes rest

end Node

/-! ## Keys -/

/-- What tells keys apart: scalars and aliases by their spelling, and collections not at all. -/
def Node.keySpelling : Node → Nat × List Char
  | .scalar _ _ text => (0, text)
  | .alias _ name _ => (1, name)
  | .sequence .. => (2, [])
  | .mapping .. => (3, [])

/-- The keys of a mapping that came before, each with all its earlier places. -/
def repeatedKeys : List Node → List Mistake
  | [] => []
  | key :: rest =>
    let spelling := key.keySpelling
    (rest.filter fun k => k.keySpelling == spelling).map (fun k =>
      .repeatedKey k.line (Text.ofChars spelling.2) key.line) ++ repeatedKeys rest

/-- The node under the mark of a merge. -/
def mergedNode (entries : List (Node × Node)) : Option Node :=
  (entries.find? fun e => e.1.isMerge).map (·.2)

/-! ## Documents -/

/-- A document: its node, and the nodes with an anchor by the number of the anchor. -/
structure Document where
  root : Node
  anchors : List (Nat × Node) := []
  deriving Inhabited, Repr

/-- The node that an alias stands for; every other node stands for itself. -/
def Document.target (doc : Document) : Node → Node
  | .alias place _ anchor => (doc.anchors.lookup anchor).getD (.null place)
  | node => node

/-- A bound on how far merges can lead without coming back. -/
def Document.reach (doc : Document) : Nat :=
  2 * doc.anchors.foldr (fun e total => e.2.size + total) doc.root.size + 2

end Stockroom.Yaml

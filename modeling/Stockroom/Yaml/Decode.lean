import Stockroom.Codec.Base64
import Stockroom.Yaml.Node

/-!
Taking texts and mappings out of a document. What is of another kind than wanted is noted as a mistake
and passed over, so that all mistakes are told at once; other faults end the reading.

Main definitions:
* `Yaml.Decode`: a step that takes something out of a document;
* `Yaml.scalarText`: the text of a scalar, none for a null;
* `Yaml.Document.enter`: comes to a node, through an alias or directly;
* `Yaml.Document.text`: the text of a node;
* `Yaml.Document.members`: the entries of a mapping by name, with those it takes over from others.
-/
namespace Stockroom.Yaml
set_option autoImplicit false

/-! ## Steps -/

/-- What was noted so far: the mistakes, the latest first, and how many nodes were visited, in all and
through aliases. -/
structure Notes where
  mistakes : List Mistake := []
  visited : Nat := 0
  aliased : Nat := 0

/-- A step that takes something out of a document. -/
abbrev Decode (α : Type) := StateT Notes (Except Fault) α

namespace Decode

/-- Notes mistakes. -/
def note (mistakes : List Mistake) : Decode Unit :=
  modify fun n => { n with mistakes := mistakes.reverse ++ n.mistakes }

/-- What a step takes out, if it notes no mistake. -/
def result {α : Type} (step : Decode α) : Except Fault α := do
  let (a, notes) ← step.run {}
  if notes.mistakes.isEmpty then return a
  else throw (.mistakes notes.mistakes.reverse)

end Decode

/-- Whether too much of a document comes from aliases. Of up to four hundred thousand nodes it may be
ninety-nine parts in a hundred, of four million and more ten parts, and in between evenly less. -/
def isOvergrown (visited aliased : Nat) : Bool :=
  let range := 3600000
  let beyond := min (visited - 400000) range
  100 < aliased && 1000 < visited && visited * (99 * range - 89 * beyond) < aliased * (100 * range)

/-- Counts a node. -/
def count (throughAlias : Bool) : Decode Unit := do
  let n ← get
  let n := { n with visited := n.visited + 1, aliased := n.aliased + throughAlias.toNat }
  if isOvergrown n.visited n.aliased then throw .overgrown
  set n

/-! ## Scalars -/

/-- Decodes base 64 with its last group filled up. -/
def binaryText (cs : List Char) : Option Text := do
  let cs := cs.filter fun c => c != '\n' && c != '\r'
  let body := (cs.reverse.dropWhile (· == '=')).reverse
  guard (cs.length % 4 = 0 && cs.length ≤ body.length + 2)
  return Text.ofBytes (← Base64.decode Base64.standard body)

/-- Whether a text is of the given kind. An integer of sixty-three bits is a number too. -/
def fitsKind (found kind : Kind) (text : List Char) : Bool :=
  found = kind || (kind = .number && found = .integer && !isWide text)

/-- The text of a scalar, none for a null. A tag that the text does not fit is refused. -/
def scalarText (tag : Tag) (text : List Char) : Except Fault (Option Text) :=
  let whole := Text.ofChars text
  match tag with
  | .kind .text => .ok (some whole)
  | .kind k =>
    let found := kindOf (k == .time) text
    if fitsKind found k text then .ok (if k = .null then none else some whole)
    else .error (.misfit (Tag.kind found).name whole tag.name)
  | .binary =>
    match binaryText text with
    | some bytes => .ok (some bytes)
    | none => .error .badBinary
  | _ => .ok (some whole)

/-! ## Nodes -/

/-- Comes to a node, through an alias or directly. `active` are the aliases on the way here; none may
come twice. -/
def Document.enter (doc : Document) (active : List Place) (node : Node) :
    Decode (List Place × Node) := do
  count (!active.isEmpty)
  match node with
  | .alias place name _ =>
    if active.contains place then throw (.endless (Text.ofChars name))
    count true
    return (place :: active, doc.target node)
  | _ => return (active, node)

/-- Notes that a node is not of the kind that is wanted; a null is passed over. Of a mapping with
repeated keys only these are noted. -/
def unwanted (wanted : Text) (node : Node) : Decode Unit := do
  let wrong (tag : Tag) (text : List Char) : Mistake :=
    .wrongKind node.line tag.name
      (if tag = .sequence || tag = .mapping then none else some (Text.ofChars text)) wanted
  match node with
  | .scalar _ tag text =>
    if (← scalarText tag text).isSome then Decode.note [wrong tag text]
  | .sequence _ tag _ => Decode.note [wrong tag []]
  | .mapping _ tag entries =>
    match repeatedKeys (entries.map Prod.fst) with
    | [] => Decode.note [wrong tag []]
    | mistakes => Decode.note mistakes
  | .alias .. => return ()

/-- The text of a node, none for a null. -/
def Document.text (doc : Document) (active : List Place) (node : Node) : Decode (Option Text) := do
  match (← doc.enter active node).2 with
  | .scalar _ tag text => scalarText tag text
  | node =>
    unwanted "string" node
    return none

/-! ## Mappings -/

/-- Whether a key counts by its text. -/
def Tag.isTextual : Tag → Bool
  | .kind k => k = .text
  | _ => true

/-- The keys that are texts. -/
def Document.textKeys (doc : Document) (active : List Place) :
    List (Node × Node) → Decode (List Text)
  | [] => return []
  | (key, _) :: rest => do
    let name ← match (← doc.enter active key).2 with
      | .scalar _ tag text => if tag.isTextual then scalarText tag text else pure none
      | _ => pure none
    return name.toList ++ (← doc.textKeys active rest)

/-- The entries of a mapping, or of an alias of one, that another mapping takes over. -/
def Document.mergeSource (doc : Document) (active : List Place) (node : Node) :
    Decode (List Place × List (Node × Node)) := do
  match doc.target node with
  | .mapping _ _ entries =>
    let (active, _) ← doc.enter active node
    return (active, entries)
  | _ => throw .badMerge

/-- What a mapping takes over stands in one node or in several in a row. -/
def Node.parts : Node → List Node
  | .sequence _ _ items => items
  | node => [node]

section
variable {σ : Type} (doc : Document) (put : List Place → σ → Text → Node → Node → Decode σ)

/-- Puts the entries that stand in a mapping itself, each by its name, key and value. A key that is null
names nothing; with `once`, names seen before are passed over. -/
def Document.ownMembers (active : List Place) (once : Bool) :
    List (Node × Node) → List Text → σ → Decode (List Text × σ)
  | [], seen, s => return (seen, s)
  | (key, value) :: rest, seen, s => do
    if key.isMerge then ownMembers active once rest seen s
    else match ← doc.text active key with
      | none => ownMembers active once rest seen s
      | some name =>
        if once && seen.contains name then ownMembers active once rest seen s
        else
          let s ← put active s name key value
          ownMembers active once rest (name :: seen) s

/-- Puts the entries of a mapping: its own, and then those it takes over under other names, where the
first to give a name wins. `seen` are the names that count no more, if the mapping is itself taken
over. No two keys may be alike. -/
def Document.members : Nat → List Place → Option (List Text) → List (Node × Node) → σ →
    Decode (List Text × σ)
  | 0, _, seen, _, s => return (seen.getD [], s)
  | fuel + 1, active, seen, entries, s => do
    match repeatedKeys (entries.map Prod.fst) with
    | [] =>
      let (names, s) ← doc.ownMembers put active seen.isSome entries (seen.getD []) s
      match mergedNode entries with
      | none => return (names, s)
      | some node =>
        let names ← if seen.isSome then pure names else doc.textKeys active entries
        node.parts.foldlM (fun (names, s) part => do
          let (active, entries) ← doc.mergeSource active part
          members fuel active (some names) entries s) (names, s)
    | mistakes =>
      Decode.note mistakes
      return (seen.getD [], s)

/-- Puts the entries of a mapping that is not taken over. -/
def Document.fold (active : List Place) (entries : List (Node × Node)) (s : σ) : Decode σ := do
  let steps := if (mergedNode entries).isSome then doc.reach else 1
  return (← doc.members put steps active none entries s).2

end
end Stockroom.Yaml

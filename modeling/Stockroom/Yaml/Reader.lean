import Stockroom.Yaml.Lexer
import Stockroom.Yaml.Node

/-!
Reading a YAML document from its tokens. Only the first document of a text is read, and nothing is
asked of the text after it beyond the tokens that are looked at to find its end.

Main definitions:
* `Yaml.Reader`: the tokens with the handles and anchors known so far;
* `Yaml.readNode`: a node in block or flow style;
* `Yaml.read`: the first document of a text.
-/
namespace Stockroom.Yaml
set_option autoImplicit false

/-- The tokens with the handles and anchors known so far. -/
structure Reader where
  lexer : Lexer
  /-- What the handles of tags stand for. -/
  handles : List (List Char × List Char) := []
  /-- The names of anchors with their numbers, the latest first. -/
  names : List (List Char × Nat) := []
  /-- The finished nodes with an anchor. -/
  anchors : List (Nat × Node) := []

/-- A step that reads tokens, or refuses the text. -/
abbrev Read (α : Type) := StateT Reader (Except Fault) α

/-- The next token. -/
def peek : Read PlacedToken := do
  let r ← get
  let lexer ← r.lexer.ready
  set { r with lexer }
  return (lexer.queue.head?).getD ⟨.streamEnd, lexer.here.place⟩

/-- Takes the next token. -/
def skip : Read Unit := modify fun r => { r with lexer := r.lexer.drop }

/-- Takes the next token and looks at the one after it. -/
def next : Read PlacedToken := do skip; peek

/-- Refuses a token in a node that starts at the given place. -/
def refuse {α : Type} (start here : Place) (problem : Problem) : Read α :=
  throw (.inNode start.line here.line problem)

/-! ## Properties of nodes -/

/-- What was said of a node before its content, and where the node starts. -/
structure Properties where
  place : Place
  anchor : Option (List Char) := none
  tag : List Char := []

/-- The tag that a handle and a suffix make up, of a node that starts at the given place. -/
def expandTag (start here : Place) (handle suffix : List Char) : Read (List Char) := do
  if handle.isEmpty then return suffix
  match (← get).handles.lookup handle with
  | some expansion => return expansion ++ suffix
  | none => refuse start here .unknownHandle

/-- An anchor and a tag in either order, each at most once. -/
def readProperties : Read Properties := do
  let ⟨token, place⟩ ← peek
  match token with
  | .anchor name =>
    match ← next with
    | ⟨.tag handle suffix, tagPlace⟩ =>
      let _ ← next
      return { place, anchor := some name, tag := ← expandTag place tagPlace handle suffix }
    | _ => return { place, anchor := some name }
  | .tag handle suffix =>
    match ← next with
    | ⟨.anchor name, _⟩ =>
      let _ ← next
      return { place, anchor := some name, tag := ← expandTag place place handle suffix }
    | _ => return { place, tag := ← expandTag place place handle suffix }
  | _ => return { place }

/-- Reads a node under its anchor, whose name is known from the node's start on. -/
def anchored (p : Properties) (content : Read Node) : Read Node := do
  match p.anchor with
  | none => content
  | some name =>
    let number := (← get).names.length
    modify fun r => { r with names := (name, number) :: r.names }
    let node ← content
    modify fun r => { r with anchors := (number, node) :: r.anchors }
    return node

/-- The node that an alias names. -/
def readAlias (place : Place) (name : List Char) : Read Node := do
  match (← get).names.lookup name with
  | some number => return .alias place name number
  | none => throw (.unknownAnchor (Text.ofChars name))

/-! ## Nodes -/

mutual

/-- A node. `block` says whether blocks may stand here, `indentless` whether the entries of a
sequence may, without a block of their own. -/
def readNode : Nat → Bool → Bool → Read Node
  | 0, _, _ => do
    let here := (← peek).place
    refuse here here .missingContent
  | fuel + 1, block, indentless => do
    match ← peek with
    | ⟨.alias name, place⟩ =>
      skip
      readAlias place name
    | _ =>
      let p ← readProperties
      let sequence := Node.sequence p.place (tagOr .sequence p.tag)
      let mapping := Node.mapping p.place (tagOr .mapping p.tag)
      let ⟨token, place⟩ ← peek
      match token with
      | .blockEntry =>
        if indentless then anchored p (return sequence (← readIndentless fuel))
        else emptyNode p place
      | .scalar text plain =>
        skip
        anchored p (return .tagged p.place p.tag text plain)
      | .flowSequenceStart =>
        skip
        anchored p (return sequence (← readFlowItems fuel place true))
      | .flowMappingStart =>
        skip
        anchored p (return mapping (← readFlowMembers fuel place true))
      | .blockSequenceStart =>
        if !block then emptyNode p place
        else
          skip
          anchored p (return sequence (← readItems fuel place))
      | .blockMappingStart =>
        if !block then emptyNode p place
        else
          skip
          anchored p (return mapping (← readMembers fuel place))
      | _ => emptyNode p place

/-- A node without content, which must have an anchor or a tag. -/
def emptyNode (p : Properties) (here : Place) : Read Node := do
  if p.anchor.isNone && p.tag.isEmpty then refuse p.place here .missingContent
  anchored p (return .tagged p.place p.tag [] true)

/-- The items of a block sequence that starts at the given place. -/
def readItems : Nat → Place → Read (List Node)
  | 0, start => refuse start start .missingItem
  | fuel + 1, start => do
    let ⟨token, place⟩ ← peek
    match token with
    | .blockEntry =>
      let t := (← next).token
      let item ←
        if t = .blockEntry || t = .blockEnd then pure (Node.null place) else readNode fuel true false
      return item :: (← readItems fuel start)
    | .blockEnd =>
      skip
      return []
    | _ => refuse start place .missingItem

/-- The items of a sequence at the column of the mapping around it. -/
def readIndentless : Nat → Read (List Node)
  | 0 => return []
  | fuel + 1 => do
    match ← peek with
    | ⟨.blockEntry, place⟩ =>
      let t := (← next).token
      let item ←
        if t = .blockEntry || t.endsBlockNode then pure (Node.null place) else readNode fuel true false
      return item :: (← readIndentless fuel)
    | _ => return []

/-- The entries of a block mapping that starts at the given place. -/
def readMembers : Nat → Place → Read (List (Node × Node))
  | 0, start => refuse start start .missingKey
  | fuel + 1, start => do
    let ⟨token, place⟩ ← peek
    match token with
    | .key =>
      let t := (← next).token
      let key ← if t.endsBlockNode then pure (Node.null place) else readNode fuel true true
      let value ← readBlockValue fuel
      return (key, value) :: (← readMembers fuel start)
    | .blockEnd =>
      skip
      return []
    | _ => refuse start place .missingKey

/-- The value of an entry of a block mapping, which may be missing. -/
def readBlockValue : Nat → Read Node
  | 0 => return .null {}
  | fuel + 1 => do
    match ← peek with
    | ⟨.value, place⟩ =>
      let t := (← next).token
      if t.endsBlockNode then return .null place else readNode fuel true true
    | ⟨_, place⟩ => return .null place

/-- The items of a sequence in brackets that starts at the given place. A comma comes before every item
but the first. -/
def readFlowItems : Nat → Place → Bool → Read (List Node)
  | 0, start, _ => refuse start start (.missingComma ']')
  | fuel + 1, start, first => do
    let t ← peek
    if t.token = .flowSequenceEnd then
      skip
      return []
    else if !first && t.token != .flowEntry then refuse start t.place (.missingComma ']')
    else
      let t ← if first then pure t else next
      if t.token = .flowSequenceEnd then
        skip
        return []
      else
        let item ←
          if t.token = .key then do
            skip
            readFlowPair fuel t.place
          else readNode fuel false false
        return item :: (← readFlowItems fuel start false)

/-- A mapping of one entry, as an item in brackets. A missing key takes the token after it along. -/
def readFlowPair : Nat → Place → Read Node
  | 0, start => return .null start
  | fuel + 1, start => do
    let t ← peek
    let key ←
      if t.token = .value || t.token.endsFlowItem then do
        skip
        pure (Node.null t.place)
      else readNode fuel false false
    let value ←
      match ← peek with
      | ⟨.value, _⟩ =>
        let t ← next
        if t.token.endsFlowItem then pure (Node.null t.place) else readNode fuel false false
      | t => pure (Node.null t.place)
    let _ ← peek
    return .mapping start .mapping [(key, value)]

/-- The entries of a mapping in braces that starts at the given place. -/
def readFlowMembers : Nat → Place → Bool → Read (List (Node × Node))
  | 0, start, _ => refuse start start (.missingComma '\x7d')
  | fuel + 1, start, first => do
    let t ← peek
    if t.token = .flowMappingEnd then
      skip
      return []
    else if !first && t.token != .flowEntry then refuse start t.place (.missingComma '\x7d')
    else
      let t ← if first then pure t else next
      if t.token = .flowMappingEnd then
        skip
        return []
      else if t.token = .key then
        let t ← next
        let key ←
          if t.token = .value || t.token.endsFlowMember then pure (Node.null t.place)
          else readNode fuel false false
        let value ←
          match ← peek with
          | ⟨.value, _⟩ =>
            let t ← next
            if t.token.endsFlowMember then pure (Node.null t.place) else readNode fuel false false
          | t => pure (Node.null t.place)
        return (key, value) :: (← readFlowMembers fuel start false)
      else
        let key ← readNode fuel false false
        let t ← peek
        return (key, Node.null t.place) :: (← readFlowMembers fuel start false)

end

/-! ## Documents -/

/-- The handles that every document knows. -/
def commonHandles : List (List Char × List Char) :=
  [(['!'], ['!']), (['!', '!'], tagSpace.toList)]

/-- The directives of a document. The version, if it is given, must be 1.1; a version or a handle is
given only once. -/
def readDirectives : Nat → Bool → Read Unit
  | 0, _ => return ()
  | fuel + 1, versioned => do
    let ⟨token, place⟩ ← peek
    match token with
    | .version major minor =>
      if versioned then refuse place place .repeatedVersion
      if major ≠ 1 ∨ minor ≠ 1 then refuse place place .unknownVersion
      skip
      readDirectives fuel true
    | .tagHandle handle expansion =>
      let r ← get
      if (r.handles.lookup handle).isSome then refuse place place .repeatedHandle
      set { r with handles := (handle, expansion) :: r.handles }
      skip
      readDirectives fuel versioned
    | _ => modify fun r => { r with handles := r.handles ++ commonHandles }

/-- The node of a document after its start. -/
def readContent (fuel : Nat) : Read Node := do
  let ⟨token, place⟩ ← peek
  if token.isDocumentEdge then return .null place else readNode fuel true false

/-- The node of the first document. A document with directives has a mark of its start. -/
def readRoot (fuel : Nat) (directed : Bool) : Read Node := do
  readDirectives fuel false
  let ⟨token, place⟩ ← peek
  if token = .documentStart then
    skip
    readContent fuel
  else if directed then refuse place place .missingDocumentStart
  else readNode fuel true false

/-- The first document, if there is one. -/
def readDocument (fuel : Nat) : Read (Option Document) := do
  match (← peek).token with
  | .streamEnd => return none
  | t =>
    let root ← readRoot fuel t.isDirective
    let _ ← peek
    return some ⟨root, (← get).anchors⟩

/-- Whether a character may stand in a text. -/
def isAllowed (c : Char) : Bool :=
  let n := c.toNat
  n == 9 || n == 10 || n == 13 || (0x20 ≤ n && n ≤ 0x7E) || n == 0x85 ||
    (0xA0 ≤ n && n ≤ 0xFFFD) || 0x10000 ≤ n

/-- The first document of a text, if it has one; a byte order mark may come before it. A text that is
no YAML is refused. -/
def read (t : Text) : Except Fault (Option Document) := do
  let cs := t.toChars
  let cs := if cs.head? == some '\uFEFF' then cs.drop 1 else cs
  if !t.wellFormed then throw (.malformed none .brokenCharacter)
  if !cs.all isAllowed then throw (.malformed none .controlCharacter)
  let (document, _) ← (readDocument (8 * cs.length + 32)).run { lexer := .ofText cs }
  return document

end Stockroom.Yaml

import MemberAddress.Yaml.Tag
import MemberAddress.Yaml.Token

/-!
# Nodes

The tokens of a document form nodes: scalars, sequences and mappings. A node may be named by an
anchor and then stand for each alias of that name, also inside itself, so nodes refer to one another
by number.

* `Yaml.Graph` are the nodes of a document, `Yaml.Node` is one of them;
* `Yaml.Graph.ofTokens` reads the nodes of the only document among the tokens.

The functions run on a count that the number of tokens bounds. None of them looks at a token before
it is needed, since the token may be broken.
-/

namespace MemberAddress.Yaml

/-! ### Graphs -/

/-- What a node holds; other nodes are given by number. -/
inductive Content
  | scalar (text : Text)
  | sequence (items : List Nat)
  | mapping (entries : List (Nat × Nat))
  deriving DecidableEq, Repr

/-- A node: its tag and what it holds. -/
structure Node where
  tag : Tag
  content : Content
  deriving DecidableEq, Repr

instance : Inhabited Node := ⟨⟨.null, .scalar []⟩⟩

/-- The nodes of a document by number. -/
abbrev Graph := Array Node

namespace Graph

/-- A node. -/
def node (g : Graph) (id : Nat) : Node := g.getD id default

/-- The graph with another content of a node. -/
def setContent (g : Graph) (id : Nat) (content : Content) : Graph :=
  g.setIfInBounds id { g.node id with content := content }

/-- The graph with another tag of a node. -/
def setTag (g : Graph) (id : Nat) (tag : Tag) : Graph :=
  g.setIfInBounds id { g.node id with tag := tag }

/-- The entries of a mapping; other nodes have none. -/
def entries (g : Graph) (id : Nat) : List (Nat × Nat) :=
  match (g.node id).content with
  | .mapping entries => entries
  | _ => []

end Graph

/-! ### Reading -/

/-- The state of reading: the tokens that are left, the nodes so far, and those named by anchors. -/
structure Reading where
  tokens : List Token
  graph : Graph
  anchors : List (Text × Nat)

namespace Reading

/-- The next token, if there is one. -/
def peek (r : Reading) : Except Error (Option Token) :=
  match r.tokens with
  | .broken e :: _ => .error e
  | token :: _ => .ok (some token)
  | [] => .ok none

/-- The state after the next token. -/
def skip (r : Reading) : Reading := { r with tokens := r.tokens.drop 1 }

/-- Whether the next token is one of the given ones. -/
def nextIs (r : Reading) (choice : List Token) : Except Error Bool :=
  r.peek.map fun token? => token?.any choice.contains

/-- The next token is the given one, and is passed over. -/
def expect (r : Reading) (token : Token) : Except Error Reading :=
  match r.peek with
  | .error e => .error e
  | .ok token? => if token? = some token then .ok r.skip else .error .malformed

/-- Adds a node. Its anchor must be new. -/
def add (r : Reading) (anchor : Option Text) (node : Node) : Except Error (Nat × Reading) :=
  let id := r.graph.size
  let r' := { r with graph := r.graph.push node }
  match anchor with
  | none => .ok (id, r')
  | some name =>
    if (r.anchors.lookup name).isSome then .error .malformed
    else .ok (id, { r' with anchors := (name, id) :: r.anchors })

/-- The state in which a node that was added has its content. -/
def fill (r : Reading) (id : Nat) (content : Content) : Reading :=
  { r with graph := r.graph.setContent id content }

end Reading

/-- The names that handles stand for. -/
abbrev Handles := List (Text × Text)

/-- The handles that every document knows. -/
def defaultHandles : Handles := [("!".toList, "!".toList), ("!!".toList, Tag.namespaceName)]

/-- The tag that asks for the look of a scalar, or the usual tag of another node. -/
def plainTag : Text := ['!']

/-- What stands before a node: an anchor and the full name of a tag. -/
structure Properties where
  anchor : Option Text
  tag : Option Text

namespace Properties

/-- Whether nothing stands before a node. -/
def isEmpty (p : Properties) : Bool := p.anchor.isNone && p.tag.isNone

/-- The tag of a scalar: its own, or by its look if it is plain, and that of a text otherwise. -/
def scalarTag (p : Properties) (text : Text) (plain : Bool) : Tag :=
  match p.tag with
  | none => if plain then .ofText text else .text
  | some name => if name = plainTag then .ofText text else .ofName name

/-- The tag of a sequence or mapping: its own, or the usual one. -/
def collectionTag (p : Properties) (usual : Tag) : Tag :=
  match p.tag with
  | none => usual
  | some name => if name = plainTag then usual else .ofName name

/-- The full name of a tag. -/
def fullName (handles : Handles) (handle : Option Text) (rest : Text) : Except Error Text :=
  match handle with
  | none => .ok rest
  | some handle => (orMalformed (handles.lookup handle)).map (· ++ rest)

/-- The anchor and tag before a node, in either order. -/
def read (handles : Handles) (r : Reading) : Except Error (Properties × Reading) := do
  match ← r.peek with
  | some (.anchor name) =>
    let r := r.skip
    match ← r.peek with
    | some (.tag handle rest) =>
      return (⟨some name, some (← fullName handles handle rest)⟩, r.skip)
    | _ => return (⟨some name, none⟩, r)
  | some (.tag handle rest) =>
    let r := r.skip
    match ← r.peek with
    | some (.anchor name) =>
      return (⟨some name, some (← fullName handles handle rest)⟩, r.skip)
    | _ => return (⟨none, some (← fullName handles handle rest)⟩, r)
  | _ => return (⟨none, none⟩, r)

end Properties

namespace Graph

/-- Where nodes stand: in a block, in a block as the value of a key, or between brackets. -/
inductive Place
  | block
  | blockValue
  | flow
  deriving DecidableEq

/-- How deeply nodes may be nested. -/
def depthLimit : Nat := 485

/-- A scalar. -/
def addScalar (p : Properties) (text : Text) (plain : Bool) (r : Reading) :
    Except Error (Nat × Reading) :=
  r.add p.anchor ⟨p.scalarTag text plain, .scalar text⟩

/-- The scalar that stands where nothing is written. -/
def addEmpty (r : Reading) : Except Error (Nat × Reading) := addScalar ⟨none, none⟩ [] true r

mutual
/-- A node at a place, inside `depth` others. -/
def parse (fuel : Nat) (handles : Handles) (depth : Nat) (place : Place) (r : Reading) :
    Except Error (Nat × Reading) :=
  match fuel with
  | 0 => .error .malformed
  | fuel + 1 => do
    match ← r.peek with
    | some (.alias name) => return (← orMalformed (r.anchors.lookup name), r.skip)
    | _ =>
      let (p, r) ← Properties.read handles r
      let depth := depth + 1
      let sequence (items : Reading → Except Error (List Nat × Reading)) (r : Reading) :
          Except Error (Nat × Reading) := do
        let (id, r) ← r.add p.anchor ⟨p.collectionTag .list, .sequence []⟩
        if depthLimit < depth then throw .tooDeep
        let (items, r) ← items r
        return (id, r.fill id (.sequence items))
      let mapping (entries : Reading → Except Error (List (Nat × Nat) × Reading)) (r : Reading) :
          Except Error (Nat × Reading) := do
        let (id, r) ← r.add p.anchor ⟨p.collectionTag .table, .mapping []⟩
        if depthLimit < depth then throw .tooDeep
        let (entries, r) ← entries r
        return (id, r.fill id (.mapping entries))
      match ← r.peek, place with
      | some (.scalar text plain), _ => addScalar p text plain r.skip
      | some .flowSequenceStart, _ => sequence (parseFlowItems fuel handles depth true) r.skip
      | some .flowMappingStart, _ => mapping (parseFlowEntries fuel handles depth true) r.skip
      | some .blockEntry, .blockValue => sequence (parseIndentlessItems fuel handles depth) r
      | some .blockSequenceStart, .block | some .blockSequenceStart, .blockValue =>
        sequence (parseBlockItems fuel handles depth) r.skip
      | some .blockMappingStart, .block | some .blockMappingStart, .blockValue =>
        mapping (parseBlockEntries fuel handles depth) r.skip
      | _, _ => if p.isEmpty then throw .malformed else addScalar p [] true r

/-- A node at a place, or the empty scalar before one of the given tokens. -/
def parseUnless (fuel : Nat) (handles : Handles) (depth : Nat) (stops : List Token)
    (place : Place) (r : Reading) : Except Error (Nat × Reading) :=
  match fuel with
  | 0 => .error .malformed
  | fuel + 1 => do
    if ← r.nextIs stops then addEmpty r else parse fuel handles depth place r

/-- The items of a sequence in a block, up to the end of the block. -/
def parseBlockItems (fuel : Nat) (handles : Handles) (depth : Nat) (r : Reading) :
    Except Error (List Nat × Reading) :=
  match fuel with
  | 0 => .error .malformed
  | fuel + 1 => do
    if ← r.nextIs [.blockEntry] then
      let (item, r) ←
        parseUnless fuel handles depth [.blockEntry, .blockEnd] .block r.skip
      let (items, r) ← parseBlockItems fuel handles depth r
      return (item :: items, r)
    else return ([], ← r.expect .blockEnd)

/-- The items of a sequence that is indented no further than its key. -/
def parseIndentlessItems (fuel : Nat) (handles : Handles) (depth : Nat) (r : Reading) :
    Except Error (List Nat × Reading) :=
  match fuel with
  | 0 => .error .malformed
  | fuel + 1 => do
    if ← r.nextIs [.blockEntry] then
      let (item, r) ←
        parseUnless fuel handles depth [.blockEntry, .key, .value, .blockEnd] .block r.skip
      let (items, r) ← parseIndentlessItems fuel handles depth r
      return (item :: items, r)
    else return ([], r)

/-- The entries of a mapping in a block, up to the end of the block. -/
def parseBlockEntries (fuel : Nat) (handles : Handles) (depth : Nat) (r : Reading) :
    Except Error (List (Nat × Nat) × Reading) :=
  match fuel with
  | 0 => .error .malformed
  | fuel + 1 => do
    if ← r.nextIs [.key] then
      let stops : List Token := [.key, .value, .blockEnd]
      let (key, r) ← parseUnless fuel handles depth stops .blockValue r.skip
      let (value, r) ←
        if ← r.nextIs [.value] then parseUnless fuel handles depth stops .blockValue r.skip
        else addEmpty r
      let (entries, r) ← parseBlockEntries fuel handles depth r
      return ((key, value) :: entries, r)
    else return ([], ← r.expect .blockEnd)

/-- The items of a sequence between brackets; a comma stands before every item but the first. An
item may be a mapping of one entry. -/
def parseFlowItems (fuel : Nat) (handles : Handles) (depth : Nat) (first : Bool) (r : Reading) :
    Except Error (List Nat × Reading) :=
  match fuel with
  | 0 => .error .malformed
  | fuel + 1 => do
    if ← r.nextIs [.flowSequenceEnd] then return ([], r.skip)
    let r ← if first then pure r else r.expect .flowEntry
    if ← r.nextIs [.flowSequenceEnd] then return ([], r.skip)
    let (item, r) ←
      if ← r.nextIs [.key] then
        let (id, r) ← r.skip.add none ⟨.table, .mapping []⟩
        if depthLimit < depth + 1 then throw .tooDeep
        let (entry, r) ← parseFlowPair fuel handles (depth + 1) .flowSequenceEnd r
        pure (id, r.fill id (.mapping [entry]))
      else parse fuel handles depth .flow r
    let (items, r) ← parseFlowItems fuel handles depth false r
    return (item :: items, r)

/-- A key and its value between brackets that the given token closes. -/
def parseFlowPair (fuel : Nat) (handles : Handles) (depth : Nat) (closing : Token) (r : Reading) :
    Except Error ((Nat × Nat) × Reading) :=
  match fuel with
  | 0 => .error .malformed
  | fuel + 1 => do
    let (key, r) ← parseUnless fuel handles depth [.value, .flowEntry, closing] .flow r
    let (value, r) ←
      if ← r.nextIs [.value] then
        parseUnless fuel handles depth [.flowEntry, closing] .flow r.skip
      else addEmpty r
    return ((key, value), r)

/-- The entries of a mapping between brackets. An entry without a colon has the empty scalar as its
value. -/
def parseFlowEntries (fuel : Nat) (handles : Handles) (depth : Nat) (first : Bool) (r : Reading) :
    Except Error (List (Nat × Nat) × Reading) :=
  match fuel with
  | 0 => .error .malformed
  | fuel + 1 => do
    if ← r.nextIs [.flowMappingEnd] then return ([], r.skip)
    let r ← if first then pure r else r.expect .flowEntry
    if ← r.nextIs [.flowMappingEnd] then return ([], r.skip)
    let (entry, r) ←
      if ← r.nextIs [.key] then parseFlowPair fuel handles depth .flowMappingEnd r.skip
      else do
        let (key, r) ← parse fuel handles depth .flow r
        let (value, r) ← addEmpty r
        pure ((key, value), r)
    let (entries, r) ← parseFlowEntries fuel handles depth false r
    return (entry :: entries, r)
end

/-! ### Documents -/

/-- What directives said so far: whether one gave a version, and the handles. -/
structure Directives where
  versioned : Bool
  handles : Handles

/-- The state after the directives of a document. A version other than 1 is refused, and so are a
second version and a second meaning of a handle. -/
def readDirectives (d : Directives) : List Token → Except Error (Directives × List Token)
  | .directive (.version major _) :: rest =>
    if d.versioned || major != 1 then .error .malformed
    else readDirectives { d with versioned := true } rest
  | .directive (.handle name start) :: rest =>
    if (d.handles.lookup name).isSome then .error .malformed
    else readDirectives { d with handles := (name, start) :: d.handles } rest
  | .directive .other :: rest => readDirectives d rest
  | rest => .ok (d, rest)

/-- Whether the next token is a directive. -/
def nextIsDirective (r : Reading) : Except Error Bool :=
  r.peek.map fun token? => match token? with
    | some (.directive _) => true
    | _ => false

/-- The content of a document after its start mark; it may be empty. -/
def parseContent (fuel : Nat) (handles : Handles) (r : Reading) : Except Error (Nat × Reading) := do
  if (← nextIsDirective r) || (← r.nextIs [.documentStart, .documentEnd]) || r.tokens.isEmpty then
    addEmpty r
  else parse fuel handles 0 .block r

/-- A document that starts with directives or a mark. -/
def parseMarked (fuel : Nat) (r : Reading) : Except Error (Nat × Reading) := do
  let (d, tokens) ← readDirectives ⟨false, []⟩ r.tokens
  let r ← { r with tokens := tokens }.expect .documentStart
  parseContent fuel (d.handles ++ defaultHandles) r

/-- A document. -/
def parseDocument (fuel : Nat) (r : Reading) : Except Error (Nat × Reading) := do
  if (← nextIsDirective r) || (← r.nextIs [.documentStart]) then parseMarked fuel r
  else parse fuel defaultHandles 0 .block r

/-- Nothing but ends of documents is left. Directives that follow are read before they are
refused. -/
def expectEnd (tokens : List Token) : Except Error Unit := do
  let rest := tokens.dropWhile (· == .documentEnd)
  let (_, after) ← readDirectives ⟨false, []⟩ rest
  match after with
  | [] => if rest.isEmpty then return () else throw .malformed
  | .broken e :: _ => throw e
  | _ => throw .malformed

/-- The nodes of the only document among the tokens, with the number of the outermost; none without
any tokens. -/
def ofTokens (tokens : List Token) : Except Error (Option (Nat × Graph)) := do
  if tokens.isEmpty then return none
  let (root, r) ← parseDocument (4 * tokens.length + 4) ⟨tokens, #[], []⟩
  expectEnd r.tokens
  return some (root, r.graph)

end Graph

end MemberAddress.Yaml

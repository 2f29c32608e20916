import NetSession.Yaml.Token

/-!
# Nodes of YAML

`Document.ofText` reads a text as one document: a tree of scalars, sequences and mappings, whose
aliases refer to anchored nodes by number. An anchored node gets the count of anchor names so far as
its number, so a name that is used again can make a later node share a number; the latest node with
a number is the one that aliases of that number mean.
-/

namespace NetSession.Yaml

/-- A node of a document. -/
inductive Node where
  /-- A text, with its style and the expansion of its tag. -/
  | scalar (text : List Char) (style : Style) (tag : Option Bytes)
  /-- A sequence. -/
  | sequence (items : List Node)
  /-- A mapping, with its entries in order. -/
  | mapping (entries : List (Node × Node))
  /-- A reference to the anchored node of a number. -/
  | alias (number : Nat)

/-- The scalar that stands where nothing is written. -/
def Node.empty : Node := .scalar [] .plain none

/-- The state of building nodes from tokens. -/
structure Builder where
  /-- The tokens that are left. -/
  tokens : List Token
  /-- The declared tag handles with their expansions. -/
  handles : List (Bytes × Bytes)
  /-- The anchor names with their numbers. -/
  anchors : List (String × Nat)
  /-- The order in which anchored nodes start: for each, its number. -/
  started : List Nat
  /-- The anchored nodes that are complete, by the place of their start in that order. -/
  nodes : List (Nat × Node)

namespace Builder

/-- A step that builds something. -/
abbrev Build := StateT Builder (Except Fault)

/-- The next token. -/
def peek : Build (Option Token) := do return (← get).tokens.head?

/-- Passes the next token. -/
def advance : Build Unit := modify fun b => { b with tokens := b.tokens.tail }

/-- Ends with a token where another is needed. -/
def refuse : Build α := throw .unexpectedToken

/-- The properties before a node: an anchor and a tag, in either order. -/
structure Properties where
  /-- The anchor's name. -/
  anchor : Option String
  /-- The tag's handle and suffix. -/
  tag : Option (Bytes × Bytes)

/-- Reads the properties before a node. -/
def properties : Build Properties := do
  match ← peek with
  | some (.anchor name) =>
    advance
    match ← peek with
    | some (.tag handle suffix) => advance; return ⟨some name, some (handle, suffix)⟩
    | _ => return ⟨some name, none⟩
  | some (.tag handle suffix) =>
    advance
    match ← peek with
    | some (.anchor name) => advance; return ⟨some name, some (handle, suffix)⟩
    | _ => return ⟨none, some (handle, suffix)⟩
  | _ => return ⟨none, none⟩

/-- The expansion of a tag. -/
def expand (tag : Bytes × Bytes) : Build Bytes := do
  if tag.1 = [] then return tag.2
  match (← get).handles.lookup tag.1 with
  | some expansion => return expansion ++ tag.2
  | none => throw .unknownHandle

/-- Numbers the anchored node that starts here; gives its place among the anchored nodes. -/
def startAnchored (name : String) : Build Nat := do
  let b ← get
  let number := b.anchors.length
  set { b with
    anchors := (name, number) :: b.anchors.filter (·.1 != name)
    started := b.started ++ [number] }
  return b.started.length

/-- Records that an anchored node is complete. -/
def finishAnchored (place : Option Nat) (node : Node) : Build Unit :=
  match place with
  | some place => modify fun b => { b with nodes := (place, node) :: b.nodes }
  | none => pure ()

/-- Whether a token ends the place for a key or value of a block mapping. -/
def endsBlockPart : Option Token → Bool
  | some .key | some .value | some .blockEnd => true
  | _ => false

/-- Whether a token ends the place for an entry of a flow sequence. -/
def endsFlowItem : Option Token → Bool
  | some .flowEntry | some .flowSequenceEnd => true
  | _ => false

/-- Whether a token ends the place for a value of a flow mapping. -/
def endsFlowPart : Option Token → Bool
  | some .flowEntry | some .flowMappingEnd => true
  | _ => false

mutual

/-- Builds a node. A block collection may start where `block` holds, and a sequence without its own
indentation where `indentless` does. `fuel` bounds the steps. -/
def node (fuel : Nat) (block indentless : Bool) : Build Node := do
  match fuel with
  | 0 => refuse
  | fuel + 1 =>
    if let some (.alias name) ← peek then
      advance
      match (← get).anchors.lookup name with
      | some number => return .alias number
      | none => throw .unknownAnchor
    let p ← properties
    let tag ← match p.tag with
      | some tag => pure (some (← expand tag))
      | none => pure none
    let place ← match p.anchor with
      | some name => pure (some (← startAnchored name))
      | none => pure none
    let built ← match ← peek with
      | some .blockEntry =>
        if indentless then Node.sequence <$> indentlessItems fuel
        else if p.anchor.isSome ∨ tag.isSome then pure (.scalar [] .plain tag) else refuse
      | some (.scalar text style) => advance; pure (Node.scalar text style tag)
      | some .flowSequenceStart => advance; Node.sequence <$> flowItems fuel true
      | some .flowMappingStart => advance; Node.mapping <$> flowEntries fuel true
      | some .blockSequenceStart =>
        if block then advance; Node.sequence <$> blockItems fuel
        else if p.anchor.isSome ∨ tag.isSome then pure (.scalar [] .plain tag) else refuse
      | some .blockMappingStart =>
        if block then advance; Node.mapping <$> blockEntries fuel
        else if p.anchor.isSome ∨ tag.isSome then pure (.scalar [] .plain tag) else refuse
      | _ =>
        if p.anchor.isSome ∨ tag.isSome then pure (.scalar [] .plain tag) else refuse
    finishAnchored place built
    return built

/-- Builds the entries of an indented sequence. -/
def blockItems (fuel : Nat) : Build (List Node) := do
  match fuel with
  | 0 => refuse
  | fuel + 1 =>
    match ← peek with
    | some .blockEntry =>
      advance
      let item ← match ← peek with
        | some .blockEntry | some .blockEnd => pure .empty
        | _ => node fuel true false
      return item :: (← blockItems fuel)
    | some .blockEnd => advance; return []
    | _ => refuse

/-- Builds the entries of a sequence that stands at the indentation of the mapping around it. -/
def indentlessItems (fuel : Nat) : Build (List Node) := do
  match fuel with
  | 0 => refuse
  | fuel + 1 =>
    match ← peek with
    | some .blockEntry =>
      advance
      let item ← match ← peek with
        | some .blockEntry | some .key | some .value | some .blockEnd => pure .empty
        | _ => node fuel true false
      return item :: (← indentlessItems fuel)
    | _ => return []

/-- Builds the entries of an indented mapping. -/
def blockEntries (fuel : Nat) : Build (List (Node × Node)) := do
  match fuel with
  | 0 => refuse
  | fuel + 1 =>
    match ← peek with
    | some .key =>
      advance
      let key ← if endsBlockPart (← peek) then pure .empty else node fuel true true
      let value ← blockValue fuel
      return (key, value) :: (← blockEntries fuel)
    | some .blockEnd => advance; return []
    | _ => refuse

/-- Builds the value of an entry of an indented mapping. -/
def blockValue (fuel : Nat) : Build Node := do
  match fuel with
  | 0 => refuse
  | fuel + 1 =>
    match ← peek with
    | some .value =>
      advance
      if endsBlockPart (← peek) then pure .empty else node fuel true true
    | _ => pure .empty

/-- Builds the entries of a flow sequence. -/
def flowItems (fuel : Nat) (first : Bool) : Build (List Node) := do
  match fuel with
  | 0 => refuse
  | fuel + 1 =>
    if (← peek) = some .flowSequenceEnd then
      advance
      return []
    if !first then
      if (← peek) = some .flowEntry then advance else refuse
    match ← peek with
    | some .flowSequenceEnd => advance; return []
    | some .key =>
      advance
      let pair ← flowPair fuel
      return .mapping [pair] :: (← flowItems fuel false)
    | _ =>
      let item ← node fuel false false
      return item :: (← flowItems fuel false)

/-- Builds the one entry of a mapping that stands in a flow sequence without braces. -/
def flowPair (fuel : Nat) : Build (Node × Node) := do
  match fuel with
  | 0 => refuse
  | fuel + 1 =>
    let next ← peek
    let key ←
      if endsFlowItem next ∨ next = some .value then do
        advance
        pure Node.empty
      else node fuel false false
    if (← peek) = some .value then
      advance
      let value ← if endsFlowItem (← peek) then pure .empty else node fuel false false
      return (key, value)
    else return (key, .empty)

/-- Builds the entries of a flow mapping. -/
def flowEntries (fuel : Nat) (first : Bool) : Build (List (Node × Node)) := do
  match fuel with
  | 0 => refuse
  | fuel + 1 =>
    if (← peek) = some .flowMappingEnd then
      advance
      return []
    if !first then
      if (← peek) = some .flowEntry then advance else refuse
    match ← peek with
    | some .flowMappingEnd => advance; return []
    | some .key =>
      advance
      let next ← peek
      let key ←
        if endsFlowPart next ∨ next = some .value then pure .empty else node fuel false false
      let value ← flowValue fuel
      return (key, value) :: (← flowEntries fuel false)
    | _ =>
      let key ← node fuel false false
      return (key, .empty) :: (← flowEntries fuel false)

/-- Builds the value of an entry of a flow mapping. -/
def flowValue (fuel : Nat) : Build Node := do
  match fuel with
  | 0 => refuse
  | fuel + 1 =>
    if (← peek) = some .value then
      advance
      if endsFlowPart (← peek) then pure .empty else node fuel false false
    else pure .empty

end

/-- The handles that need no declaration. -/
def defaultHandles : List (Bytes × Bytes) :=
  [(Scanner.bytesOf ['!'], Scanner.bytesOf ['!']),
    (Scanner.bytesOf ['!', '!'], Scanner.bytesOf "tag:yaml.org,2002:".toList)]

/-- Reads the directives before a document, in at most `fuel` steps: `versioned` says whether the
version was declared. -/
def directives : Nat → Bool → List (Bytes × Bytes) → Build (List (Bytes × Bytes))
  | 0, _, handles => pure handles
  | fuel + 1, versioned, handles => do
    match ← peek with
    | some (.version major minor) =>
      if versioned then throw .badDirective
      if major ≠ 1 ∨ (minor ≠ 1 ∧ minor ≠ 2) then throw .unsupportedVersion
      advance
      directives fuel true handles
    | some (.handle name expansion) =>
      if (handles.lookup name).isSome then throw .badDirective
      advance
      directives fuel versioned (handles ++ [(name, expansion)])
    | _ => return handles

/-- Whether a token stands before a document. -/
def isDirective : Option Token → Bool
  | some (.version ..) | some (.handle ..) => true
  | _ => false

/-- Builds the only document, if there is any. -/
def document (fuel : Nat) : Build (Option Node) := do
  let first ← peek
  if first = none then return none
  let explicit := isDirective first || first == some .documentStart
  let handles ← directives fuel false []
  modify fun b => { b with handles := handles ++ defaultHandles }
  if explicit then
    if (← peek) = some .documentStart then advance else refuse
  let next ← peek
  let root ←
    if explicit ∧ (isDirective next ∨ next = some .documentStart ∨ next = some .documentEnd
        ∨ next = none) then
      pure Node.empty
    else node fuel true false
  modify fun b => { b with tokens := b.tokens.dropWhile (· == .documentEnd) }
  if (← peek) = none then return some root else throw .severalDocuments

end Builder

/-- A document: its root and what its aliases refer to. -/
structure Document where
  /-- The root; none in a text without a document. -/
  root : Option Node
  /-- The anchored nodes, by number. -/
  anchored : List (Nat × Node)

namespace Document

/-- Reads a text that holds at most one document. -/
def ofText (text : List Char) : Except Fault Document := do
  let tokens ← Token.ofText text
  let fuel := 8 * (tokens.length + 2)
  let (root, b) ← (Builder.document fuel).run ⟨tokens, [], [], [], []⟩
  let places := b.started.zipIdx.reverse
  let anchored := places.filterMap fun (number, place) =>
    (b.nodes.lookup place).map (number, ·)
  return ⟨root, anchored⟩

/-- The node that a node stands for. -/
def follow (d : Document) : Node → Node
  | .alias number => (d.anchored.lookup number).getD .empty
  | node => node

end Document

end NetSession.Yaml

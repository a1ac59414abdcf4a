import ToolFlow.Yaml.TokenStream
import ToolFlow.Yaml.Tag

/-!
# The nodes of YAML documents

A document is made of tagged nodes that refer to each other by number. A node without a tag gets one
from its text when it is a plain scalar, and the tag of its kind otherwise. An alias stands for the
node that its anchor names, and may do so inside that very node.

Nodes are read from tokens by functions that call each other, one for each place in the grammar
where something may stand: items and entries of blocks, and items and entries between brackets, each
of which may be left out. They all take a bound on their calls, a few for each token. A collection
gets its number before its parts are read, so that these can refer to it.

Documents are read one after the other, and what was read before an obstacle is kept (`outlines`):
the obstacle may come after documents that are wrong in another way, and then they are reported
first.
-/

namespace ToolFlow.Yaml

/-- A node of a document; the nodes in it are given by their numbers. -/
inductive Node where
  | scalar (tag text : String)
  | sequence (tag : String) (items : List Nat)
  | mapping (tag : String) (entries : List (Nat × Nat))

/-- The tag of a node. -/
def Node.tag : Node → String
  | scalar tag _ => tag
  | sequence tag _ => tag
  | mapping tag _ => tag

/-- The node in place of a number that no node has. -/
instance : Inhabited Node := ⟨.scalar Tag.null ""⟩

/-- The nodes of a document by their numbers. -/
abbrev Nodes := Array Node

/-- The node with a number. -/
def Nodes.node (nodes : Nodes) (n : Nat) : Node := (nodes[n]?).getD default

/-- A document as nodes, with the number of the one that holds all others. -/
structure Outline where
  nodes : Nodes
  root : Nat

/-- How far the nodes of a document have been read. -/
structure Composition where
  tokens : List Token
  nodes : Nodes := #[]
  /-- The nodes that have been named. -/
  anchors : List (String × Nat) := []

/-- What a document is read with: the obstacle after its last token, and the handles of tags. -/
structure Composition.Setting where
  obstacle : Obstacle
  handles : List (String × String)

/-- Reading that takes tokens and may meet an obstacle. -/
abbrev Composing := StateT Composition (Except Obstacle)

namespace Composing

/-- The next token, or the obstacle in its place. -/
def peek (setting : Composition.Setting) : Composing Token := do
  match (← get).tokens with
  | token :: _ => return token
  | [] => throw setting.obstacle

/-- Passes over the next token. -/
def drop : Composing Unit :=
  modify fun state => { state with tokens := state.tokens.tail }

/-- The text is not YAML. -/
def fail {α : Type} : Composing α := throw .malformed

/-- What stands before a node: its name and its tag. -/
structure Properties where
  name : Option String := none
  tag : Option String := none

/-- The tag of a handle and a suffix. -/
def wholeTag (setting : Composition.Setting) : Option String → String → Composing String
  | none, suffix => return suffix
  | some handle, suffix =>
    match setting.handles.lookup handle with
    | some start => return start ++ suffix
    | none => fail

/-- The name and the tag before a node, in either order. -/
def properties (setting : Composition.Setting) : Composing Properties := do
  match ← peek setting with
  | .anchor name =>
    drop
    match ← peek setting with
    | .tag handle suffix =>
      drop
      return { name := some name, tag := some (← wholeTag setting handle suffix) }
    | _ => return { name := some name }
  | .tag handle suffix =>
    drop
    match ← peek setting with
    | .anchor name =>
      drop
      return { name := some name, tag := some (← wholeTag setting handle suffix) }
    | _ => return { tag := some (← wholeTag setting handle suffix) }
  | _ => return {}

/-- Adds a node under a name that may not have been given before, if there is one. -/
def add (name : Option String) (node : Node) : Composing Nat := do
  let state ← get
  let n := state.nodes.size
  match name with
  | none => set { state with nodes := state.nodes.push node }
  | some name =>
    if (state.anchors.lookup name).isSome then fail
    else set { state with nodes := state.nodes.push node, anchors := (name, n) :: state.anchors }
  return n

/-- Adds a collection whose parts are yet to be read; they may refer to it. -/
def addAround (name : Option String) (parts : Composing Node) : Composing Nat := do
  let n ← add name default
  let node ← parts
  modify fun state => { state with nodes := state.nodes.setIfInBounds n node }
  return n

/-- The tag of a collection. -/
def collectionTag (default : String) (props : Properties) : String :=
  match props.tag with
  | none => default
  | some "!" => default
  | some tag => tag

/-- A scalar with its tag. -/
def scalarNode (props : Properties) (text : String) (isPlain : Bool) : Node :=
  match props.tag with
  | none => .scalar (if isPlain then Tag.ofPlain text else Tag.text) text
  | some "!" => .scalar (Tag.ofPlain text) text
  | some tag => .scalar tag text

/-- The node of an absent value. -/
def absent : Composing Nat := add none (.scalar Tag.null "")

/-- The node that an alias stands for. -/
def aliased (name : String) : Composing Nat := do
  match (← get).anchors.lookup name with
  | some n => return n
  | none => fail

/-- Whether nothing stands between this token and the one before it in a block mapping. -/
def endsBlockPart : Token → Bool
  | .key | .value | .blockEnd => true
  | _ => false

/-- Whether nothing stands between this token and the one before it in a sequence without
indentation of its own. -/
def endsIndentlessItem : Token → Bool
  | .blockEntry | .key | .value | .blockEnd => true
  | _ => false

/-- Whether a token ends an entry inside brackets. -/
def endsFlowEntry (inMapping : Bool) : Token → Bool
  | .flowEntry => true
  | .flowSequenceEnd => !inMapping
  | .flowMappingEnd => inMapping
  | _ => false

/-- Whether nothing stands between this token and the mark of a key inside brackets. -/
def endsFlowKey (inMapping : Bool) : Token → Bool
  | .value => true
  | token => endsFlowEntry inMapping token

mutual

/-- A node; only in a block may it be a block collection, and only as a value or key of a block
mapping a sequence without indentation of its own. -/
def node (setting : Composition.Setting) (inBlock indentless : Bool) : Nat → Composing Nat
  | 0 => fail
  | fuel + 1 => do
    match ← peek setting with
    | .alias name =>
      drop
      aliased name
    | _ =>
      let props ← properties setting
      let token ← peek setting
      let sequence (items : Composing (List Nat)) : Composing Nat :=
        addAround props.name (.sequence (collectionTag Tag.sequence props) <$> items)
      let mapping (entries : Composing (List (Nat × Nat))) : Composing Nat :=
        addAround props.name (.mapping (collectionTag Tag.mapping props) <$> entries)
      match token, inBlock, indentless with
      | .blockEntry, _, true => sequence (indentlessItems setting fuel)
      | .scalar text isPlain, _, _ =>
        drop
        add props.name (scalarNode props text isPlain)
      | .flowSequenceStart, _, _ =>
        drop
        sequence (flowItems setting true fuel)
      | .flowMappingStart, _, _ =>
        drop
        mapping (flowEntries setting true fuel)
      | .blockSequenceStart, true, _ =>
        drop
        sequence (blockItems setting fuel)
      | .blockMappingStart, true, _ =>
        drop
        mapping (blockEntries setting fuel)
      | _, _, _ =>
        if props.name.isNone && props.tag.isNone then fail
        else add props.name (scalarNode props "" props.tag.isNone)

/-- The items of a block sequence. -/
def blockItems (setting : Composition.Setting) : Nat → Composing (List Nat)
  | 0 => fail
  | fuel + 1 => do
    match ← peek setting with
    | .blockEntry =>
      drop
      let item ← match ← peek setting with
        | .blockEntry | .blockEnd => absent
        | _ => node setting true false fuel
      let rest ← blockItems setting fuel
      return item :: rest
    | .blockEnd =>
      drop
      return []
    | _ => fail

/-- The items of a sequence without indentation of its own. -/
def indentlessItems (setting : Composition.Setting) : Nat → Composing (List Nat)
  | 0 => fail
  | fuel + 1 => do
    match ← peek setting with
    | .blockEntry =>
      drop
      let item ← if endsIndentlessItem (← peek setting) then absent
        else node setting true false fuel
      let rest ← indentlessItems setting fuel
      return item :: rest
    | _ => return []

/-- The entries of a block mapping. -/
def blockEntries (setting : Composition.Setting) : Nat → Composing (List (Nat × Nat))
  | 0 => fail
  | fuel + 1 => do
    match ← peek setting with
    | .key =>
      drop
      let key ← if endsBlockPart (← peek setting) then absent
        else node setting true true fuel
      let value ← blockValue setting fuel
      let rest ← blockEntries setting fuel
      return (key, value) :: rest
    | .blockEnd =>
      drop
      return []
    | _ => fail

/-- The value after a key of a block mapping. -/
def blockValue (setting : Composition.Setting) : Nat → Composing Nat
  | 0 => fail
  | fuel + 1 => do
    match ← peek setting with
    | .value =>
      drop
      if endsBlockPart (← peek setting) then absent
      else node setting true true fuel
    | _ => absent

/-- The items of a bracketed sequence; all but the first stand after a comma. A key makes an item
that is a mapping with one entry. -/
def flowItems (setting : Composition.Setting) (isFirst : Bool) : Nat → Composing (List Nat)
  | 0 => fail
  | fuel + 1 => do
    match ← peek setting, isFirst with
    | .flowSequenceEnd, _ =>
      drop
      return []
    | .flowEntry, false =>
      drop
      flowItem setting fuel
    | _, true => flowItem setting fuel
    | _, false => fail

/-- One item of a bracketed sequence, unless it ends here, and the items after it. -/
def flowItem (setting : Composition.Setting) : Nat → Composing (List Nat)
  | 0 => fail
  | fuel + 1 => do
    match ← peek setting with
    | .flowSequenceEnd =>
      drop
      return []
    | .key =>
      drop
      let item ← addAround none (flowPairItem setting fuel)
      let rest ← flowItems setting false fuel
      return item :: rest
    | _ =>
      let item ← node setting false false fuel
      let rest ← flowItems setting false fuel
      return item :: rest

/-- The mapping of the one entry that an item of a bracketed sequence is. -/
def flowPairItem (setting : Composition.Setting) : Nat → Composing Node
  | 0 => fail
  | fuel + 1 => do
    let key ← if endsFlowKey false (← peek setting) then absent
      else node setting false false fuel
    let value ← flowValue setting false fuel
    return .mapping Tag.mapping [(key, value)]

/-- The value after a key inside brackets. -/
def flowValue (setting : Composition.Setting) (inMapping : Bool) : Nat → Composing Nat
  | 0 => fail
  | fuel + 1 => do
    match ← peek setting with
    | .value =>
      drop
      if endsFlowEntry inMapping (← peek setting) then absent
      else node setting false false fuel
    | _ => absent

/-- The entries of a bracketed mapping; all but the first stand after a comma. -/
def flowEntries (setting : Composition.Setting) (isFirst : Bool) :
    Nat → Composing (List (Nat × Nat))
  | 0 => fail
  | fuel + 1 => do
    match ← peek setting, isFirst with
    | .flowMappingEnd, _ =>
      drop
      return []
    | .flowEntry, false =>
      drop
      flowPair setting fuel
    | _, true => flowPair setting fuel
    | _, false => fail

/-- One entry of a bracketed mapping, unless it ends here, and the entries after it. -/
def flowPair (setting : Composition.Setting) : Nat → Composing (List (Nat × Nat))
  | 0 => fail
  | fuel + 1 => do
    match ← peek setting with
    | .flowMappingEnd =>
      drop
      return []
    | .key =>
      drop
      let key ← if endsFlowKey true (← peek setting) then absent
        else node setting false false fuel
      let value ← flowValue setting true fuel
      let rest ← flowEntries setting false fuel
      return (key, value) :: rest
    | _ =>
      let key ← node setting false false fuel
      let value ← absent
      let rest ← flowEntries setting false fuel
      return (key, value) :: rest

end

/-! ### Documents -/

/-- The handles that every document has. -/
def defaultHandles : List (String × String) :=
  [("!", "!"), ("!!", Tag.common)]

/-- The directives before a document, and the handles of tags they declare. -/
def directives (setting : Composition.Setting) (versioned : Bool)
    (handles : List (String × String)) : Nat → Composing (List (String × String))
  | 0 => fail
  | fuel + 1 => do
    match ← peek setting with
    | .directive (.version major) =>
      drop
      if versioned || major != 1 then fail else directives setting true handles fuel
    | .directive (.tagHandle handle start) =>
      drop
      if (handles.lookup handle).isSome then fail
      else directives setting versioned ((handle, start) :: handles) fuel
    | .directive .other =>
      drop
      directives setting versioned handles fuel
    | _ => return handles ++ defaultHandles

/-- Passes over the marks of ended documents. -/
def dropEnds (setting : Composition.Setting) : Nat → Composing Unit
  | 0 => fail
  | fuel + 1 => do
    match ← peek setting with
    | .documentEnd =>
      drop
      dropEnds setting fuel
    | _ => return

/-- The node of a document after its mark, which may be missing. -/
def content (setting : Composition.Setting) (fuel : Nat) : Composing Nat := do
  match ← peek setting with
  | .directive _ | .documentStart | .documentEnd | .streamEnd => absent
  | _ => node setting true false fuel

/-- Passes over the mark that ends a document, if there is one. -/
def endDocument (setting : Composition.Setting) : Composing Unit := do
  match ← peek setting with
  | .documentEnd => drop
  | _ => return

/-- A document that starts without a mark. -/
def bareDocument (setting : Composition.Setting) (fuel : Nat) : Composing Nat := do
  let root ← node setting true false fuel
  endDocument setting
  return root

/-- A document that starts with a mark, if there is one. -/
def markedDocument? (setting : Composition.Setting) (fuel : Nat) : Composing (Option Nat) := do
  dropEnds setting fuel
  match ← peek setting with
  | .streamEnd => return none
  | _ =>
    let handles ← directives setting false [] fuel
    match ← peek setting with
    | .documentStart =>
      drop
      let root ← content { setting with handles := handles } fuel
      endDocument setting
      return some root
    | _ => fail

/-- The next document; only the first one may start without a mark. -/
def document? (setting : Composition.Setting) (isFirst : Bool) (fuel : Nat) :
    Composing (Option Nat) := do
  match ← peek setting, isFirst with
  | .directive _, _ | .documentStart, _ | .streamEnd, _ | _, false =>
    markedDocument? setting fuel
  | _, true => some <$> bareDocument setting fuel

end Composing

/-- The documents from the given tokens on, and the obstacle that ended the reading, if one
did. -/
def documentsFrom (setting : Composition.Setting) (size : Nat) (isFirst : Bool) :
    Nat → List Token → List Outline × Option Obstacle
  | 0, _ => ([], some .malformed)
  | fuel + 1, tokens =>
    match (Composing.document? setting isFirst size).run { tokens } with
    | .error obstacle => ([], some obstacle)
    | .ok (none, _) => ([], none)
    | .ok (some root, state) =>
      let (later, obstacle) := documentsFrom setting size false fuel state.tokens
      ({ nodes := state.nodes, root } :: later, obstacle)

/-- The documents of a text as nodes, and the obstacle that ended the reading, if one did. -/
def outlines (text : String) : List Outline × Option Obstacle :=
  let (tokens, obstacle) := tokensOf text
  let setting : Composition.Setting :=
    { obstacle := obstacle.getD .malformed, handles := Composing.defaultHandles }
  documentsFrom setting (4 * tokens.length + 4) true (tokens.length + 2) tokens

end ToolFlow.Yaml

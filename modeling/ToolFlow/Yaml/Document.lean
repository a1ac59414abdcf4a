import ToolFlow.Yaml.Datum
import ToolFlow.Yaml.ScalarValue
import ToolFlow.Yaml.SetOrder
import ToolFlow.Yaml.Takeover

/-!
# The data of documents

The data that nodes stand for. A collection gets its number when it is first met and its parts only
after those of all collections with smaller numbers, so data lie in layers and of several obstacles
the one in the first layer is reported. A node stands for the same data wherever it is referred to.

## What this rests on

`documents` is the safe loading of a stream of YAML 1.1, of which the following is taken to be so:

* the tag of a plain scalar is made out from its text alone, by the words and number forms of YAML
  1.1, where a truth value has six words, integers may be written in base sixty, and a day or a
  moment may be written as such; a quoted or a block scalar without a tag is a text;
* a tag is known only if it is one of the standard tags, and anything else is refused as no YAML;
* the text of a scalar is converted under its tag, and where it does not convert there is an
  obstacle of its own for each tag, but for bytes, whose failure counts as no YAML;
* an alias stands for the node of its anchor, also inside this node;
* a mapping takes over the entries under its merge signs, and of equal keys the first keeps its
  place and the last gives the value; collections are no keys.

Of these the theory of loading uses only that a text is read to a list of data or stopped by one
obstacle, and where an obstacle other than that of a text that is no YAML comes from
(`TextResists`). What the loader makes of data is stated for any data.

There is no limit to the nesting of collections. A reader on a machine has one, and what it does
there is left out. The bounds in the definitions are a matter of termination. One of them can be
met, that of default values, by a mapping that gives itself as its own, and there is an obstacle for
this.
-/

namespace ToolFlow.Yaml

/-- The tags whose nodes are collections. -/
def collectionTags : List String :=
  [Tag.sequence, Tag.mapping, Tag.set, Tag.pairs, Tag.orderedMap]

/-- How far the data of a document have been built. -/
structure Building where
  nodes : Nodes
  /-- What nodes stand for, by their numbers. -/
  known : Array (Option Part)
  /-- The nodes of the collections met so far. -/
  met : Array Nat := #[]
  /-- The collections whose parts are known: the first ones of those met. -/
  web : Web := #[]

/-- Building that may meet an obstacle. -/
abbrev Build := StateT Building (Except Obstacle)

namespace Build

/-- The node with a number. -/
def node (n : Nat) : Build Node := return (← get).nodes.node n

/-- The text of a node: its own, or that of the default value of a mapping. -/
def textOf : Nat → Nat → Build String
  | 0, _ => throw .endlessDefault
  | fuel + 1, n => do
    let b ← get
    match b.nodes.node n with
    | .scalar _ s => return s
    | .sequence _ _ => malformed
    | .mapping _ entries =>
      match entries.find? fun entry => (b.nodes.node entry.1).tag == Tag.value with
      | some (_, value) => textOf fuel value
      | none => malformed

/-- The scalar of a node with the tag of a scalar. -/
def scalar (n : Nat) : Build Scalar := do
  let b ← get
  let node := b.nodes.node n
  let s ← textOf (b.nodes.size + 1) n
  match node with
  | .scalar _ _ => scalarOf (n + 1) node.tag s
  | _ => if node.tag == Tag.timestamp then throw .timestampMapping else scalarOf (n + 1) node.tag s

/-- Remembers what a node stands for. -/
def remember (n : Nat) (part : Part) : Build Part := do
  modify fun b => { b with known := b.known.setIfInBounds n (some part) }
  return part

/-- Gives a collection the next number. -/
def meet (n : Nat) : Build Part := do
  let number := (← get).met.size
  modify fun b => { b with met := b.met.push n }
  return .collection number

/-- What a node stands for. -/
def part (n : Nat) : Build Part := do
  let b ← get
  match (b.known[n]?).join with
  | some part => return part
  | none =>
    let tag := (b.nodes.node n).tag
    if collectionTags.contains tag then remember n (← meet n)
    else if scalarTags.contains tag then remember n (.scalar (← scalar n))
    else malformed

/-- The entries of a mapping put together one after the other; collections are no keys. -/
def entries (found : List (Scalar × Part)) : List (Nat × Nat) → Build (List (Scalar × Part))
  | [] => return found
  | (key, value) :: rest => do
    match ← part key with
    | .scalar key => entries (Datum.put key (← part value) found) rest
    | _ => malformed

/-- The entries of the mapping with a number, with those that it takes over. -/
def mappingEntries (n : Nat) : Build (List (Scalar × Part)) := do
  let b ← get
  match b.nodes.node n with
  | .mapping _ _ =>
    let (all, nodes) ← (Settling.settledEntries n).run b.nodes
    set { b with nodes }
    entries [] all
  | _ => malformed

/-- The items of the sequence with a number. -/
def items (n : Nat) : Build (List Nat) := do
  match ← node n with
  | .sequence _ items => return items
  | _ => malformed

/-- The pair that a mapping of one entry is. -/
def pair (n : Nat) : Build Part := do
  match ← node n with
  | .mapping _ [(key, value)] => return .pair (← part key) (← part value)
  | _ => malformed

/-- The collection of a node. -/
def collection (n : Nat) : Build Collection := do
  let tag := (← node n).tag
  if tag == Tag.mapping then return .mapping (← mappingEntries n)
  else if tag == Tag.set then
    return .set (SetOrder.ordered ((← mappingEntries n).map Prod.fst))
  else if tag == Tag.sequence then return .list (← (← items n).mapM part)
  else return .list (← (← items n).mapM pair)

/-- Finds the parts of all collections that are met. -/
def fill : Nat → Build Unit
  | 0 => malformed
  | fuel + 1 => do
    let b ← get
    match b.met[b.web.size]? with
    | none => return
    | some n =>
      let found ← collection n
      modify fun b => { b with web := b.web.push found }
      fill fuel

end Build

/-- The data of a document. -/
def Outline.datum (outline : Outline) : Except Obstacle Datum := do
  let size := outline.nodes.size
  let start : Building := { nodes := outline.nodes, known := Array.replicate size none }
  let (root, b) ← (do
    let root ← Build.part outline.root
    Build.fill (size + 1)
    return root : Build Part).run start
  return b.web.datum b.web.trees root

/-- The data of the documents of a text. An obstacle in a document comes before one in the text
after it. -/
def documents (text : String) : Except Obstacle (List Datum) := do
  let (found, obstacle) := outlines text
  let data ← found.mapM Outline.datum
  match obstacle with
  | some obstacle => throw obstacle
  | none => return data

end ToolFlow.Yaml

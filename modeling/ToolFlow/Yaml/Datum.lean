import ToolFlow.Yaml.Scalar

/-!
# Data of YAML documents

What a document holds: scalars, lists, pairs, sets and mappings. Data are trees as a rule. Only a
collection that contains itself, and one that leads to such a collection, is no tree: it is a knot,
given by its place among collections that refer to each other by number. A knot is looked into one
layer at a time, and its literal breaks off where a collection would come again inside itself.
-/

namespace ToolFlow.Yaml

/-! ### Collections that refer to each other -/

/-- What stands in a collection: a scalar, a collection by its number, or two such parts. -/
inductive Part where
  | scalar (s : Scalar)
  | collection (number : Nat)
  | pair (first second : Part)

/-- A collection with its parts. -/
inductive Collection where
  | list (items : List Part)
  | set (members : List Scalar)
  | mapping (entries : List (Scalar × Part))

/-- Collections, each known by its number. -/
abbrev Web := Array Collection

/-- The data of a document. -/
inductive Datum where
  | scalar (s : Scalar)
  | list (items : List Datum)
  | pair (first second : Datum)
  | set (members : List Scalar)
  | mapping (entries : List (Scalar × Datum))
  /-- The collection with a number, which leads to one that contains itself. -/
  | knot (web : Web) (number : Nat)

namespace Web

/-- The longest way down a web without coming to a collection twice, with pairs between. -/
def wayLength (web : Web) : Nat := 2 * web.size + 2

/-- The literal of a part inside the collections with the given numbers. -/
def literal (web : Web) : Nat → List Nat → Part → String
  | 0, _, _ => ""
  | fuel + 1, around, part =>
    match part with
    | .scalar s => s.literal
    | .pair a b =>
      "(" ++ commaSeparated [web.literal fuel around a, web.literal fuel around b] ++ ")"
    | .collection n =>
      let inside := web.literal fuel (n :: around)
      match web[n]?, around.contains n with
      | some (.list _), true => "[...]"
      | some (.list items), false => "[" ++ commaSeparated (items.map inside) ++ "]"
      | some (.mapping _), true => "\x7b...\x7d"
      | some (.mapping entries), false =>
        let parts := entries.map fun entry => entry.1.literal ++ ": " ++ inside entry.2
        "\x7b" ++ commaSeparated parts ++ "\x7d"
      | some (.set []), _ => "set()"
      | some (.set members), _ =>
        "\x7b" ++ commaSeparated (members.map Scalar.literal) ++ "\x7d"
      | none, _ => ""

/-- Whether a literal would hold an integer with too many digits. -/
def isOverlong (web : Web) : Nat → List Nat → Part → Bool
  | 0, _, _ => false
  | fuel + 1, around, part =>
    match part with
    | .scalar s => s.isOverlong
    | .pair a b => web.isOverlong fuel around a || web.isOverlong fuel around b
    | .collection n =>
      if around.contains n then false
      else
        match web[n]? with
        | some (.list items) => items.any (web.isOverlong fuel (n :: around))
        | some (.set members) => members.any Scalar.isOverlong
        | some (.mapping entries) =>
          entries.any fun entry =>
            entry.1.isOverlong || web.isOverlong fuel (n :: around) entry.2
        | none => false

/-- Why a part inside the collections with the given numbers has no written form. -/
def unwritable? (web : Web) : Nat → List Nat → Part → Option Obstacle
  | 0, _, _ => some .selfContaining
  | fuel + 1, around, part =>
    match part with
    | .scalar s => s.unwritable?
    | .pair a b =>
      (web.unwritable? fuel around a).orElse fun _ => web.unwritable? fuel around b
    | .collection n =>
      if around.contains n then some .selfContaining
      else
        match web[n]? with
        | some (.list items) => items.findSome? (web.unwritable? fuel (n :: around))
        | some (.set members) => members.findSome? Scalar.unwritable?
        | some (.mapping entries) =>
          entries.findSome? fun entry =>
            entry.1.unwritableKey?.orElse fun _ => web.unwritable? fuel (n :: around) entry.2
        | none => none

/-! ### Trees in a web -/

/-- The data of a part whose collections are known trees. -/
def treeOf? (trees : Array (Option Datum)) : Part → Option Datum
  | .scalar s => some (.scalar s)
  | .collection n => (trees[n]?).join
  | .pair a b => do return .pair (← treeOf? trees a) (← treeOf? trees b)

/-- The tree of a collection whose parts are known trees. -/
def treeOfCollection? (trees : Array (Option Datum)) : Collection → Option Datum
  | .list items => (items.mapM (treeOf? trees)).map .list
  | .set members => some (.set members)
  | .mapping entries =>
    (entries.mapM fun entry => (treeOf? trees entry.2).map (entry.1, ·)).map .mapping

/-- The known trees after another look at all collections, the last one first. -/
def lookAgain (web : Web) (trees : Array (Option Datum)) : Array (Option Datum) :=
  (List.range web.size).foldr (fun n trees =>
    if ((trees[n]?).join).isSome then trees
    else trees.setIfInBounds n ((web[n]?).bind (treeOfCollection? trees))) trees

/-- How many trees are known. -/
def knownCount (trees : Array (Option Datum)) : Nat :=
  (trees.toList.filterMap id).length

/-- The known trees after so many looks, or when a look finds no more. -/
def settle (web : Web) : Nat → Array (Option Datum) → Array (Option Datum)
  | 0, trees => trees
  | looks + 1, trees =>
    let later := web.lookAgain trees
    if knownCount later == knownCount trees then later else settle web looks later

/-- The trees of the collections that are trees. -/
def trees (web : Web) : Array (Option Datum) :=
  web.settle web.size (Array.replicate web.size none)

/-- The data of a part, given the trees. -/
def datum (web : Web) (trees : Array (Option Datum)) : Part → Datum
  | .scalar s => .scalar s
  | .collection n => ((trees[n]?).join).getD (.knot web n)
  | .pair a b => .pair (web.datum trees a) (web.datum trees b)

end Web

namespace Datum

/-! ### Scalars as data -/

@[match_pattern] abbrev null : Datum := scalar .null
@[match_pattern] abbrev bool (b : Bool) : Datum := scalar (.bool b)
@[match_pattern] abbrev number (n : Number) : Datum := scalar (.number n)
@[match_pattern] abbrev text (s : String) : Datum := scalar (.text s)
@[match_pattern] abbrev bytes (data : List UInt8) : Datum := scalar (.bytes data)

/-- The data with the outermost layer laid open: a knot becomes a collection of its parts. -/
def opened : Datum → Datum
  | knot web n =>
    let trees := web.trees
    match web[n]? with
    | some (.list items) => list (items.map (web.datum trees))
    | some (.set members) => set members
    | some (.mapping entries) =>
      mapping (entries.map fun entry => (entry.1, web.datum trees entry.2))
    | none => null
  | d => d

/-- Whether there is nothing in the data: null, false, zero, or empty. -/
def isVacant : Datum → Bool
  | scalar s => s.isVacant
  | list items => items.isEmpty
  | set members => members.isEmpty
  | mapping entries => entries.isEmpty
  | _ => false

/-- The entries with one more: in the place of the same key when there is one, else at the end. -/
def put {α : Type} (key : Scalar) (value : α) : List (Scalar × α) → List (Scalar × α)
  | [] => [(key, value)]
  | (k, v) :: rest => if k.sameKey key then (k, value) :: rest else (k, v) :: put key value rest

/-- The value of a text key. -/
def get? (name : String) (entries : List (Scalar × Datum)) : Option Datum :=
  (entries.find? fun entry => entry.1.sameKey (.text name)).map Prod.snd

/-- The value of a text key, or null. -/
def get (name : String) (entries : List (Scalar × Datum)) : Datum :=
  (get? name entries).getD null

/-! ### Literals -/

mutual

/-- The literal of data. -/
def literal : Datum → String
  | scalar s => s.literal
  | list items => "[" ++ commaSeparated (literals items) ++ "]"
  | pair a b => "(" ++ commaSeparated [literal a, literal b] ++ ")"
  | set [] => "set()"
  | set members => "\x7b" ++ commaSeparated (members.map Scalar.literal) ++ "\x7d"
  | mapping entries => "\x7b" ++ commaSeparated (entryLiterals entries) ++ "\x7d"
  | knot web n => web.literal web.wayLength [] (.collection n)

/-- The literals of items. -/
def literals : List Datum → List String
  | [] => []
  | d :: rest => literal d :: literals rest

/-- The literals of entries. -/
def entryLiterals : List (Scalar × Datum) → List String
  | [] => []
  | (key, v) :: rest => (key.literal ++ ": " ++ literal v) :: entryLiterals rest

end

/-- Data as plain text. -/
def display : Datum → String
  | scalar s => s.display
  | d => d.literal

mutual

/-- Whether the literal would hold an integer with too many digits. -/
def isOverlong : Datum → Bool
  | scalar s => s.isOverlong
  | list items => anyOverlong items
  | pair a b => isOverlong a || isOverlong b
  | set members => members.any Scalar.isOverlong
  | mapping entries => anyOverlongEntry entries
  | knot web n => web.isOverlong web.wayLength [] (.collection n)

/-- Whether an item has such a literal. -/
def anyOverlong : List Datum → Bool
  | [] => false
  | d :: rest => isOverlong d || anyOverlong rest

/-- Whether a key or a value has such a literal. -/
def anyOverlongEntry : List (Scalar × Datum) → Bool
  | [] => false
  | (key, v) :: rest => key.isOverlong || isOverlong v || anyOverlongEntry rest

end

/-- The text of data, unless an integer in it has too many digits. -/
def display? (d : Datum) : Option String :=
  if d.isOverlong then none else some d.display

/-! ### As values -/

mutual

/-- Data as a value: keys become names, and a knot, which no value is, nothing. -/
def value : Datum → Value
  | scalar s => s.value
  | list items => .list (values items)
  | pair a b => .list [value a, value b]
  | set members => .list (members.map Scalar.value)
  | mapping entries => .object (Fields.ofPairs (namedValues entries))
  | knot _ _ => .null

/-- Items as values. -/
def values : List Datum → List Value
  | [] => []
  | d :: rest => value d :: values rest

/-- Entries as named values. -/
def namedValues : List (Scalar × Datum) → List (String × Value)
  | [] => []
  | (key, v) :: rest => (key.keyName, value v) :: namedValues rest

end

mutual

/-- Why data have no written form: they contain themselves, bytes that are not a text, or a key
that is too long. -/
def unwritable? : Datum → Option Obstacle
  | scalar s => s.unwritable?
  | list items => unwritableItem? items
  | pair a b => (unwritable? a).orElse fun _ => unwritable? b
  | set members => members.findSome? Scalar.unwritable?
  | mapping entries => unwritableEntry? entries
  | knot web n => web.unwritable? web.wayLength [] (.collection n)

/-- Why the first item without a written form has none. -/
def unwritableItem? : List Datum → Option Obstacle
  | [] => none
  | d :: rest => (unwritable? d).orElse fun _ => unwritableItem? rest

/-- Why the first entry without a written form has none. -/
def unwritableEntry? : List (Scalar × Datum) → Option Obstacle
  | [] => none
  | (key, v) :: rest =>
    (key.unwritableKey?.orElse fun _ => unwritable? v).orElse fun _ => unwritableEntry? rest

end

mutual

/-- A value as data. -/
def ofValue : Value → Datum
  | .missing => null
  | .null => null
  | .bool b => bool b
  | .number n => number n
  | .text s => text s
  | .list items => list (ofValues items)
  | .object fields => mapping (ofFields fields)
  | .entity _ _ => null

/-- Values as items. -/
def ofValues : List Value → List Datum
  | [] => []
  | v :: rest => ofValue v :: ofValues rest

/-- Fields as entries. -/
def ofFields : List (String × Value) → List (Scalar × Datum)
  | [] => []
  | (name, v) :: rest => (.text name, ofValue v) :: ofFields rest

end

end Datum

end ToolFlow.Yaml

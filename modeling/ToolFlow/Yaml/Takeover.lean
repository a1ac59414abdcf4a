import ToolFlow.Yaml.Node
import ToolFlow.Yaml.ScalarText

/-!
# Mappings that take over entries

A mapping takes over the entries of the mappings that stand under its merge signs, one or several
under each sign. They come before its own entries, those of a later mapping under one sign before
those of an earlier one. The signs are struck out, also when a mapping takes over from one that it
stands in, so no sign is followed twice.
-/

namespace ToolFlow.Yaml

/-- Work on the nodes of a document that may meet an obstacle. -/
abbrev Settling := StateT Nodes (Except Obstacle)

namespace Settling

/-- Gives a number another node. -/
def replace (n : Nat) (node : Node) : Settling Unit :=
  modify fun nodes => nodes.setIfInBounds n node

/-- The entries of the mapping with a number; nothing else has any. -/
def entries (n : Nat) : Settling (List (Nat × Nat)) := do
  match (← get).node n with
  | .mapping _ entries => return entries
  | _ => return []

/-- Gives a mapping other entries. -/
def replaceEntries (n : Nat) (entries : List (Nat × Nat)) : Settling Unit := do
  replace n (.mapping ((← get).node n).tag entries)

/-- The first entry with a merge sign, and the entries without it. -/
def splitMerge (nodes : Nodes) : List (Nat × Nat) → Option (Nat × List (Nat × Nat))
  | [] => none
  | (key, value) :: rest =>
    if (nodes.node key).tag == Tag.merge then some (value, rest)
    else (splitMerge nodes rest).map fun (found, others) => (found, (key, value) :: others)

/-- Strikes out the first merge sign of a mapping; answers what stood under it. -/
def strike (n : Nat) : Settling (Option Nat) := do
  match splitMerge (← get) (← entries n) with
  | none => return none
  | some (value, others) =>
    replaceEntries n others
    return some value

/-- Makes text of a key that is the sign for a default value. -/
def plainKey (key : Nat) : Settling Unit := do
  match (← get).node key with
  | .scalar tag s => if tag == Tag.value then replace key (.scalar Tag.text s)
  | _ => return

mutual

/-- Settles the entries of a mapping: those it takes over, then its own. -/
def settle : Nat → Nat → Settling (List (Nat × Nat))
  | 0, _ => malformed
  | fuel + 1, n => do
    let taken ← takeOver fuel n
    let all := taken ++ (← entries n)
    all.forM fun entry => plainKey entry.1
    replaceEntries n all
    return all

/-- The entries that a mapping takes over, sign by sign. -/
def takeOver : Nat → Nat → Settling (List (Nat × Nat))
  | 0, _ => malformed
  | fuel + 1, n => do
    match ← strike n with
    | none => return []
    | some value =>
      let first ← match (← get).node value with
        | .mapping _ _ => settle fuel value
        | .sequence _ items => do
          let lists ← items.mapM fun item => do
            match (← get).node item with
            | .mapping _ _ => settle fuel item
            | _ => malformed
          pure lists.reverse.flatten
        | .scalar _ _ => malformed
      let rest ← takeOver fuel n
      return first ++ rest

end

/-- How many entries the nodes have, which bounds how far signs lead on. -/
def entryCount (nodes : Nodes) : Nat :=
  nodes.foldl (fun count node =>
    match node with
    | .mapping _ entries => count + entries.length
    | _ => count) 0

/-- The entries of a mapping once it has taken over those of others. -/
def settledEntries (n : Nat) : Settling (List (Nat × Nat)) := do
  settle (2 * entryCount (← get) + 4) n

end Settling

end ToolFlow.Yaml

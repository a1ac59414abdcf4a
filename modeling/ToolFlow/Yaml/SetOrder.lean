import ToolFlow.Yaml.Scalar

/-!
# The order of sets

A set of numbers has an order of its own, whatever the order in which they are written. Each number
has a residue, which is the same for equal numbers, and the residue a home in a table with a power
of two places, more than twice as many as there are numbers when they are five or more. A number
whose home is taken moves on: some places ahead, then to a place that depends on further digits of
the residue. All other sets keep the order in which they are written.
-/

namespace ToolFlow.Yaml.SetOrder

/-- The modulus of residues. -/
def modulus : Nat := 2 ^ 61 - 1

/-- The residue of an integer, with its sign; minus one has none of its own. -/
def signedResidue (negative : Bool) (magnitude : Nat) : Int :=
  let r : Int := (magnitude % modulus : Nat)
  if negative then (if r == 1 then -2 else -r) else r

/-- The residue of a number. One of its units of 2⁻¹⁰⁷⁴ has the residue 2²⁴, because 2⁶¹ has the
residue one. -/
def residue : Number → Int
  | .int n => signedResidue (n < 0) n.natAbs
  | .float (.finite negative rank) =>
    signedResidue negative (Binary64.unitsOfRank rank * 2 ^ 24)
  | .float (.infinite negative) => if negative then -314159 else 314159
  | .float (.nan _) => 0

/-- How many places the table of so many numbers has. -/
def tableSize (count : Nat) : Nat :=
  if count ≤ 4 then 8 else 2 ^ (Nat.log2 (2 * count) + 1)

/-- How many places after a place are looked at before another one is tried. -/
def reach (size place : Nat) : Nat :=
  if place + 9 < size then 9 else 0

/-- The first free place for a number, from a place on; the digits of its residue that are left
lead to the places tried next. -/
def freePlace? (table : Array (Option Scalar)) : Nat → Nat → Nat → Option Nat
  | 0, _, _ => none
  | fuel + 1, place, digits =>
    let near := (List.range (reach table.size place + 1)).map (place + ·)
    match near.find? fun p => ((table[p]?).join).isNone with
    | some p => some p
    | none =>
      let digits := digits / 2 ^ 5
      freePlace? table fuel ((place * 5 + 1 + digits) % table.size) digits

/-- A table with one more number. -/
def place (table : Array (Option Scalar)) (entry : Scalar × Number) : Array (Option Scalar) :=
  let digits := (residue entry.2 % 2 ^ 64).toNat
  match freePlace? table (table.size + 64) (digits % table.size) digits with
  | some p => table.setIfInBounds p (some entry.1)
  | none => table

/-- A member with its number, when it has one. -/
def numbered? (member : Scalar) : Option (Scalar × Number) :=
  match member.asNumber? with
  | some n => if n.isNaN then none else some (member, n)
  | none => none

/-- The members of a set in their order. -/
def ordered (members : List Scalar) : List Scalar :=
  match members.mapM numbered? with
  | none => members
  | some numbers =>
    let table := numbers.foldl place (Array.replicate (tableSize numbers.length) none)
    table.toList.filterMap id

end ToolFlow.Yaml.SetOrder

import ToolFlow.Value.Basic

/-!
# Equality of values

`strictEquals` compares values of one type structurally: numbers by their mathematical value,
objects regardless of the order of their fields, entities by identity. `looselyEquals` also lets a
truth value stand for zero or one, and takes an item of a collection to equal itself even when it is
not a number. What is not a number is known by its payload.

Both are recursions over the first value. Objects have the same fields when each has all names of
the other (`Fields.sameNames`) and every field of the first has an equal one in the second. Since
names are found by lookup, a name that stood twice would count by its first place; values that come
from data have every name once.

The two relations differ at one more point. Not a number differs from itself under both, so that
neither is reflexive, but inside a collection loose equality asks first whether two items are the
same occurrence, and strict equality does not.

How deep values are nested makes no difference here: a comparison on a machine fails beyond some
depth, and this limit is left out.
-/

namespace ToolFlow

/-- Whether two lists of named values have the same names. -/
def Fields.sameNames (a b : Fields) : Bool :=
  a.all (fun field => b.has field.1) && b.all (fun field => a.has field.1)

namespace Value

mutual

/-- Equality of value and type. -/
def strictEquals : Value → Value → Bool
  | missing, missing => true
  | null, null => true
  | bool a, bool b => a == b
  | number a, number b => a.same b
  | text a, text b => a == b
  | list a, list b => strictEqualsList a b
  | object a, object b => Fields.sameNames a b && strictEqualsFields a b
  | entity i _, entity j _ => i == j
  | _, _ => false

/-- Equality of lists, element by element. -/
def strictEqualsList : List Value → List Value → Bool
  | [], [] => true
  | a :: as, b :: bs => strictEquals a b && strictEqualsList as bs
  | _, _ => false

/-- Whether every field on the left has an equal one on the right. -/
def strictEqualsFields : List (String × Value) → List (String × Value) → Bool
  | [], _ => true
  | (name, a) :: rest, fields =>
    (match fields.lookup name with
      | some b => strictEquals a b
      | none => false) && strictEqualsFields rest fields

end

/-- The number that a truth value or a number stands for. -/
def asNumber? : Value → Option Number
  | bool b => some (.int (if b then 1 else 0))
  | number n => some n
  | _ => none

/-- Whether two values are one occurrence of what is not a number. -/
def sameNaN : Value → Value → Bool
  | number (.float (.nan i)), number (.float (.nan j)) => i == j
  | _, _ => false

mutual

/-- Equality in which truth values are the numbers zero and one. What is not a number differs from
itself here, but not as an item of a collection. -/
def looselyEquals : Value → Value → Bool
  | missing, missing => true
  | null, null => true
  | bool a, b =>
    match b.asNumber? with
    | some n => Number.same (.int (if a then 1 else 0)) n
    | none => false
  | number a, b =>
    match b.asNumber? with
    | some n => a.same n
    | none => false
  | text a, text b => a == b
  | list a, list b => looselyEqualsList a b
  | object a, object b => Fields.sameNames a b && looselyEqualsFields a b
  | entity i _, entity j _ => i == j
  | _, _ => false

/-- Loose equality of lists, item by item. -/
def looselyEqualsList : List Value → List Value → Bool
  | [], [] => true
  | a :: as, b :: bs => (sameNaN a b || looselyEquals a b) && looselyEqualsList as bs
  | _, _ => false

/-- Whether every field on the left has a loosely equal one on the right. -/
def looselyEqualsFields : List (String × Value) → List (String × Value) → Bool
  | [], _ => true
  | (name, a) :: rest, fields =>
    (match fields.lookup name with
      | some b => sameNaN a b || looselyEquals a b
      | none => false) && looselyEqualsFields rest fields

end

end Value

end ToolFlow

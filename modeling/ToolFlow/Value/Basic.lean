import ToolFlow.Number

/-!
# Values

What flows between tools: JSON data, the marker of an absent value, and entities, which are known by
their identity and show attributes. The fields of an object keep their order.

A value has no identity apart from entities. So two values with the same content are one, nothing is
shared between values, and no value contains itself. What a collaborator does to a value after it
has handed it over is seen by nobody else.

The absent value is not null. It is what a path yields that leads nowhere, so that a field which
holds null can be told from one that is not there, and it never stands inside data that was read.

## Main definitions

* `Value`: the values, with names in place of other keys of objects.
* `Fields`: named values in order, which also serve as arguments. A name is given a value by
  `Fields.put`, in its place when it has one, else at the end.
* `Value.isVacant`: values with nothing in them, which count as false where any value may stand.
-/

namespace ToolFlow

/-- A value. -/
inductive Value where
  /-- What a path that leads nowhere yields. -/
  | missing
  | null
  | bool (b : Bool)
  | number (n : Number)
  | text (s : String)
  | list (items : List Value)
  | object (fields : List (String × Value))
  /-- A thing that is neither data nor a collection: its attributes are read by name. -/
  | entity (id : Nat) (attributes : List (String × Value))

/-- Named values in order. -/
abbrev Fields := List (String × Value)

namespace Fields

/-- The value of a name. -/
def get? (name : String) (fields : Fields) : Option Value :=
  fields.lookup name

/-- Gives a name a value: in its place when it has one, else at the end. -/
def put (name : String) (value : Value) : Fields → Fields
  | [] => [(name, value)]
  | (key, old) :: rest =>
    if key == name then (key, value) :: rest else (key, old) :: put name value rest

/-- The first field decides, when it has the name. -/
theorem lookup_cons_eq_if (key first : String) (v : Value) (rest : Fields) :
    List.lookup key ((first, v) :: rest) = if key = first then some v else rest.lookup key := by
  by_cases h : key = first
  · simp [h]
  · rw [List.lookup_cons, beq_false_of_ne h, if_neg h]

/-- After a name was given a value, that name has it and all others are as before. -/
theorem get?_put (name key : String) (value : Value) (fields : Fields) :
    (put name value fields).get? key = if key = name then some value else fields.get? key := by
  unfold get?
  induction fields with
  | nil => simp only [put, lookup_cons_eq_if]
  | cons field rest ih =>
    obtain ⟨first, old⟩ := field
    by_cases hf : first = name
    · by_cases h : key = name <;> simp [put, lookup_cons_eq_if, hf, h]
    · by_cases h : key = first
      · simp [put, hf, h]
      · simp [put, lookup_cons_eq_if, hf, h, ih]

/-- The fields without a name. -/
def erase (name : String) (fields : Fields) : Fields :=
  fields.filter fun field => field.1 != name

/-- The names in order. -/
def names (fields : Fields) : List String :=
  fields.map Prod.fst

/-- Whether a name has a value. -/
def has (name : String) (fields : Fields) : Bool :=
  (fields.get? name).isSome

/-- The fields of a list of pairs in which a later pair overrides the value of an earlier one. -/
def ofPairs (pairs : List (String × Value)) : Fields :=
  pairs.foldl (fun fields pair => put pair.1 pair.2 fields) []

end Fields

namespace Value

/-- An integer value. -/
def int (n : Int) : Value := number (.int n)

/-- A natural number as a value. -/
def nat (n : Nat) : Value := number (.int n)

/-- A floating-point value. -/
def float (x : Binary64) : Value := number (.float x)

/-- A text, or null in its absence. -/
def ofText? : Option String → Value
  | some s => text s
  | none => null

/-- A number, or null in its absence. -/
def ofNat? : Option Nat → Value
  | some n => nat n
  | none => null

/-- Whether this is the marker of an absent value. -/
def isMissing : Value → Bool
  | missing => true
  | _ => false

/-- Whether this is null. -/
def isNull : Value → Bool
  | null => true
  | _ => false

/-- Whether a value has nothing in it: absent, null, false, zero, or empty. What is not a number
and an entity are not vacant. -/
def isVacant : Value → Bool
  | missing => true
  | null => true
  | bool b => !b
  | number n => n.isZero
  | text s => s.isEmpty
  | list items => items.isEmpty
  | object fields => fields.isEmpty
  | entity _ _ => false

/-- The named field of an object or attribute of an entity; nothing else has any. -/
def field? (name : String) : Value → Option Value
  | object fields => fields.lookup name
  | entity _ attributes => attributes.lookup name
  | _ => none

/-- The named field, or null in its absence. -/
def field (name : String) (v : Value) : Value :=
  (v.field? name).getD null

end Value

end ToolFlow

import ToolFlow.Value.Basic

/-!
# Kinds of values

The type names of JSON, with one more for an absent value, and what counts as true.

A kind is what an assertion on the type of a value compares. There are as many as JSON has, so all
numbers are of one kind, and an entity counts as an object because its attributes are read like
fields. A list is of its own kind, and yet an assertion that asks for an object is content with a
list as well (`Value.hasKindNamed`).

Of collections all count as true (`Value.isTruthy`), the empty ones included, while the empty text
does not. This differs from the values with nothing in them (`Value.isVacant`), by which the library
itself decides whether something was given.
-/

namespace ToolFlow

/-- The type of a value. -/
inductive Kind where
  | string | number | boolean | object | array | null | undefined
  deriving DecidableEq

namespace Kind

/-- The name of a type. -/
def name : Kind → String
  | string => "string"
  | number => "number"
  | boolean => "boolean"
  | object => "object"
  | array => "array"
  | null => "null"
  | undefined => "undefined"

end Kind

namespace Value

/-- The type of a value; an entity counts as an object. -/
def kind : Value → Kind
  | missing => .undefined
  | null => .null
  | bool _ => .boolean
  | number _ => .number
  | text _ => .string
  | list _ => .array
  | object _ => .object
  | entity _ _ => .object

/-- Whether a value counts as true. Absence, null, false, zero, what is not a number and the empty
text do not; every list, object and entity does. -/
def isTruthy : Value → Bool
  | missing => false
  | null => false
  | bool b => b
  | number n => !(n.isZero || n.isNaN)
  | text s => !s.isEmpty
  | _ => true

/-- Whether the type of a value has the expected name. A list also answers to the name of
objects. -/
def hasKindNamed (v expected : Value) : Bool :=
  match expected with
  | text name => (name == Kind.object.name && v.kind == .array) || v.kind.name == name
  | _ => false

end Value

end ToolFlow

import ToolFlow.Text.Search
import ToolFlow.Value.Equality
import ToolFlow.Value.Kind

/-!
# Conditions

What an assertion can ask of a value: that it is there, that it counts as true, that it equals the
expected value, that it contains it, or that it is of the kind with the expected name.

Conditions are total. Each holds or does not hold of every value, absent ones included, and an
expected value of another sort than a condition has use for makes it fail. Equality is the strict
one, both between values and between the expected value and the items of a list that may contain it.
Of an object nothing is a part.

The names of conditions are those of documents (`Condition.name`), and there is no condition under
any other name (`Condition.ofName?`).
-/

namespace ToolFlow

/-- The conditions of assertions. -/
inductive Condition where
  /-- The value is neither absent nor null. -/
  | present
  /-- The value counts as true. -/
  | truthy
  /-- The value equals the expected one in value and type. -/
  | equals
  /-- The expected value is part of the value. -/
  | contains
  /-- The type of the value has the expected name. -/
  | kind
  deriving DecidableEq

namespace Condition

/-- The name of a condition. -/
def name : Condition → String
  | present => "exists"
  | truthy => "truthy"
  | equals => "equals"
  | contains => "contains"
  | kind => "type"

/-- All conditions. -/
def all : List Condition := [present, truthy, equals, contains, kind]

/-- The condition of a name. -/
def ofName? (s : String) : Option Condition :=
  all.find? fun condition => condition.name == s

/-- Whether the expected value is part of the actual one: a text within a text, an item of a
list. -/
def isPart (expected : Value) : Value → Bool
  | .text s =>
    match expected with
    | .text part => Text.contains s part
    | _ => false
  | .list items => items.any fun item => item.strictEquals expected
  | _ => false

/-- Whether a condition holds of a value. -/
def holds (condition : Condition) (actual expected : Value) : Bool :=
  match condition with
  | present => !(actual.isMissing || actual.isNull)
  | truthy => actual.isTruthy
  | equals => actual.strictEquals expected
  | contains => isPart expected actual
  | kind => actual.hasKindNamed expected

end Condition

end ToolFlow

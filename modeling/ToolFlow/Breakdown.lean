import ToolFlow.Text.Digits

/-!
# Breakdowns

Errors that are no part of the library's account of what can go wrong in a tool flow: no step
records them, and they end what was under way.

They come from conversions and look-ups that nobody guards: a number with too many digits, a value
that is gone through although it has no items, an option that does not exist. A breakdown is known
by its class and its text, which is all that the caller sees of it.

That a function can break down shows in its type, as `Except Breakdown`. A function without it
always comes to its result. What the library reports in an orderly way is a fault instead.
-/

namespace ToolFlow

/-- An error that escapes. -/
inductive Breakdown where
  /-- A run of digits is too long to be converted. -/
  | tooManyDigits (count : Nat)
  /-- An integer has too many digits to be written. -/
  | overlongInteger
  /-- A value of the named type was to be gone through item by item. -/
  | notIterable (typeName : String)
  /-- A value of the named type was to be called. -/
  | notCallable (typeName : String)
  /-- A position past the end of a list was to be read. -/
  | indexOutOfRange
  /-- A value, by its literal, is not of a closed set of names. -/
  | notMember (literal setName : String)
  /-- Something was made with an argument that it does not take. -/
  | unknownArgument (owner name : String)
  /-- An argument was given twice to the named function. -/
  | repeatedArgument (function name : String)
  /-- Something was made without arguments that it needs. -/
  | lackingArguments (owner : String) (names : List String)
  /-- A value of the named type lacks an attribute. -/
  | noAttribute (typeName name : String)
  /-- A value of the named type was to be put into a document. -/
  | unserializable (typeName : String)
  /-- An error that a collaborator raised, by its class name and text. -/
  | raised (label message : String)
  deriving DecidableEq

namespace Breakdown

/-- The class name of an error. -/
def label : Breakdown → String
  | tooManyDigits _ => "ValueError"
  | overlongInteger => "ValueError"
  | notIterable _ => "TypeError"
  | notCallable _ => "TypeError"
  | indexOutOfRange => "IndexError"
  | notMember _ _ => "ValueError"
  | unknownArgument _ _ => "TypeError"
  | repeatedArgument _ _ => "TypeError"
  | lackingArguments _ _ => "TypeError"
  | noAttribute _ _ => "AttributeError"
  | unserializable _ => "PydanticSerializationError"
  | raised label _ => label

/-- Names between apostrophes as an enumeration. -/
def enumerated : List String → String
  | [] => ""
  | [a] => s!"'{a}'"
  | [a, b] => s!"'{a}' and '{b}'"
  | names =>
    let last := names.getLastD ""
    String.intercalate ", " (names.dropLast.map fun name => s!"'{name}'") ++ s!", and '{last}'"

/-- The text of an error. -/
def message : Breakdown → String
  | tooManyDigits count =>
    s!"Exceeds the limit ({Text.digitLimit} digits) for integer string conversion: " ++
      s!"value has {count} digits; use sys.set_int_max_str_digits() to increase the limit"
  | overlongInteger =>
    s!"Exceeds the limit ({Text.digitLimit} digits) for integer string conversion; " ++
      "use sys.set_int_max_str_digits() to increase the limit"
  | notIterable typeName => s!"'{typeName}' object is not iterable"
  | notCallable typeName => s!"'{typeName}' object is not callable"
  | indexOutOfRange => "list index out of range"
  | notMember literal setName => s!"{literal} is not a valid {setName}"
  | unknownArgument owner name =>
    s!"{owner}.__init__() got an unexpected keyword argument '{name}'"
  | repeatedArgument function name => s!"{function}() got multiple values for argument '{name}'"
  | lackingArguments owner names =>
    let s := if names.length == 1 then "" else "s"
    s!"{owner}.__init__() missing {names.length} required positional argument{s}: " ++
      enumerated names
  | noAttribute typeName name => s!"'{typeName}' object has no attribute '{name}'"
  | unserializable typeName =>
    let home := if typeName == "_Missing" then "chainprobe.execution.types" else "__main__"
    s!"Unable to serialize unknown type: <class '{home}.{typeName}'>"
  | raised _ message => message

end Breakdown

end ToolFlow

import ToolFlow.Json.Writer

/-!
# Tagged values

JSON in which values outside JSON are spelled as objects with one key: the absent value, the
floating-point numbers, and entities with their attributes.

All values can be written in this form and read back, up to the numbers by which entities and
occurrences of what is not a number are told apart. These are given anew in the order of reading. An
object of data with one such key would be taken for a tag, and nothing escapes it.
-/

namespace ToolFlow.Json

/-- The key of the absent value. -/
def missingTag : String := "$missing"

/-- The key of a floating-point number. -/
def floatTag : String := "$float"

/-- The key of an entity. -/
def entityTag : String := "$obj"

mutual

/-- The tagged form of a value; every floating-point number is tagged. -/
def tag : Value → Value
  | .missing => .object [(missingTag, .bool true)]
  | .number (.float x) => .object [(floatTag, .text x.text)]
  | .list items => .list (tagItems items)
  | .object fields => .object (tagFields fields)
  | .entity _ attributes => .object [(entityTag, .object (tagFields attributes))]
  | v => v

/-- The tagged forms of items. -/
def tagItems : List Value → List Value
  | [] => []
  | v :: rest => tag v :: tagItems rest

/-- The tagged forms of fields. -/
def tagFields : List (String × Value) → List (String × Value)
  | [] => []
  | (name, v) :: rest => (name, tag v) :: tagFields rest

end

/-- The floating-point number that a tag names. What is not a number gets the payload after the
given one. -/
def float? (payload : Nat) : String → Option Binary64
  | "nan" => some (.nan (payload + 1))
  | "inf" => some (.infinite false)
  | "-inf" => some (.infinite true)
  | _ => none

mutual

/-- The value of a tagged form. Entities, and what is not a number, are numbered in the order of
their occurrence from the given number on; the next free number is returned. -/
def untag (next : Nat) : Value → Value × Nat
  | .list items =>
    let (items, next) := untagItems next items
    (.list items, next)
  | .object fields =>
    let (inner, after) := untagFields next fields
    match fields, inner with
    | [("$missing", .bool true)], _ => (.missing, next)
    | [("$float", .text name)], _ =>
      match float? next name with
      | some x => (.float x, next + 1)
      | none => (.object inner, after)
    | _, [("$obj", .object attributes)] => (.entity after attributes, after + 1)
    | _, _ => (.object inner, after)
  | v => (v, next)

/-- The values of tagged items. -/
def untagItems (next : Nat) : List Value → List Value × Nat
  | [] => ([], next)
  | v :: rest =>
    let (v, next) := untag next v
    let (rest, next) := untagItems next rest
    (v :: rest, next)

/-- The values of tagged fields. -/
def untagFields (next : Nat) : List (String × Value) → List (String × Value) × Nat
  | [] => ([], next)
  | (name, v) :: rest =>
    let (v, next) := untag next v
    let (rest, next) := untagFields next rest
    ((name, v) :: rest, next)

end

end ToolFlow.Json

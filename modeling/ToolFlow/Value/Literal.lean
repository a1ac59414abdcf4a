import ToolFlow.Text.Quoted
import ToolFlow.Value.Basic

/-!
# Literals of values

How a value is shown in messages: `literal` quotes texts, `display` shows a text as it is and all
else by its literal.

The forms are those in which the library writes any value into a message, so the absent value and
entities have a text as well. Of a number with too many digits there is none: whether a value shows
such a number is asked before it is shown (`Value.isOverlong`), and the literal itself is total.
-/

namespace ToolFlow

/-- The parts joined by commas. -/
def commaSeparated (parts : List String) : String :=
  String.intercalate ", " parts

namespace Value

/-- The text by which the absent value is shown. -/
def missingText : String := "MISSING"

/-- The text by which every entity is shown. -/
def entityText : String := "<obj>"

mutual

/-- The literal of a value. -/
def literal : Value → String
  | missing => missingText
  | null => "None"
  | bool true => "True"
  | bool false => "False"
  | number n => n.text
  | text s => Text.quoted s
  | list items => "[" ++ commaSeparated (literals items) ++ "]"
  | object fields => "\x7b" ++ commaSeparated (fieldLiterals fields) ++ "\x7d"
  | entity _ _ => entityText

/-- The literals of values. -/
def literals : List Value → List String
  | [] => []
  | v :: rest => literal v :: literals rest

/-- The literals of fields, each with its name. -/
def fieldLiterals : List (String × Value) → List String
  | [] => []
  | (name, v) :: rest => (Text.quoted name ++ ": " ++ literal v) :: fieldLiterals rest

end

mutual

/-- Whether the literal of a value would show an integer with too many digits to be written. -/
def isOverlong : Value → Bool
  | number n => n.isOverlong
  | list items => anyOverlong items
  | object fields => anyOverlongField fields
  | _ => false

/-- Whether an item would show such an integer. -/
def anyOverlong : List Value → Bool
  | [] => false
  | v :: rest => isOverlong v || anyOverlong rest

/-- Whether a field would show such an integer. -/
def anyOverlongField : List (String × Value) → Bool
  | [] => false
  | (_, v) :: rest => isOverlong v || anyOverlongField rest

end

/-- The name of the type of a value in the messages of breakdowns. -/
def typeName : Value → String
  | missing => "_Missing"
  | null => "NoneType"
  | bool _ => "bool"
  | number (.int _) => "int"
  | number (.float _) => "float"
  | text _ => "str"
  | list _ => "list"
  | object _ => "dict"
  | entity _ _ => "Obj"

/-- A value as plain text. -/
def display : Value → String
  | text s => s
  | v => v.literal

end Value

end ToolFlow

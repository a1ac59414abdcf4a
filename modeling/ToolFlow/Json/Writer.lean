import ToolFlow.Breakdown
import ToolFlow.Text.Digits
import ToolFlow.Value.Literal

/-!
# Writing JSON

The JSON text of a value. A style says whether other characters than ASCII are escaped and whether
the items stand on lines of their own. An absent value and an entity, which JSON cannot hold, are
written as the texts by which they are shown.

Writing is a recursion over the value (`write`), with the depth as an argument for the sake of
indentation. It always comes to a text. What a writer may fail at is checked before: an integer with
more digits than are converted makes the whole value unwritable (`encode?`, `encodeReadable?`).

The nesting of values has no limit here, neither for writing nor for reading back. A writer on a
machine stops at a depth that depends on the machine, and this limit is left out.

## Main definitions

* `Style`: the choices of a JSON text, and how collections are laid out (`Style.enclose`).
* `write`: the text of a value at a depth.
* `encode`: JSON on one line and in ASCII, as tools answer that show what they were given.
* `encodeReadable`: JSON with every character as it is, as reports, prompts and log lines have it.
-/

namespace ToolFlow.Json

/-- The choices of a JSON text. -/
structure Style where
  /-- Whether every character beyond ASCII is escaped. -/
  ascii : Bool
  /-- The spaces of each level when items stand on lines of their own. -/
  indent : Option Nat

/-- The escape of a code unit. -/
def unitEscape (unit : Nat) : List Char :=
  '\\' :: 'u' :: Text.hexChars 4 unit

/-- One character of a text. -/
def escapeChar (ascii : Bool) (c : Char) : List Char :=
  if c == '"' || c == '\\' then ['\\', c]
  else if c == '\n' then ['\\', 'n']
  else if c == '\r' then ['\\', 'r']
  else if c == '\t' then ['\\', 't']
  else if c == '\x0c' then ['\\', 'f']
  else if c == '\x08' then ['\\', 'b']
  else if c.toNat < 0x20 then unitEscape c.toNat
  else if !ascii || c.toNat < 0x7F then [c]
  else if c.toNat < 0x10000 then unitEscape c.toNat
  else
    unitEscape (0xD800 + (c.toNat - 0x10000) / 0x400) ++
      unitEscape (0xDC00 + (c.toNat - 0x10000) % 0x400)

/-- A text between quotation marks. -/
def writeText (ascii : Bool) (s : String) : String :=
  String.ofList ('"' :: s.toList.flatMap (escapeChar ascii) ++ ['"'])

/-- A number. -/
def writeNumber : Number → String
  | .float (.nan _) => "NaN"
  | .float (.infinite false) => "Infinity"
  | .float (.infinite true) => "-Infinity"
  | n => n.text

/-- A new line at a depth, or nothing when all stands on one line. -/
def Style.newline (style : Style) (depth : Nat) : String :=
  match style.indent with
  | none => ""
  | some width => String.ofList ('\n' :: List.replicate (width * depth) ' ')

/-- The parts of a collection between its brackets. -/
def Style.enclose (style : Style) (depth : Nat) (opening closing : String) (parts : List String) :
    String :=
  if parts.isEmpty then opening ++ closing
  else
    let separator := if style.indent.isNone then ", " else "," ++ style.newline (depth + 1)
    opening ++ style.newline (depth + 1) ++ String.intercalate separator parts ++
      style.newline depth ++ closing

mutual

/-- The JSON text of a value at a depth. -/
def write (style : Style) (depth : Nat) : Value → String
  | .missing => writeText style.ascii Value.missingText
  | .null => "null"
  | .bool true => "true"
  | .bool false => "false"
  | .number n => writeNumber n
  | .text s => writeText style.ascii s
  | .list items => style.enclose depth "[" "]" (writeItems style (depth + 1) items)
  | .object fields => style.enclose depth "\x7b" "\x7d" (writeFields style (depth + 1) fields)
  | .entity _ _ => writeText style.ascii Value.entityText

/-- The JSON texts of items. -/
def writeItems (style : Style) (depth : Nat) : List Value → List String
  | [] => []
  | v :: rest => write style depth v :: writeItems style depth rest

/-- The JSON texts of fields, each with its name. -/
def writeFields (style : Style) (depth : Nat) : List (String × Value) → List String
  | [] => []
  | (name, v) :: rest =>
    (writeText style.ascii name ++ ": " ++ write style depth v) :: writeFields style depth rest

end

/-- JSON on one line, in ASCII. -/
def encode (v : Value) : String :=
  write { ascii := true, indent := none } 0 v

/-- JSON on one line, in ASCII, unless an integer is too long for it. -/
def encode? (v : Value) : Except Breakdown String :=
  if v.isOverlong then .error .overlongInteger else .ok (encode v)

/-- JSON with every character as it is, laid out over lines when an indentation is given. -/
def encodeReadable (indent : Option Nat) (v : Value) : String :=
  write { ascii := false, indent := indent } 0 v

/-- JSON with every character as it is, unless an integer is too long for it. -/
def encodeReadable? (indent : Option Nat) (v : Value) : Except Breakdown String :=
  if v.isOverlong then .error .overlongInteger else .ok (encodeReadable indent v)

end ToolFlow.Json

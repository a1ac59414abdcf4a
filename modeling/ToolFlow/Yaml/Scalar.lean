import ToolFlow.Calendar
import ToolFlow.Text.Utf8
import ToolFlow.Value.Literal
import ToolFlow.Yaml.Token

/-!
# Scalars of YAML documents

The data without parts. Beside those of JSON there are days, moments and bytes. Scalars are the keys
of mappings and the members of sets, where a truth value is the number it stands for, and what is
not a number is the same only as the same occurrence of it.

Three forms of a scalar are needed. As a value (`Scalar.value`) days, moments and bytes become
texts, and as a key (`Scalar.keyName`) everything does, since the objects of values have names.
Messages show scalars by their literals or as plain texts (`Scalar.literal`, `Scalar.display`),
where an integer may turn out to have too many digits.
-/

namespace ToolFlow.Yaml

/-- Data without parts. -/
inductive Scalar where
  | null
  | bool (b : Bool)
  | number (n : Number)
  | text (s : String)
  | date (d : Date)
  | moment (m : Moment)
  | bytes (data : List UInt8)

namespace Scalar

/-- Whether there is nothing in a scalar: null, false, zero, or empty. -/
def isVacant : Scalar → Bool
  | null => true
  | bool b => !b
  | number n => n.isZero
  | text s => s.isEmpty
  | bytes data => data.isEmpty
  | _ => false

/-- The number that a truth value or a number stands for. -/
def asNumber? : Scalar → Option Number
  | bool b => some (.int (if b then 1 else 0))
  | number n => some n
  | _ => none

/-- Whether two numbers are the same key. -/
def sameNumber : Number → Number → Bool
  | .float (.nan i), .float (.nan j) => i == j
  | m, n => m.same n

/-- Whether two moments are the same: both have an offset or neither does. -/
def sameMoment (a b : Moment) : Bool :=
  a.offset.isSome == b.offset.isSome && a.microseconds == b.microseconds

/-- Whether two scalars are the same key. -/
def sameKey (a b : Scalar) : Bool :=
  match a.asNumber?, b.asNumber? with
  | some m, some n => sameNumber m n
  | none, none =>
    match a, b with
    | null, null => true
    | text s, text t => s == t
    | date d, date e => d == e
    | moment m, moment n => sameMoment m n
    | bytes x, bytes y => x == y
    | _, _ => false
  | _, _ => false

/-- Whether a scalar is an integer with too many digits to be written. -/
def isOverlong : Scalar → Bool
  | number n => n.isOverlong
  | _ => false

/-! ### Literals -/

/-- The literal of a duration in seconds. -/
def durationLiteral (seconds : Int) : String :=
  let days := Int.fdiv seconds 86400
  let rest := Int.fmod seconds 86400
  let parts := (if days == 0 then [] else [s!"days={days}"]) ++
    (if rest == 0 then [] else [s!"seconds={rest}"])
  s!"datetime.timedelta({commaSeparated parts})"

/-- The literal of a day. -/
def dateLiteral (d : Date) : String :=
  s!"datetime.date({d.year}, {d.month}, {d.day})"

/-- The literal of a moment. -/
def momentLiteral (m : Moment) : String :=
  let numbers := [m.date.year, m.date.month, m.date.day, m.hour, m.minute] ++
    (if m.microsecond == 0 then (if m.second == 0 then [] else [m.second])
      else [m.second, m.microsecond])
  let zone := match m.offset with
    | none => []
    | some offset =>
      if offset == 0 then ["tzinfo=datetime.timezone.utc"]
      else ["tzinfo=datetime.timezone(" ++ durationLiteral offset ++ ")"]
  "datetime.datetime(" ++ commaSeparated (numbers.map (fun n => toString n) ++ zone) ++ ")"

/-- One byte inside the literal of bytes with the given quote. -/
def byteLiteral (quote : Char) (b : UInt8) : List Char :=
  let c := Char.ofNat b.toNat
  if c == quote || c == '\\' then ['\\', c]
  else if c == '\n' then ['\\', 'n']
  else if c == '\r' then ['\\', 'r']
  else if c == '\t' then ['\\', 't']
  else if 0x20 ≤ b.toNat && b.toNat < 0x7F then [c]
  else '\\' :: 'x' :: Text.hexChars 2 b.toNat

/-- The literal of bytes. -/
def bytesLiteral (data : List UInt8) : String :=
  let quote := Text.quoteFor (data.map fun b => Char.ofNat b.toNat)
  String.ofList ('b' :: quote :: data.flatMap (byteLiteral quote) ++ [quote])

/-- The literal of a scalar. -/
def literal : Scalar → String
  | null => Value.null.literal
  | bool b => (Value.bool b).literal
  | number n => n.text
  | text s => Text.quoted s
  | date d => dateLiteral d
  | moment m => momentLiteral m
  | bytes data => bytesLiteral data

/-- A scalar as plain text. -/
def display : Scalar → String
  | text s => s
  | date d => d.iso
  | moment m => m.text " " "+00:00"
  | s => s.literal

/-! ### As values -/

/-- The text of bytes. -/
def bytesText (data : List UInt8) : String :=
  (String.fromUTF8? ⟨data.toArray⟩).getD "\uFFFD"

/-- A scalar as a value: days, moments and bytes become texts. -/
def value : Scalar → Value
  | null => .null
  | bool b => .bool b
  | number n => .number n
  | text s => .text s
  | date d => .text d.iso
  | moment m => .text (m.text "T" "Z")
  | bytes data => .text (bytesText data)

/-- The name under which a key stands in an object. A number that is not finite stands for
nothing there. -/
def keyName : Scalar → String
  | text s => s
  | bool true => "true"
  | bool false => "false"
  | date d => d.iso
  | moment m => m.text "T" "Z"
  | bytes data => bytesText data
  | number (.float x) => if x.isFinite then x.text else null.literal
  | s => s.literal

/-- Why a scalar has no written form: it is bytes that are not a text. -/
def unwritable? : Scalar → Option Obstacle
  | bytes data => (Utf8.flaw? data).map .undecodable
  | _ => none

/-- Why a key has no name to be written. -/
def unwritableKey? (key : Scalar) : Option Obstacle :=
  if key.isOverlong then some .overlongKey else key.unwritable?

end Scalar

end ToolFlow.Yaml

import ToolFlow.Breakdown
import ToolFlow.Value.Equality
import ToolFlow.Value.Literal

/-!
# Time limits

How long something may take, in milliseconds. Any value can be given for a limit; whether it is one
shows when it is turned into seconds.

A number of milliseconds is divided by a thousand, in floating point. This fails for an integer
whose quotient is beyond the floating-point numbers, and for a value that is no number, and then
nothing can be timed with the limit (`TimeLimit.problem?`). Where a limit is shown in a message it
is converted once more, in other ways, each with failures of its own: rounded to six digits
(`TimeLimit.shortText`), or cut to whole milliseconds (`TimeLimit.wholeText?`).

What a limit does is not part of this: that something took too long is an answer of the outside.
-/

namespace ToolFlow

/-- How long something may take. -/
structure TimeLimit where
  /-- A number, or a value that is no limit. -/
  milliseconds : Value

namespace TimeLimit

/-- The limit of so many milliseconds. -/
def ofInt (n : Int) : TimeLimit := ⟨.int n⟩

/-- How many milliseconds a second has. -/
def millisecondsPerSecond : Nat := 1000

/-- Why a limit is no number of seconds, if it is none. -/
def problem? (limit : TimeLimit) : Option Breakdown :=
  match limit.milliseconds with
  | .number (.int n) =>
    if (Binary64.ofRatio (n < 0) n.natAbs millisecondsPerSecond).isFinite then none
    else some (.raised "OverflowError" "integer division result too large for a float")
  | .number (.float _) => none
  | .bool _ => none
  | v =>
    some (.raised "TypeError"
      s!"unsupported operand type(s) for /: '{v.typeName}' and 'int'")

/-- The number of milliseconds, of a limit that is one. -/
def number (limit : TimeLimit) : Number :=
  (limit.milliseconds.asNumber?).getD (.int 0)

/-- The number of milliseconds rounded to six digits, unless it is too large for that. -/
def shortText (limit : TimeLimit) : Except Breakdown String :=
  match limit.number with
  | .int n =>
    if (Binary64.ofInt n).isFinite then .ok (Number.int n).shortText
    else .error (.raised "OverflowError" "int too large to convert to float")
  | n => .ok n.shortText

/-- The digits of the whole milliseconds, when they have an end. -/
def wholeText? (limit : TimeLimit) : Option String :=
  match limit.number with
  | .int n => some (toString n)
  | .float x => x.split?.map fun parts => toString parts.1

end TimeLimit

end ToolFlow

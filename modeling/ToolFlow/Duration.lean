import ToolFlow.Number

/-!
# Seconds in microseconds

Numbers of seconds in whole microseconds. The fraction of a floating-point number is scaled in
floating point, and a half goes to the even neighbour.

The whole seconds are converted exactly, so that only the fraction is rounded, and rounded twice:
when it is scaled, and when it becomes a whole number. A number that is not finite has no
microseconds.
-/

namespace ToolFlow

/-- How many microseconds a second has. -/
def microsPerSecond : Nat := 1000000

/-- How many microseconds a day has. -/
def microsPerDay : Nat := 86400 * microsPerSecond

/-- The integer nearest to a finite number, a half going to the even neighbour. -/
def Binary64.nearestInt? (x : Binary64) : Option Int :=
  x.units?.map fun units =>
    let rounded : Int := roundHalfEven units.natAbs unitsOfOne
    if units < 0 then -rounded else rounded

/-- A number of seconds in microseconds, if it is finite. -/
def Number.microseconds? : Number → Option Int
  | int n => some (n * microsPerSecond)
  | float x => do
    let (whole, rest) ← x.split?
    let fraction ← ((Binary64.ofUnits rest).mul (.ofInt microsPerSecond)).nearestInt?
    return whole * microsPerSecond + fraction

/-- A number of microseconds in seconds. -/
def secondsOfMicros (micros : Int) : Binary64 :=
  .ofRatio (micros < 0) micros.natAbs microsPerSecond

end ToolFlow

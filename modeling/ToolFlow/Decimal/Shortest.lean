import ToolFlow.Binary64.Rounding
import ToolFlow.Decimal.Basic

/-!
# Floating-point numbers in decimal

The shortest decimal that reads back as a given number, and a number rounded to a count of digits
or of places. For the shortest decimal a positive magnitude is scaled by 10⁴⁰⁰, which puts at least
seventy digits before its point, so that every grid of at most seventeen digits has a whole spacing
and all tests are made on natural numbers. A rounding is made on all digits of the magnitude, which
are those of a whole number since a unit is 5¹⁰⁷⁴ times 10⁻¹⁰⁷⁴.
-/

namespace ToolFlow.Decimal

/-- The power of ten by which magnitudes are scaled. -/
def scale : Nat := 400

/-- Twice the units of a number, scaled, stand over this denominator. -/
def halfUnits : Nat := 2 * Binary64.unitsOfOne

/-- Twice the magnitude of a rank, scaled, over the common denominator. -/
def scaled (rank : Nat) : Nat :=
  2 * Binary64.unitsOfRank rank * 10 ^ scale

/-- How many digits the scaled magnitude of a rank has before its point. -/
def wholeDigits (rank : Nat) : Nat :=
  (Text.decimalChars (scaled rank / halfUnits)).length

/-- Whether a point of the decimal grid reads back as the rank: it lies between the midpoints to
the two neighbouring ranks, and a midpoint itself goes to the even rank. -/
def readsBack (rank point : Nat) : Bool :=
  let low := (Binary64.unitsOfRank (rank - 1) + Binary64.unitsOfRank rank) * 10 ^ scale
  let high := (Binary64.unitsOfRank rank + Binary64.unitsOfRank (rank + 1)) * 10 ^ scale
  if rank % 2 = 0 then low ≤ point * halfUnits && point * halfUnits ≤ high
  else low < point * halfUnits && point * halfUnits < high

/-- The multiple of a spacing that is nearest to the rank among the two around it that read back as
the rank. -/
def onGrid (rank spacing : Nat) : Option Nat :=
  let below := scaled rank / (spacing * halfUnits)
  match readsBack rank (below * spacing), readsBack rank ((below + 1) * spacing) with
  | true, true => some (roundHalfEven (scaled rank) (spacing * halfUnits))
  | true, false => some below
  | false, true => some (below + 1)
  | false, false => none

/-- The shortest decimal that reads back as a positive rank, and the nearest of those. -/
def shortest (rank : Nat) : Decimal :=
  let whole := wholeDigits rank
  let found := (List.range' 1 17).findSome? fun count =>
    (onGrid rank (10 ^ (whole - count))).map fun n =>
      ofNat n ((whole - count : Nat) - (scale : Int))
  found.getD { digits := [], exponent := 0 }

/-- The power of ten by which every magnitude is scaled to a whole number. -/
def exactScale : Nat := 1074

/-- A positive rank rounded to so many digits. -/
def significant (count rank : Nat) : Decimal :=
  let exact := Binary64.unitsOfRank rank * 5 ^ exactScale
  let power := (Text.decimalChars exact).length - count
  ofNat (roundHalfEven exact (10 ^ power)) ((power : Int) - exactScale)

/-- A magnitude rounded to so many places after the point. -/
def places (count rank : Nat) : List Char :=
  let n := roundHalfEven (Binary64.unitsOfRank rank * 10 ^ count) Binary64.unitsOfOne
  let digits := Text.padded (count + 1) (Text.decimalChars n)
  let whole := digits.take (digits.length - count)
  if count = 0 then whole else whole ++ '.' :: digits.drop (digits.length - count)

end ToolFlow.Decimal

namespace ToolFlow.Binary64

/-- How numbers read back exactly: positionally from 10⁻⁴ up to 10¹⁶, and a whole number shows one
place. -/
def exactLayout : Decimal.Layout := { lowest := -4, limit := 16, keepsPlace := true }

/-- How short numbers are written: positionally from 10⁻⁴ up to 10⁶. -/
def shortLayout : Decimal.Layout := { lowest := -4, limit := 6, keepsPlace := false }

/-- The sign of a written number. -/
def signChars (negative : Bool) (chars : List Char) : List Char :=
  if negative then '-' :: chars else chars

/-- A number written by a rule for positive ranks and a text for zero. -/
def write (zero : String) (positive : Nat → List Char) : Binary64 → String
  | nan _ => "nan"
  | infinite negative => String.ofList (signChars negative ['i', 'n', 'f'])
  | finite negative rank =>
    String.ofList (signChars negative (if rank.val = 0 then zero.toList else positive rank))

/-- The shortest text that reads back as the number. -/
def text : Binary64 → String :=
  write "0.0" fun rank => exactLayout.write (Decimal.shortest rank)

/-- The number rounded to six digits, without zeros at the end. -/
def shortText : Binary64 → String :=
  write "0" fun rank => shortLayout.write (Decimal.significant 6 rank)

/-- The number with so many places after the point. -/
def fixedText (count : Nat) : Binary64 → String
  | nan _ => "nan"
  | infinite negative => String.ofList (signChars negative ['i', 'n', 'f'])
  | finite negative rank => String.ofList (signChars negative (Decimal.places count rank))

end ToolFlow.Binary64

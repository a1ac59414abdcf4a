import ToolFlow.Binary64.Rounding
import ToolFlow.Decimal.Shortest

/-!
# Numbers of data

A number is an integer of any size or a floating-point number. Equality is that of the mathematical
values: an integer and a floating-point number are compared without rounding either.

The two kinds stay apart, since an integer is written with all of its digits and a floating-point
number by the shortest decimal that is read back as the same. Only an integer can be too long to be
written (`Number.isOverlong`): the limit is on the digits that are converted, and a floating-point
number never has so many.

## Main definitions

* `Number.same`: equality of the mathematical values. It is decided on whole numbers, the finite
  floating-point numbers being whole multiples of the smallest one.
* `Number.isZero`, `Number.isNaN`: the numbers that count as false.
* `Number.text`: a number as it is written.
-/

namespace ToolFlow

/-- A number as data has it. -/
inductive Number where
  | int (n : Int)
  | float (x : Binary64)
  deriving DecidableEq

namespace Number

/-- Exact numeric equality. -/
def same : Number → Number → Bool
  | int m, int n => m == n
  | int m, float y => y.sameInt m
  | float x, int n => x.sameInt n
  | float x, float y => x.same y

/-- Whether the number is zero, of either kind and sign. -/
def isZero : Number → Bool
  | int n => n == 0
  | float x => x.isZero

/-- Whether this is not a number. -/
def isNaN : Number → Bool
  | int _ => false
  | float x => x.isNaN

/-- Whether a number has too many digits to be written; only an integer can. -/
def isOverlong : Number → Bool
  | int n => 10 ^ Text.digitLimit ≤ n.natAbs
  | float _ => false

/-- The text of a number: the digits of an integer, the shortest digits of a floating-point
number. -/
def text : Number → String
  | int n => toString n
  | float x => x.text

/-- The number rounded to six digits, without zeros at the end. -/
def shortText : Number → String
  | int n => (Binary64.ofInt n).shortText
  | float x => x.shortText

end Number

end ToolFlow

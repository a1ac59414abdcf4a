import ToolFlow.Binary64.Basic
import ToolFlow.Text.Digits

/-!
# Rounding to binary floating point

The nearest floating-point number to an exact ratio, a tie going to the even rank. Sums and products
are computed exactly first and rounded once.

What a magnitude has beyond 53 binary digits is divided out as a power of two, and the rest is
rounded to a whole number. Since consecutive ranks are consecutive magnitudes, also where the power
changes, a rest that is rounded up to the next power comes out at the right rank, and past the last
rank at infinity. Integers and decimals are ratios, so there is one rounding for all of them.
-/

namespace ToolFlow

/-- The whole number nearest to a ratio, a half going to the even neighbour. -/
def roundHalfEven (n d : Nat) : Nat :=
  if 2 * (n % d) < d then n / d
  else if d < 2 * (n % d) then n / d + 1
  else if n / d % 2 = 0 then n / d
  else n / d + 1

namespace Binary64

/-- The finite number of a rank, or infinity past the last one. -/
def ofRank (negative : Bool) (rank : Nat) : Binary64 :=
  if h : rank < finiteCount then finite negative ⟨rank, h⟩ else infinite negative

/-- The rank of the magnitude nearest to a ratio of units. A significand has 53 binary digits, so
what exceeds them is the power of two that is divided out. -/
def rankOfUnits (n d : Nat) : Nat :=
  let shift := Nat.log2 (n / d) - 52
  shift * 2 ^ 52 + roundHalfEven n (d * 2 ^ shift)

/-- The number nearest to a ratio. -/
def ofRatio (negative : Bool) (n d : Nat) : Binary64 :=
  ofRank negative (rankOfUnits (n * unitsOfOne) d)

/-- The number nearest to an integer. -/
def ofInt (n : Int) : Binary64 :=
  ofRatio (n < 0) n.natAbs 1

/-- The number nearest to an exact amount of units. -/
def ofUnits (u : Int) : Binary64 :=
  ofRank (u < 0) (rankOfUnits u.natAbs 1)

/-- The number nearest to a decimal: the integer that the digits denote times a power of ten. Far
outside the range of magnitudes the answer is known without computing the power. -/
def ofDecimal (negative : Bool) (digits : List Char) (exponent : Int) : Binary64 :=
  let digits := digits.dropWhile (· == '0')
  let significand := Text.decimalValue digits
  if significand = 0 then ofRank negative 0
  else if (digits.length : Int) + exponent > 310 then infinite negative
  else if (digits.length : Int) + exponent < -330 then ofRank negative 0
  else if exponent < 0 then ofRatio negative significand (10 ^ exponent.natAbs)
  else ofRatio negative (significand * 10 ^ exponent.natAbs) 1

/-- The rounded sum. A sum of zero is positive unless both summands are negative. -/
def add : Binary64 → Binary64 → Binary64
  | finite s a, finite t b =>
    let sum := signedUnits s a + signedUnits t b
    if sum = 0 then ofRank (s && t) 0 else ofUnits sum
  | infinite s, infinite t => if s == t then infinite s else nan
  | infinite s, finite _ _ => infinite s
  | finite _ _, infinite t => infinite t
  | _, _ => nan

/-- The rounded product. -/
def mul : Binary64 → Binary64 → Binary64
  | finite s a, finite t b =>
    ofRank (s != t) (rankOfUnits (unitsOfRank a * unitsOfRank b) unitsOfOne)
  | infinite s, infinite t => infinite (s != t)
  | infinite s, finite t b => if b.val = 0 then nan else infinite (s != t)
  | finite s a, infinite t => if a.val = 0 then nan else infinite (s != t)
  | _, _ => nan

end Binary64

end ToolFlow

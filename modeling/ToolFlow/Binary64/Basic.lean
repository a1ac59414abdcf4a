/-!
# Binary floating-point numbers

The 64-bit floating-point numbers by what they denote. The finite magnitudes are numbered from zero
upwards, so consecutive ranks are neighbouring magnitudes, and each is a whole number of units of
2⁻¹⁰⁷⁴. Every comparison below is made on these whole numbers and is therefore exact.

Every number of the type is one of the 64-bit numbers, and none is there twice but for what is not a
number: a finite number is its sign and its rank, and there are as many ranks as finite magnitudes
(`Binary64.finiteCount`). What is not a number has a payload, by which occurrences of it can be told
apart where this matters.

The two zeros are different numbers that compare as equal. Nothing is said here of bits: the numbers
are never stored or read as such.

## Main definitions

* `Binary64.units?`: the exact value of a finite number in units.
* `Binary64.same`, `Binary64.sameInt`, `Binary64.lt`: comparison, without rounding.
* `Binary64.toInt?`, `Binary64.split?`: the integer that a number is, and its whole part.
-/

namespace ToolFlow

-- powers are those of the core library, also where numbers are known to have others
attribute [scoped instance (20000)] instPowNat
attribute [default_instance 20000] instPowNat

/-- How many finite magnitudes there are: one for each exponent below the one that is kept for what
is not finite, and each fraction of 52 binary digits. -/
def Binary64.finiteCount : Nat := 2047 * 2 ^ 52

/-- A 64-bit floating-point number. What is not a number may carry a payload, by which occurrences
of it are told apart; no operation looks at it. -/
inductive Binary64 where
  | nan (payload : Nat := 0)
  | infinite (negative : Bool)
  | finite (negative : Bool) (rank : Fin Binary64.finiteCount)
  deriving DecidableEq

namespace Binary64

/-- The number one in units. -/
def unitsOfOne : Nat := 2 ^ 1074

/-- The magnitude of a rank in units of 2⁻¹⁰⁷⁴. Below 2⁵² a rank is its own magnitude; above, its
upper part gives the power of two and its lower part the fraction. -/
def unitsOfRank (rank : Nat) : Nat :=
  if rank / 2 ^ 52 = 0 then rank
  else (2 ^ 52 + rank % 2 ^ 52) * 2 ^ (rank / 2 ^ 52 - 1)

/-- The magnitude of a rank with its sign, in units. -/
def signedUnits (negative : Bool) (rank : Nat) : Int :=
  if negative then -(unitsOfRank rank : Int) else unitsOfRank rank

/-- The exact value in units, of a finite number. -/
def units? : Binary64 → Option Int
  | finite negative rank => some (signedUnits negative rank)
  | _ => none

/-- Positive zero. -/
def zero : Binary64 := finite false ⟨0, by decide⟩

/-- Whether this is not a number. -/
def isNaN : Binary64 → Bool
  | nan _ => true
  | _ => false

/-- Whether this is a finite number. -/
def isFinite : Binary64 → Bool
  | finite _ _ => true
  | _ => false

/-- Whether this is one of the two zeros. -/
def isZero : Binary64 → Bool
  | finite _ rank => rank.val == 0
  | _ => false

/-- Whether the sign is negative; what is not a number has no sign. -/
def isNegative : Binary64 → Bool
  | nan _ => false
  | infinite negative => negative
  | finite negative _ => negative

/-- What is not a number with another payload, and any other number as it is. -/
def withPayload (payload : Nat) : Binary64 → Binary64
  | nan _ => nan payload
  | x => x

/-- The number with the opposite sign. -/
def neg : Binary64 → Binary64
  | nan payload => nan payload
  | infinite negative => infinite (!negative)
  | finite negative rank => finite (!negative) rank

/-- Numeric equality: the two zeros are equal and nothing equals what is not a number. -/
def same : Binary64 → Binary64 → Bool
  | infinite s, infinite t => s == t
  | finite s a, finite t b => signedUnits s a == signedUnits t b
  | _, _ => false

/-- Exact equality with an integer. -/
def sameInt (x : Binary64) (n : Int) : Bool :=
  x.units? == some (n * unitsOfOne)

/-- The integer that this number is, when it is one. -/
def toInt? (x : Binary64) : Option Int := do
  let u ← x.units?
  if u % unitsOfOne == 0 then some (u / unitsOfOne) else none

/-- The whole part toward zero and the rest, in units, of a finite number. -/
def split? (x : Binary64) : Option (Int × Int) :=
  x.units?.map fun u => (Int.tdiv u unitsOfOne, Int.tmod u unitsOfOne)

/-- Strict order; what is not a number is in no order. -/
def lt : Binary64 → Binary64 → Bool
  | infinite s, infinite t => s && !t
  | infinite s, finite _ _ => s
  | finite _ _, infinite t => !t
  | finite s a, finite t b => signedUnits s a < signedUnits t b
  | _, _ => false

end Binary64

end ToolFlow

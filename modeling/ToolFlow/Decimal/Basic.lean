import ToolFlow.Text.Digits

/-!
# Decimal numbers and how they are laid out

A decimal is its digits and the power of ten of the first one. A layout says which decimals are
written positionally and how the others show their exponent.

Digits have no zeros at the end, so each positive decimal is written in one way only. What is read
and what is rounded both come as a whole number times a power of ten, and `Decimal.ofNat` is the
decimal of this. The decisions of the formats in use differ in where the exponent begins, how many
digits it has and whether a point is kept, and these are the fields of a layout.
-/

namespace ToolFlow

/-- The positive number d.ddd · 10ⁿ: its digits, without zeros at the end, and the exponent n. -/
structure Decimal where
  digits : List Char
  exponent : Int

/-- The decisions of a number format. -/
structure Decimal.Layout where
  /-- The least exponent that is written positionally. -/
  lowest : Int
  /-- The least exponent above those written positionally. -/
  limit : Int
  /-- Whether a whole number written positionally still shows one place. -/
  keepsPlace : Bool
  /-- The least number of digits of a written exponent. -/
  exponentWidth : Nat := 2

namespace Decimal

/-- The decimal of a positive whole number times a power of ten. -/
def ofNat (n : Nat) (power : Int) : Decimal :=
  let digits := Text.decimalChars n
  { digits := (digits.reverse.dropWhile (· == '0')).reverse
    exponent := digits.length - 1 + power }

/-- The decimal written without an exponent. -/
def positional (keepsPlace : Bool) (d : Decimal) : List Char :=
  if d.exponent < 0 then
    '0' :: '.' :: List.replicate (d.exponent.natAbs - 1) '0' ++ d.digits
  else
    let whole := d.exponent.natAbs + 1
    if d.digits.length ≤ whole then
      d.digits ++ List.replicate (whole - d.digits.length) '0' ++
        (if keepsPlace then ['.', '0'] else [])
    else d.digits.take whole ++ '.' :: d.digits.drop whole

/-- The exponent with its sign. -/
def exponentPart (width : Nat) (e : Int) : List Char :=
  'e' :: (if e < 0 then '-' else '+') :: Text.padded width (Text.decimalChars e.natAbs)

/-- The decimal with one digit before the point and an exponent. -/
def scientific (width : Nat) (d : Decimal) : List Char :=
  let mantissa := match d.digits with
    | first :: second :: rest => first :: '.' :: second :: rest
    | short => short
  mantissa ++ exponentPart width d.exponent

/-- The decimal as a layout has it. -/
def Layout.write (layout : Layout) (d : Decimal) : List Char :=
  if layout.lowest ≤ d.exponent ∧ d.exponent < layout.limit then
    d.positional layout.keepsPlace
  else d.scientific layout.exponentWidth

end Decimal

end ToolFlow

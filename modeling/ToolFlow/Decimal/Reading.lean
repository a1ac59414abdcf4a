import ToolFlow.Binary64.Rounding

/-!
# Reading floating-point numbers

Numbers as they are commonly written: a sign, digits with or without a point, an exponent, or one of
the words for infinity and for what is not a number.

The number that is read is the nearest one to what is written, however many digits there are. What
may stand around the number or between its digits differs from one notation to the next, and is
taken away before.
-/

namespace ToolFlow.Decimal

/-- A sign, when there is one, and what follows it; the first component says whether the sign is
negative. -/
def signed : List Char → Bool × List Char
  | '-' :: rest => (true, rest)
  | '+' :: rest => (false, rest)
  | cs => (false, cs)

/-- An exponent after its letter, zero when nothing is left. -/
def exponent? : List Char → Option Int
  | [] => some 0
  | e :: rest =>
    let (negative, digits) := signed rest
    if (e == 'e' || e == 'E') && Text.isDecimal digits then
      let n : Int := Text.decimalValue digits
      some (if negative then -n else n)
    else none

/-- The number of digits with a point and an exponent; at least one digit stands before or after
the point. -/
def pointed? (negative : Bool) (cs : List Char) : Option Binary64 :=
  let whole := cs.takeWhile Char.isDigit
  let rest := cs.dropWhile Char.isDigit
  let (fraction, rest) := match rest with
    | '.' :: rest => (rest.takeWhile Char.isDigit, rest.dropWhile Char.isDigit)
    | rest => ([], rest)
  if whole.isEmpty && fraction.isEmpty then none
  else
    (exponent? rest).map fun e => .ofDecimal negative (whole ++ fraction) (e - fraction.length)

/-- The number of a text without blanks around it. -/
def read? (cs : List Char) : Option Binary64 :=
  let (negative, digits) := signed cs
  let word := (String.ofList digits).toLower
  if word == "inf" || word == "infinity" then some (.infinite negative)
  else if word == "nan" then some .nan
  else pointed? negative digits

end ToolFlow.Decimal

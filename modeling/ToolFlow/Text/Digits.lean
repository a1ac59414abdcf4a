/-!
# Digit runs

Runs of ASCII digits and the number they denote in base ten, hexadecimal digits, and the length
beyond which a digit run is not converted.

The limit (`Text.digitLimit`) is one for both directions: a run of more digits is not read as an
integer, and an integer of more digits is not written. It is a setting of the machine with this
default, and the library leaves it as it is. Whoever meets it fails with an error that is no part of
what the library reports, so the limit shows in nearly every result on reading and writing.

The numbers that runs denote have no limit: leading zeros count as digits, and nothing is rounded.
-/

namespace ToolFlow.Text

/-- Whether the characters are one or more ASCII digits. -/
def isDecimal (cs : List Char) : Bool :=
  !cs.isEmpty && cs.all Char.isDigit

/-- The value of one digit. -/
def digitValue (c : Char) : Nat :=
  c.toNat - '0'.toNat

/-- The number that a run of digits denotes in the given base, after the digits already read. -/
def valueFrom (base : Nat) (start : Nat) (digits : List Nat) : Nat :=
  digits.foldl (fun n d => base * n + d) start

/-- The number that a run of ASCII digits denotes in base ten. -/
def decimalValue (cs : List Char) : Nat :=
  valueFrom 10 0 (cs.map digitValue)

/-- The digits of a number in base ten. -/
def decimalChars (n : Nat) : List Char :=
  Nat.toDigits 10 n

/-- The longest run of digits that is converted to or from an integer. -/
def digitLimit : Nat := 4300

/-- The value of a hexadecimal digit, in either case. -/
def hexDigit? (c : Char) : Option Nat :=
  if c.isDigit then some (c.toNat - '0'.toNat)
  else if 'a' ≤ c && c ≤ 'f' then some (c.toNat - 'a'.toNat + 10)
  else if 'A' ≤ c && c ≤ 'F' then some (c.toNat - 'A'.toNat + 10)
  else none

/-- The number that hexadecimal digits denote, if all of them are digits. -/
def hexValue? (cs : List Char) : Option Nat :=
  (cs.mapM hexDigit?).map (valueFrom 16 0)

/-- Digits padded with zeros in front up to a width. -/
def padded (width : Nat) (digits : List Char) : List Char :=
  List.replicate (width - digits.length) '0' ++ digits

/-- A number in lower-case hexadecimal digits, at least as many as the width. -/
def hexChars (width n : Nat) : List Char :=
  padded width (Nat.toDigits 16 n)

/-- A number in decimal digits, at least as many as the width. -/
def paddedNumber (width n : Nat) : String :=
  String.ofList (padded width (decimalChars n))

end ToolFlow.Text

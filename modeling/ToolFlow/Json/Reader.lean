import ToolFlow.Text.Digits
import ToolFlow.Value.Basic

/-!
# Reading JSON

One JSON value from a text. Beside the standard grammar the names NaN, Infinity and -Infinity are
read, a repeated key keeps its first place and takes its last value, half of a surrogate pair on its
own reads as the replacement character, and an integer may be limited in its digits.

The reader goes through the characters once, and each function answers what it read together with
what is left. Lists and objects are read by a mutual recursion (`readValue`, `readItems`,
`readFields`) with a bound on the calls. Each call takes one character at least or ends the reading,
so twice as many calls as there are characters are enough, and the bound of `read?` is never met.

The nesting of lists and objects has no limit of its own. A reader on a machine stops at a depth
that depends on the machine, and this limit is left out: the results on reading hold for texts of
any depth.

## Main definitions

* `readValue`: a value at the start of some characters.
* `decode?`: the value of a whole text with integers of limited length, as responses are read.
-/

namespace ToolFlow.Json

/-- Whether a character is a space between tokens. -/
def isSpace (c : Char) : Bool :=
  c == ' ' || c == '\t' || c == '\n' || c == '\r'

/-- What is left after the spaces between tokens. -/
def skipSpace (cs : List Char) : List Char :=
  cs.dropWhile isSpace

/-- What is left after a given start. -/
def after? (start : List Char) (cs : List Char) : Option (List Char) :=
  if start.isPrefixOf cs then some (cs.drop start.length) else none

/-! ### Texts -/

/-- The character that a one-letter escape stands for. -/
def escape? : Char → Option Char
  | '"' => some '"'
  | '\\' => some '\\'
  | '/' => some '/'
  | 'b' => some '\x08'
  | 'f' => some '\x0c'
  | 'n' => some '\n'
  | 'r' => some '\r'
  | 't' => some '\t'
  | _ => none

/-- The character of a code unit that is not part of a pair. -/
def unitChar (unit : Nat) : Char :=
  if 0xD800 ≤ unit && unit < 0xE000 then '\uFFFD' else Char.ofNat unit

/-- The character of a surrogate pair. -/
def pairChar (high low : Nat) : Char :=
  Char.ofNat (0x10000 + (high - 0xD800) * 0x400 + (low - 0xDC00))

/-- Whether a code unit is the first half of a pair. -/
def isHigh (unit : Nat) : Bool := 0xD800 ≤ unit && unit < 0xDC00

/-- Whether a code unit is the second half of a pair. -/
def isLow (unit : Nat) : Bool := 0xDC00 ≤ unit && unit < 0xE000

/-- The code unit of four hexadecimal digits. -/
def unit? (a b c d : Char) : Option Nat :=
  Text.hexValue? [a, b, c, d]

/-- The rest of a text after its opening quote; what was read so far stands in reverse. -/
def readChars (sofar : List Char) : List Char → Option (List Char × List Char)
  | [] => none
  | '"' :: rest => some (sofar.reverse, rest)
  | '\\' :: 'u' :: a :: b :: c :: d :: '\\' :: 'u' :: e :: f :: g :: h :: rest =>
    match unit? a b c d, unit? e f g h with
    | some u, some v =>
      if isHigh u && isLow v then readChars (pairChar u v :: sofar) rest
      else readChars (unitChar u :: sofar) ('\\' :: 'u' :: e :: f :: g :: h :: rest)
    | _, _ => none
  | '\\' :: 'u' :: a :: b :: c :: d :: rest =>
    match unit? a b c d with
    | some u => readChars (unitChar u :: sofar) rest
    | none => none
  | '\\' :: c :: rest =>
    match escape? c with
    | some e => readChars (e :: sofar) rest
    | none => none
  | c :: rest => if c.toNat < 0x20 || c == '\\' then none else readChars (c :: sofar) rest
termination_by cs => cs.length

/-! ### Numbers -/

/-- A run of digits and what follows it. -/
def digitRun (cs : List Char) : List Char × List Char :=
  (cs.takeWhile Char.isDigit, cs.dropWhile Char.isDigit)

/-- The whole digits of a number: a zero alone or a run that does not start with one. -/
def wholePart? : List Char → Option (List Char × List Char)
  | '0' :: rest => some (['0'], rest)
  | cs => if (digitRun cs).1.isEmpty then none else some (digitRun cs)

/-- The digits after a point, none when there is no point followed by a digit. -/
def fractionPart : List Char → List Char × List Char
  | '.' :: rest => if (digitRun rest).1.isEmpty then ([], '.' :: rest) else digitRun rest
  | cs => ([], cs)

/-- The exponent, if there is a complete one. -/
def exponentPart? (cs : List Char) : Option (Int × List Char) :=
  match cs with
  | e :: rest =>
    if e == 'e' || e == 'E' then
      let (negative, rest) := match rest with
        | '-' :: rest => (true, rest)
        | '+' :: rest => (false, rest)
        | rest => (false, rest)
      let (digits, rest) := digitRun rest
      if digits.isEmpty then none
      else
        let n : Int := Text.decimalValue digits
        some (if negative then -n else n, rest)
    else none
  | [] => none

/-- A number after its sign: an integer unless it has a fraction or an exponent. -/
def readNumber (limit : Option Nat) (negative : Bool) (cs : List Char) :
    Option (Value × List Char) := do
  let (whole, rest) ← wholePart? cs
  let (fraction, rest) := fractionPart rest
  match fraction, exponentPart? rest with
  | [], none =>
    if limit.any (· < whole.length) then none
    else
      let n : Int := Text.decimalValue whole
      some (.int (if negative then -n else n), rest)
  | _, none => some (.float (.ofDecimal negative (whole ++ fraction) (-fraction.length)), rest)
  | _, some (e, rest) =>
    some (.float (.ofDecimal negative (whole ++ fraction) (e - fraction.length)), rest)

/-- The values that are written as names. -/
def constants : List (String × Value) :=
  [("null", .null), ("true", .bool true), ("false", .bool false), ("NaN", .float .nan),
    ("Infinity", .float (.infinite false)), ("-Infinity", .float (.infinite true))]

/-- A value that is neither text nor collection. -/
def readScalar (limit : Option Nat) (cs : List Char) : Option (Value × List Char) :=
  match constants.findSome? fun c => (after? c.1.toList cs).map fun rest => (c.2, rest) with
  | some found => some found
  | none =>
    match cs with
    | '-' :: rest => readNumber limit true rest
    | cs => readNumber limit false cs

/-! ### Values -/

mutual

/-- A value at the start of the characters, which may not be a space, and what follows it. -/
def readValue (limit : Option Nat) : Nat → List Char → Option (Value × List Char)
  | 0, _ => none
  | fuel + 1, cs =>
    match cs with
    | '"' :: rest => (readChars [] rest).map fun (s, rest) => (.text (String.ofList s), rest)
    | '[' :: rest =>
      match skipSpace rest with
      | ']' :: rest => some (.list [], rest)
      | rest => readItems limit fuel [] rest
    | '\x7b' :: rest =>
      match skipSpace rest with
      | '\x7d' :: rest => some (.object [], rest)
      | rest => readFields limit fuel [] rest
    | cs => readScalar limit cs

/-- The items of a list from the next one on; those read so far stand in reverse. -/
def readItems (limit : Option Nat) : Nat → List Value → List Char → Option (Value × List Char)
  | 0, _, _ => none
  | fuel + 1, sofar, cs => do
    let (v, rest) ← readValue limit fuel cs
    match skipSpace rest with
    | ',' :: rest => readItems limit fuel (v :: sofar) (skipSpace rest)
    | ']' :: rest => some (.list (v :: sofar).reverse, rest)
    | _ => none

/-- The fields of an object from the next one on; those read so far stand in reverse. -/
def readFields (limit : Option Nat) : Nat → List (String × Value) → List Char →
    Option (Value × List Char)
  | 0, _, _ => none
  | fuel + 1, sofar, cs => do
    let (name, rest) ← match cs with
      | '"' :: rest => readChars [] rest
      | _ => none
    let rest ← after? [':'] (skipSpace rest)
    let (v, rest) ← readValue limit fuel (skipSpace rest)
    let sofar := (String.ofList name, v) :: sofar
    match skipSpace rest with
    | ',' :: rest => readFields limit fuel sofar (skipSpace rest)
    | '\x7d' :: rest => some (.object (Fields.ofPairs sofar.reverse), rest)
    | _ => none

end

/-- The value that a text denotes, if it is JSON whose integers keep the limit. -/
def read? (limit : Option Nat) (s : String) : Option Value := do
  let cs := s.toList
  let (v, rest) ← readValue limit (2 * cs.length + 1) (skipSpace cs)
  if (skipSpace rest).isEmpty then some v else none

/-- The value that a text denotes; integers beyond the digit limit are refused. -/
def decode? (s : String) : Option Value :=
  read? (some Text.digitLimit) s

end ToolFlow.Json

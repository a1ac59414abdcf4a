import ToolFlow.Decimal.Reading
import ToolFlow.Text.Blank
import ToolFlow.Text.DecimalDigit
import ToolFlow.Text.LetterCase
import ToolFlow.Yaml.Scalar
import ToolFlow.Yaml.ScalarText
import ToolFlow.Yaml.Tag

/-!
# Reading scalars

The scalar that a text stands for under a tag: truth values, integers, floating-point numbers, days
and moments, and bytes in base 64. A tag may be put before any text, so each reading may fail.

A plain scalar gets a tag only if its text has the form that goes with it, and yet its text need not
convert: a day may not exist, an integer may have too many digits, or a form may be wider than what
the conversion takes. Under a tag that was written out any text may stand. So each kind has an
obstacle of its own, with what the error of the conversion shows, but for bytes, where a failure
counts as no YAML.

## Main definitions

* `integer`, `float`, `boolean`, `timestamp`, `binary`: one reader for each kind.
* `scalarOf`: the scalar of a text with a tag, and `scalarTags`, the tags that it knows.
-/

namespace ToolFlow.Yaml

/-! ### Numbers -/

/-- The text without underscores. -/
def withoutLines (s : String) : List Char :=
  s.toList.filter (· != '_')

/-- Whether a character is a digit of a base. -/
def isDigitOf (base : Nat) (c : Char) : Bool :=
  (Text.hexDigit? c).any (· < base)

/-- The letter that marks a base after a zero, if it has one. -/
def baseMark? : Nat → Option Char
  | 2 => some 'b'
  | 8 => some 'o'
  | 16 => some 'x'
  | _ => none

/-- The digits without a zero and the mark of their base, when they start with these. -/
def withoutBaseMark (base : Nat) (cs : List Char) : List Char :=
  match cs with
  | '0' :: letter :: rest => if baseMark? base == some letter.toLower then rest else cs
  | _ => cs

/-- A number as it is commonly written: white space around it does not count, and the digits may be
those of any script. -/
def commonForm (cs : List Char) : List Char :=
  Text.trimSpace (Text.plainDigits cs)

/-- An integer in a base, with a sign and the mark of the base before it. -/
def integerIn (base : Nat) (cs : List Char) : Except Obstacle Int :=
  let (negative, marked) := Decimal.signed (commonForm cs)
  let digits := withoutBaseMark base marked
  let run := digits.takeWhile (isDigitOf base)
  if base == 10 && Text.digitLimit < run.length then .error (.tooManyDigits run.length)
  else if digits.isEmpty || run.length < digits.length then
    .error (.notInteger base (String.ofList cs))
  else
    let n : Int := Text.valueFrom base 0 (digits.filterMap Text.hexDigit?)
    .ok (if negative then -n else n)

/-- The number that groups in base sixty denote. -/
def sixtieths (groups : List Int) : Int :=
  groups.foldl (fun n group => 60 * n + group) 0

/-- The integer of a scalar. -/
def integer (s : String) : Except Obstacle Int := do
  let cs := withoutLines s
  if cs.isEmpty then throw .emptyNumber
  else
    let (negative, cs) := Decimal.signed cs
    let n ← (show Except Obstacle Int from match cs with
      | ['0'] => .ok 0
      | '0' :: 'b' :: rest => integerIn 2 rest
      | '0' :: 'x' :: rest => integerIn 16 rest
      | '0' :: _ => integerIn 8 cs
      | [] => .error .emptyNumber
      | cs =>
        if cs.contains ':' then do
          let groups ← (Text.splitOnP (· == ':') cs).mapM (integerIn 10)
          return sixtieths groups
        else integerIn 10 cs)
    return if negative then -n else n

/-- A floating-point number as it is commonly written. -/
def floatOf (cs : List Char) : Except Obstacle Binary64 :=
  match Decimal.read? (commonForm cs) with
  | some x => .ok x
  | none => .error (.notFloat (String.ofList cs))

/-- The sum of groups in base sixty, the last group first, each times its power of sixty, which has
to be a floating-point number. -/
def sixtiethSum : Nat → Binary64 → List Binary64 → Except Obstacle Binary64
  | _, sum, [] => .ok sum
  | power, sum, group :: rest =>
    let factor := Binary64.ofInt power
    if factor.isFinite then sixtiethSum (60 * power) (sum.add (group.mul factor)) rest
    else .error .beyondFloat

/-- The floating-point number of a scalar. The word for what is not a number always means the same
occurrence of it, and any other text one of its own, told apart by a payload. -/
def float (payload : Nat) (s : String) : Except Obstacle Binary64 := do
  let cs := (Text.lower (String.ofList (withoutLines s))).toList
  if cs.isEmpty then throw .emptyNumber
  else
    let (negative, cs) := Decimal.signed cs
    let x ← (show Except Obstacle Binary64 from match String.ofList cs with
      | ".inf" => .ok (.infinite false)
      | ".nan" => .ok .nan
      | _ =>
        if cs.contains ':' then do
          let groups ← (Text.splitOnP (· == ':') cs).mapM floatOf
          (Binary64.withPayload payload) <$> sixtiethSum 1 .zero groups.reverse
        else (Binary64.withPayload payload) <$> floatOf cs)
    return if negative then x.neg else x

/-- The truth value of a scalar. -/
def boolean (s : String) : Except Obstacle Bool :=
  let word := Text.lower s
  if ["yes", "true", "on"].contains word then .ok true
  else if ["no", "false", "off"].contains word then .ok false
  else .error (.notBoolean word)

/-! ### Timestamps -/

/-- The microseconds of the digits of a fraction of a second. -/
def microsecondsOf (fraction : List Char) : Nat :=
  let digits := fraction.take 6
  Text.decimalValue (digits ++ List.replicate (6 - digits.length) '0')

/-- The offset of a timestamp in seconds; it is less than a day. -/
def offsetOf : Option (Option Char × List Char × List Char) → Except Obstacle (Option Int)
  | none => .ok none
  | some (none, _, _) => .ok (some 0)
  | some (some sign, hours, minutes) =>
    let seconds : Int := Text.decimalValue hours * 3600 + Text.decimalValue minutes * 60
    let offset := if sign == '-' then -seconds else seconds
    if seconds < 86400 then .ok (some offset)
    else .error (.impossibleDate ("offset must be a timedelta strictly between " ++
      "-timedelta(hours=24) and timedelta(hours=24), not " ++
      Scalar.durationLiteral offset ++ "."))

/-- The day or moment of a scalar; a line break may follow it. -/
def timestamp (s : String) : Except Obstacle Scalar := do
  match Tag.stamp? (Tag.withoutLastBreak s.toList) with
  | none => throw .notTimestamp
  | some stamp =>
    let date : Date :=
      { year := Text.decimalValue stamp.year, month := Text.decimalValue stamp.month
        day := Text.decimalValue stamp.day }
    match stamp.time with
    | none =>
      match Calendar.dateProblem? date with
      | some problem => throw (.impossibleDate problem)
      | none => return .date date
    | some (hour, minute, second, fraction) =>
      let offset ← offsetOf stamp.zone
      let moment : Moment :=
        { date, hour := Text.decimalValue hour, minute := Text.decimalValue minute
          second := Text.decimalValue second, microsecond := microsecondsOf fraction, offset }
      match Calendar.momentProblem? moment with
      | some problem => throw (.impossibleDate problem)
      | none => return .moment moment

/-! ### Bytes -/

/-- The value of a character of base 64. -/
def base64Digit? (c : Char) : Option Nat :=
  if 'A' ≤ c && c ≤ 'Z' then some (c.toNat - 'A'.toNat)
  else if 'a' ≤ c && c ≤ 'z' then some (c.toNat - 'a'.toNat + 26)
  else if c.isDigit then some (c.toNat - '0'.toNat + 52)
  else if c == '+' then some 62
  else if c == '/' then some 63
  else none

/-- The bytes of digits of base 64, four at a time. -/
def base64Bytes : List Nat → List UInt8
  | a :: b :: c :: d :: rest =>
    (a * 4 + b / 16).toUInt8 :: (b % 16 * 16 + c / 4).toUInt8 :: (c % 4 * 64 + d).toUInt8 ::
      base64Bytes rest
  | [a, b, c] => [(a * 4 + b / 16).toUInt8, (b % 16 * 16 + c / 4).toUInt8]
  | [a, b] => [(a * 4 + b / 16).toUInt8]
  | _ => []

/-- The digits of base 64 in characters, after those found so far, the latest first. They end where
padding completes a group of four; padding that completes nothing and other characters are passed
over. -/
def base64Digits? (found : List Nat) (padding : Nat) : List Char → Option (List Nat)
  | [] => if found.length % 4 == 0 then some found.reverse else none
  | c :: rest =>
    match base64Digit? c with
    | some digit => base64Digits? (digit :: found) 0 rest
    | none =>
      if c == '=' && 2 ≤ found.length % 4 then
        if 4 ≤ found.length % 4 + (padding + 1) then some found.reverse
        else base64Digits? found (padding + 1) rest
      else base64Digits? found padding rest

/-- The bytes of a scalar in base 64. -/
def binary (s : String) : Except Obstacle Scalar :=
  if s.toList.any fun c => c.toNat ≥ 0x80 then malformed
  else
    match base64Digits? [] 0 s.toList with
    | some digits => .ok (.bytes (base64Bytes digits))
    | none => malformed

/-! ### By tags -/

/-- The scalar of a text with a tag. -/
def scalarOf (payload : Nat) (tag s : String) : Except Obstacle Scalar :=
  if tag == Tag.text then .ok (.text s)
  else if tag == Tag.null then .ok .null
  else if tag == Tag.bool then (boolean s).map .bool
  else if tag == Tag.int then (integer s).map fun n => .number (.int n)
  else if tag == Tag.float then (float payload s).map fun x => .number (.float x)
  else if tag == Tag.timestamp then timestamp s
  else if tag == Tag.binary then binary s
  else malformed

/-- The tags whose nodes are scalars. -/
def scalarTags : List String :=
  [Tag.text, Tag.null, Tag.bool, Tag.int, Tag.float, Tag.timestamp, Tag.binary]

end ToolFlow.Yaml

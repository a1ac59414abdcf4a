import ToolFlow.Text.Digits
import ToolFlow.Text.Search

/-!
# Tags of YAML nodes

The tag that a plain scalar gets from its text: truth values, integers in four bases and in base
sixty, floating-point numbers, null, timestamps, and two signs with a meaning of their own. All else
is text.

The forms are those of YAML 1.1. They overlap, and the order in which they are tried is that of
`Tag.ofLine`: a number with a point and base sixty is a floating-point number before it is anything
else, and a day is none of the numbers because of its dashes. The tests are on characters and
convert nothing, so a text may have the form of a number and still not be one.
-/

namespace ToolFlow.Yaml.Tag

/-- How the tags of the common types start. -/
def common : String := "tag:yaml.org,2002:"

def null : String := common ++ "null"
def bool : String := common ++ "bool"
def int : String := common ++ "int"
def float : String := common ++ "float"
def text : String := common ++ "str"
def timestamp : String := common ++ "timestamp"
def binary : String := common ++ "binary"
def sequence : String := common ++ "seq"
def mapping : String := common ++ "map"
def set : String := common ++ "set"
def pairs : String := common ++ "pairs"
def orderedMap : String := common ++ "omap"

/-- The tag of the sign by which one mapping takes over the entries of another. -/
def merge : String := common ++ "merge"

/-- The tag of the sign for a default value. -/
def value : String := common ++ "value"

/-- The tag of the signs that only the grammar uses. -/
def grammar : String := common ++ "yaml"

/-! ### Shapes of plain scalars -/

/-- The characters after a sign, if there is one. -/
def afterSign : List Char → List Char
  | '-' :: rest => rest
  | '+' :: rest => rest
  | cs => cs

/-- Whether a character is a digit or an underscore. -/
def isDigitOrLine (c : Char) : Bool := c.isDigit || c == '_'

/-- Whether characters are an exponent with its sign. -/
def isExponent : List Char → Bool
  | [] => true
  | e :: sign :: digits =>
    (e == 'e' || e == 'E') && (sign == '-' || sign == '+') && Text.isDecimal digits
  | _ => false

/-- Whether characters are digits below sixty. -/
def isSixtieth : List Char → Bool
  | [d] => d.isDigit
  | [t, d] => '0' ≤ t && t ≤ '5' && d.isDigit
  | _ => false

/-- Whether characters are a digit and then digits and underscores. -/
def isDigits : List Char → Bool
  | c :: rest => c.isDigit && rest.all isDigitOrLine
  | [] => false

/-- Whether characters are such digits and do not start with zero. -/
def isPositiveDigits (cs : List Char) : Bool :=
  isDigits cs && cs.head? != some '0'

/-- Whether characters are an integer in base two, eight, ten, sixteen or sixty. -/
def isInteger (cs : List Char) : Bool :=
  match afterSign cs with
  | ['0'] => true
  | '0' :: 'b' :: rest => !rest.isEmpty && rest.all fun c => c == '0' || c == '1' || c == '_'
  | '0' :: 'x' :: rest =>
    !rest.isEmpty && rest.all fun c => (Text.hexDigit? c).isSome || c == '_'
  | '0' :: rest => rest.all fun c => ('0' ≤ c && c ≤ '7') || c == '_'
  | cs =>
    match Text.splitOnP (· == ':') cs with
    | first :: groups => isPositiveDigits first && groups.all isSixtieth
    | [] => false

/-- Whether characters are a number with a point in base ten. -/
def isPointed (cs : List Char) : Bool :=
  match cs with
  | '.' :: rest =>
    isDigits (rest.takeWhile isDigitOrLine) && isExponent (rest.dropWhile isDigitOrLine)
  | cs =>
    let cs := afterSign cs
    match cs.dropWhile isDigitOrLine with
    | '.' :: rest =>
      isDigits (cs.takeWhile isDigitOrLine) && isExponent (rest.dropWhile isDigitOrLine)
    | _ => false

/-- Whether characters are a number with a point in base sixty. -/
def isPointedSixty (cs : List Char) : Bool :=
  match Text.splitOnP (· == ':') (afterSign cs) with
  | first :: second :: groups =>
    match (second :: groups).reverse with
    | last :: middle =>
      isDigits first && middle.all isSixtieth && isSixtieth (last.takeWhile (· != '.')) &&
        (match last.dropWhile (· != '.') with
          | '.' :: rest => rest.all isDigitOrLine
          | _ => false)
    | [] => false
  | _ => false

/-- The words for the numbers that are not finite. -/
def infiniteWords : List String := [".inf", ".Inf", ".INF"]

/-- The words for what is not a number. -/
def nanWords : List String := [".nan", ".NaN", ".NAN"]

/-- Whether a text is a floating-point number. -/
def isFloat (text : String) : Bool :=
  let cs := text.toList
  isPointed cs || isPointedSixty cs || infiniteWords.contains (String.ofList (afterSign cs)) ||
    nanWords.contains text

/-- The words for truth values. -/
def booleanWords : List String :=
  ["yes", "Yes", "YES", "no", "No", "NO", "true", "True", "TRUE", "false", "False", "FALSE",
    "on", "On", "ON", "off", "Off", "OFF"]

/-- The words for null. -/
def nullWords : List String := ["~", "null", "Null", "NULL", ""]

/-! ### Timestamps -/

/-- The parts of a timestamp, as digits. -/
structure Stamp where
  year : List Char
  month : List Char
  day : List Char
  /-- Hour, minute, second and fraction. -/
  time : Option (List Char × List Char × List Char × List Char)
  /-- Sign, hours and minutes of the offset; universal time has no sign. -/
  zone : Option (Option Char × List Char × List Char)

/-- A run of digits of a length within bounds, and what follows it. -/
def digitsBetween (least most : Nat) (cs : List Char) : Option (List Char × List Char) :=
  let run := (cs.takeWhile Char.isDigit).take most
  if run.length < least then none else some (run, cs.drop run.length)

/-- What follows a character. -/
def after? (c : Char) : List Char → Option (List Char)
  | d :: rest => if c == d then some rest else none
  | [] => none

/-- The offset of a timestamp, up to its end. -/
def zone? (cs : List Char) : Option (Option (Option Char × List Char × List Char)) :=
  match cs, cs.dropWhile fun c => c == ' ' || c == '\t' with
  | [], _ => some none
  | _, ['Z'] => some (some (none, [], []))
  | _, sign :: rest =>
    if sign == '-' || sign == '+' then do
      let (hours, rest) ← digitsBetween 1 2 rest
      match rest with
      | [] => some (some (some sign, hours, []))
      | ':' :: rest =>
        let (minutes, rest) ← digitsBetween 2 2 rest
        if rest.isEmpty then some (some (some sign, hours, minutes)) else none
      | _ => none
    else none
  | _, [] => none

/-- What follows the sign between a day and a time of day. -/
def afterDay? : List Char → Option (List Char)
  | 'T' :: rest => some rest
  | 't' :: rest => some rest
  | ' ' :: rest => some (rest.dropWhile fun c => c == ' ' || c == '\t')
  | '\t' :: rest => some (rest.dropWhile fun c => c == ' ' || c == '\t')
  | _ => none

/-- The parts of a timestamp. -/
def stamp? (cs : List Char) : Option Stamp := do
  let (year, rest) ← digitsBetween 4 4 cs
  let (month, rest) ← digitsBetween 1 2 (← after? '-' rest)
  let (day, rest) ← digitsBetween 1 2 (← after? '-' rest)
  if rest.isEmpty then some { year, month, day, time := none, zone := none }
  else
    let (hour, rest) ← digitsBetween 1 2 (← afterDay? rest)
    let (minute, rest) ← digitsBetween 2 2 (← after? ':' rest)
    let (second, rest) ← digitsBetween 2 2 (← after? ':' rest)
    let (fraction, rest) := match rest with
      | '.' :: rest => (rest.takeWhile Char.isDigit, rest.dropWhile Char.isDigit)
      | rest => ([], rest)
    let zone ← zone? rest
    some { year, month, day, time := some (hour, minute, second, fraction), zone }

/-- Whether a text is a timestamp; a day on its own has two digits for month and day. -/
def isTimestamp (text : String) : Bool :=
  match stamp? text.toList with
  | some stamp =>
    stamp.time.isSome || (stamp.month.length == 2 && stamp.day.length == 2)
  | none => false

/-! ### The tag of a plain scalar -/

/-- The characters without a line break at their end. -/
def withoutLastBreak (cs : List Char) : List Char :=
  if cs.getLast? == some '\n' then cs.dropLast else cs

/-- The tag of a plain scalar of one line. -/
def ofLine (s : String) : String :=
  if booleanWords.contains s then bool
  else if isFloat s then float
  else if isInteger s.toList then int
  else if s == "<<" then merge
  else if nullWords.contains s then null
  else if isTimestamp s then timestamp
  else if s == "=" then value
  else if ["!", "&", "*"].contains s then grammar
  else text

/-- The tag that a plain scalar gets from its text. A line break at its end does not count, unless
there is nothing else. -/
def ofPlain (s : String) : String :=
  if s == "\n" then text else ofLine (String.ofList (withoutLastBreak s.toList))

end ToolFlow.Yaml.Tag

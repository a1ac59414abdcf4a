import ToolFlow.Decimal.Shortest
import ToolFlow.Value.Literal

/-!
# Texts with placeholders

A text in which a percent sign starts a placeholder for an argument: flags, a width, a precision and
the letter of a conversion. Two percent signs stand for one. Placeholders are filled from left to
right, each as far as it can be read, and the first problem ends the filling.

A text is first cut into its parts (`Text.parts`), where a placeholder may be broken off at the end
or have a letter that is no conversion, and then the parts are filled (`Text.fillParts`). Arguments
are a list, or one value whose fields placeholders may name; those of a list that are left over at
the end are a problem too.

Each problem has the class and the text of the error that it is reported by (`FillProblem`). Widths
and precisions beyond what a machine can hold are among the problems.
-/

namespace ToolFlow.Text

/-- Why a text cannot be filled. -/
inductive FillProblem where
  | incomplete
  | incompleteKey
  | unsupported (letter : Char) (position : Nat)
  | tooFew
  | tooMany
  | needsMapping
  | noKey (name : String)
  | badWidth
  /-- A width or precision from the arguments is beyond a machine word. -/
  | hugeWidth
  | hugePrecision
  /-- A width or precision that is written out is beyond a machine word. -/
  | writtenWidth
  | writtenPrecision
  /-- An integer is to have more digits than there can be. -/
  | tooManyDigits
  /-- A width is too large to be filled up to. -/
  | noRoom
  /-- A key was given to a value without keys. -/
  | notKeyed
  | notNumber (letter : Char) (typeName : String)
  | notInteger (letter : Char) (typeName : String)
  | notReal (typeName : String)
  | notCharacter
  | noCharacter
  | infiniteInteger
  | nanInteger
  | oversizedInteger

namespace FillProblem

/-- The class name of a problem. -/
def label : FillProblem → String
  | incomplete => "ValueError"
  | incompleteKey => "ValueError"
  | unsupported _ _ => "ValueError"
  | noKey _ => "KeyError"
  | nanInteger => "ValueError"
  | writtenWidth => "ValueError"
  | writtenPrecision => "ValueError"
  | tooManyDigits => "OverflowError"
  | noRoom => "MemoryError"
  | infiniteInteger => "OverflowError"
  | oversizedInteger => "OverflowError"
  | hugeWidth => "OverflowError"
  | hugePrecision => "OverflowError"
  | noCharacter => "OverflowError"
  | _ => "TypeError"

/-- The text of a problem. -/
def message : FillProblem → String
  | incomplete => "incomplete format"
  | incompleteKey => "incomplete format key"
  | unsupported letter position =>
    let shown := if 31 ≤ letter.toNat && letter.toNat ≤ 126 then letter else '?'
    let code := String.ofList (Nat.toDigits 16 letter.toNat)
    s!"unsupported format character '{shown}' (0x{code}) at index {position}"
  | tooFew => "not enough arguments for format string"
  | tooMany => "not all arguments converted during string formatting"
  | needsMapping => "format requires a mapping"
  | noKey name => quoted name
  | badWidth => "* wants int"
  | hugeWidth => "Python int too large to convert to C ssize_t"
  | hugePrecision => "Python int too large to convert to C int"
  | writtenWidth => "width too big"
  | writtenPrecision => "precision too big"
  | tooManyDigits => "precision too large"
  | noRoom => ""
  | notKeyed => "list indices must be integers or slices, not str"
  | notNumber letter typeName =>
    s!"%{letter} format: a real number is required, not {typeName}"
  | notInteger letter typeName => s!"%{letter} format: an integer is required, not {typeName}"
  | notReal typeName => s!"must be real number, not {typeName}"
  | notCharacter => "%c requires int or char"
  | noCharacter => "%c arg not in range(0x110000)"
  | infiniteInteger => "cannot convert float infinity to integer"
  | nanInteger => "cannot convert float NaN to integer"
  | oversizedInteger => "int too large to convert to float"

end FillProblem

/-! ### Parts -/

/-- A count that is written out or taken from the arguments. -/
inductive Count where
  | written (n : Nat)
  | argument

/-- A placeholder; it may lack its letter at the end of the text. -/
structure Placeholder where
  key : Option String := none
  flags : List Char := []
  width : Option Count := none
  precision : Option Count := none
  letter : Option Char
  /-- Where the letter is in the text. -/
  position : Nat

/-- Part of a text with placeholders. -/
inductive Part where
  | char (c : Char)
  | placeholder (p : Placeholder)
  /-- A placeholder whose key is not closed. -/
  | openKey

/-- The characters that can be flags. -/
def flagChars : List Char := ['-', '+', ' ', '#', '0']

/-- The letters of conversions. -/
def conversionLetters : List Char :=
  ['s', 'r', 'a', 'd', 'i', 'u', 'x', 'X', 'o', 'e', 'E', 'f', 'F', 'g', 'G', 'c']

/-- A count and what follows it. -/
def count? (cs : List Char) : Option Count × List Char :=
  match cs with
  | '*' :: rest => (some .argument, rest)
  | _ =>
    let digits := cs.takeWhile Char.isDigit
    if digits.isEmpty then (none, cs)
    else (some (.written (decimalValue digits)), cs.dropWhile Char.isDigit)

/-- The characters up to the bracket that closes a key, and those after it. -/
def keyChars : Nat → List Char → Option (List Char × List Char)
  | _, [] => none
  | depth, c :: rest =>
    if c == ')' then
      match depth with
      | 0 => some ([], rest)
      | depth + 1 => (keyChars depth rest).map fun (key, rest) => (c :: key, rest)
    else
      let depth := if c == '(' then depth + 1 else depth
      (keyChars depth rest).map fun (key, rest) => (c :: key, rest)

/-- The key of a placeholder, if it has one, and what follows; nothing when the key is not
closed. -/
def key? : List Char → Option (Option String × List Char)
  | '(' :: rest => (keyChars 0 rest).map fun (key, rest) => (some (String.ofList key), rest)
  | cs => some (none, cs)

/-- A precision and what follows it. -/
def precision? : List Char → Option Count × List Char
  | '.' :: rest =>
    match count? rest with
    | (none, rest) => (some (.written 0), rest)
    | found => found
  | cs => (none, cs)

/-- The placeholder after a percent sign and what follows it, given the length of the whole
text. -/
def placeholder (length : Nat) (cs : List Char) : Part × List Char :=
  match key? cs with
  | none => (.openKey, [])
  | some (key, cs) =>
    let flags := cs.takeWhile flagChars.contains
    let (width, cs) := count? (cs.dropWhile flagChars.contains)
    let (precision, cs) := precision? cs
    let cs := if ['h', 'l', 'L'].contains (cs.headD ' ') then cs.drop 1 else cs
    (.placeholder
      { key, flags, width, precision, letter := cs.head?, position := length - cs.length },
      cs.drop 1)

/-- The parts of a text, at most so many. -/
def partsWithin (length : Nat) : Nat → List Char → List Part
  | 0, _ => []
  | _, [] => []
  | fuel + 1, '%' :: '%' :: rest => .char '%' :: partsWithin length fuel rest
  | fuel + 1, c :: rest =>
    if c == '%' then
      let (part, rest) := placeholder length rest
      part :: partsWithin length fuel rest
    else .char c :: partsWithin length fuel rest

/-- The parts of a text. -/
def parts (s : String) : List Part :=
  partsWithin s.length s.length s.toList

/-! ### Conversions -/

/-- A sign and the characters after it. -/
structure Signed where
  negative : Bool
  body : List Char

/-- The characters of a sign. -/
def signChars (flags : List Char) (negative : Bool) : List Char :=
  if negative then ['-']
  else if flags.contains '+' then ['+']
  else if flags.contains ' ' then [' ']
  else []

/-- A number filled up to a width, with zeros after its sign or with spaces. -/
def fillNumber (flags : List Char) (width : Nat) (lead : List Char) (s : Signed) : List Char :=
  let head := signChars flags s.negative ++ lead
  let missing := width - (head.length + s.body.length)
  if flags.contains '-' then head ++ s.body ++ List.replicate missing ' '
  else if flags.contains '0' then head ++ List.replicate missing '0' ++ s.body
  else List.replicate missing ' ' ++ head ++ s.body

/-- A text filled up to a width with spaces. -/
def fillText (flags : List Char) (width : Nat) (cs : List Char) : List Char :=
  let missing := List.replicate (width - cs.length) ' '
  if flags.contains '-' then cs ++ missing else missing ++ cs

/-- The characters with all beyond ASCII escaped. -/
def asciiOnly (cs : List Char) : List Char :=
  cs.flatMap fun c =>
    if c.toNat < 0x80 then [c]
    else if c.toNat < 0x100 then '\\' :: 'x' :: hexChars 2 c.toNat
    else if c.toNat < 0x10000 then '\\' :: 'u' :: hexChars 4 c.toNat
    else '\\' :: 'U' :: hexChars 8 c.toNat

/-- The whole part of a number. -/
def wholeOf (letter : Char) : Value → Except FillProblem Int
  | .bool b => .ok (if b then 1 else 0)
  | .number (.int n) => .ok n
  | .number (.float (.nan _)) => .error .nanInteger
  | .number (.float (.infinite _)) => .error .infiniteInteger
  | .number (.float x) => .ok ((x.split?.map Prod.fst).getD 0)
  | v => .error (.notNumber letter v.typeName)

/-- An integer. -/
def integerOf (letter : Char) : Value → Except FillProblem Int
  | .bool b => .ok (if b then 1 else 0)
  | .number (.int n) => .ok n
  | v => .error (.notInteger letter v.typeName)

/-- A floating-point number. -/
def realOf : Value → Except FillProblem Binary64
  | .bool b => .ok (.ofInt (if b then 1 else 0))
  | .number (.float x) => .ok x
  | .number (.int n) =>
    let x := Binary64.ofInt n
    if x.isFinite then .ok x else .error .oversizedInteger
  | v => .error (.notReal v.typeName)

/-- An integer in a base with at least so many digits. -/
def baseDigits (base : Nat) (upper : Bool) (precision : Option Nat) (n : Int) : Signed :=
  let digits := padded (precision.getD 1) (Nat.toDigits base n.natAbs)
  { negative := n < 0, body := if upper then digits.map Char.toUpper else digits }

/-- The digits of a decimal up to so many, with zeros at the end. -/
def paddedDigits (count : Nat) (d : Decimal) : List Char :=
  d.digits ++ List.replicate (count - d.digits.length) '0'

/-- The decimal of a rank rounded to so many digits, zero included. -/
def roundedDecimal (count rank : Nat) : Decimal :=
  if rank = 0 then { digits := [], exponent := 0 } else Decimal.significant count rank

/-- A rank with one digit before the point, so many after it, and an exponent. -/
def scientificChars (places : Nat) (keepPoint : Bool) (rank : Nat) : List Char :=
  let d := roundedDecimal (places + 1) rank
  let digits := paddedDigits (places + 1) d
  let fraction := digits.drop 1
  digits.take 1 ++ (if fraction.isEmpty && !keepPoint then [] else '.' :: fraction) ++
    Decimal.exponentPart 2 d.exponent

/-- A rank in so many digits, positionally unless it is very small or large. Zeros at the end, and
a point with nothing after it, are only kept on demand. -/
def generalChars (count : Nat) (keepsZeros : Bool) (rank : Nat) : List Char :=
  let layout : Decimal.Layout := { lowest := -4, limit := count, keepsPlace := false }
  let d := roundedDecimal count rank
  if keepsZeros then
    let chars := layout.write { d with digits := paddedDigits count d }
    if chars.contains '.' then chars
    else chars.takeWhile Char.isDigit ++ '.' :: chars.dropWhile Char.isDigit
  else if rank = 0 then ['0']
  else layout.write d

/-- A rank as a letter has it. -/
def rankChars (letter : Char) (flags : List Char) (precision : Nat) (rank : Nat) : List Char :=
  match letter.toLower with
  | 'e' => scientificChars precision (flags.contains '#') rank
  | 'g' => generalChars (max precision 1) (flags.contains '#') rank
  | _ =>
    Decimal.places precision rank ++
      (if precision = 0 && flags.contains '#' then ['.'] else [])

/-- A floating-point number as a letter has it. -/
def realChars (letter : Char) (flags : List Char) (precision : Nat) (x : Binary64) : Signed :=
  let body := match x with
    | .nan _ => ['n', 'a', 'n']
    | .infinite _ => ['i', 'n', 'f']
    | .finite _ rank => rankChars letter flags precision rank
  { negative := x.isNegative, body := if letter.isUpper then body.map Char.toUpper else body }

/-- The character of a value. -/
def characterOf : Value → Except FillProblem Char
  | .bool b => .ok (if b then '\x01' else '\x00')
  | .number (.int n) =>
    if n < 0 || 0x110000 ≤ n then .error .noCharacter else .ok (Char.ofNat n.toNat)
  | .text s =>
    match s.toList with
    | [c] => .ok c
    | _ => .error .notCharacter
  | _ => .error .notCharacter

/-- What stands before the digits of an integer. -/
def baseLead (letter : Char) (flags : List Char) : List Char :=
  if !flags.contains '#' then []
  else if letter == 'x' then ['0', 'x']
  else if letter == 'X' then ['0', 'X']
  else if letter == 'o' then ['0', 'o']
  else []

/-- A value as a letter has it. -/
def convert (letter : Char) (flags : List Char) (width : Nat) (precision : Option Nat)
    (v : Value) : Except FillProblem (List Char) :=
  let cut (cs : List Char) : List Char := fillText flags width (cs.take (precision.getD cs.length))
  let integer (base : Nat) (n : Int) : List Char :=
    fillNumber flags width (baseLead letter flags)
      (baseDigits base (letter == 'X') precision n)
  if letter == 's' then .ok (cut v.display.toList)
  else if letter == 'r' then .ok (cut v.literal.toList)
  else if letter == 'a' then .ok (cut (asciiOnly v.literal.toList))
  else if letter == 'c' then (characterOf v).map fun c => fillText flags width [c]
  else if ['d', 'i', 'u'].contains letter then (wholeOf letter v).map (integer 10)
  else if letter == 'o' then (integerOf letter v).map (integer 8)
  else if letter == 'x' || letter == 'X' then (integerOf letter v).map (integer 16)
  else
    (realOf v).map fun x =>
      fillNumber flags width [] (realChars letter flags (precision.getD 6) x)

/-! ### Filling -/

/-- What placeholders are filled from. -/
structure Arguments where
  /-- The arguments that are still to be used, in order. -/
  left : List Value
  /-- The value whose parts keys name. -/
  whole : Option Value := none

/-- The next argument. -/
def Arguments.next (args : Arguments) : Except FillProblem (Value × Arguments) :=
  match args.left with
  | [] => .error .tooFew
  | v :: left => .ok (v, { args with left })

/-- The value of a count that stays below a bound, and the problem of one that does not, for one
that is written out and for one from the arguments. -/
def countValue (bound : Nat) (written taken : FillProblem) (args : Arguments) :
    Option Count → Except FillProblem (Option Int × Arguments)
  | none => .ok (none, args)
  | some (.written n) => if n < bound then .ok (some n, args) else .error written
  | some .argument => do
    let (v, args) ← args.next
    match v with
    | .number (.int n) =>
      if -(bound : Int) ≤ n ∧ n < bound then return (some n, args) else throw taken
    | .bool b => return (some (if b then 1 else 0), args)
    | _ => throw .badWidth

/-- The arguments that a key leaves to a placeholder. -/
def keyed (args : Arguments) : Option String → Except FillProblem Arguments
  | none => .ok args
  | some name =>
    match args.whole with
    | some (.object fields) =>
      match fields.lookup name with
      | some v => .ok { args with left := [v] }
      | none => .error (.noKey name)
    | some _ => .error .notKeyed
    | none => .error .needsMapping

/-- The letters of conversions to digits of an integer. -/
def integerLetters : List Char := ['d', 'i', 'u', 'x', 'X', 'o']

/-- The greatest number of digits that an integer can be given. -/
def mostDigits : Int := 2 ^ 31 - 4

/-- The least width that is too large to be filled up to. -/
def leastHugeWidth : Nat := 2 ^ 36

/-- Why a value is not converted with such a width and precision, although it is of the right
type. -/
def sizeProblem? (letter : Char) (width : Nat) (precision : Option Int) : Option FillProblem :=
  if integerLetters.contains letter && mostDigits < precision.getD 0 then some .tooManyDigits
  else if leastHugeWidth ≤ width then some .noRoom
  else none

/-- Fills one placeholder. -/
def fillPlaceholder (args : Arguments) (p : Placeholder) :
    Except FillProblem (List Char × Arguments) := do
  let args ← keyed args p.key
  let (width, args) ← countValue (2 ^ 63) .writtenWidth .hugeWidth args p.width
  let (precision, args) ←
    countValue (2 ^ 31) .writtenPrecision .hugePrecision args p.precision
  match p.letter with
  | none => throw .incomplete
  | some letter =>
    let (v, args) ← args.next
    if !conversionLetters.contains letter then throw (.unsupported letter p.position)
    let width := width.getD 0
    let flags := if width < 0 then '-' :: p.flags else p.flags
    let size := if width.natAbs < 2 ^ 63 then width.natAbs else 0
    match sizeProblem? letter size precision with
    | some problem =>
      let _ ← convert letter flags 0 none v
      throw problem
    | none => return (← convert letter flags size (precision.map Int.toNat) v, args)

/-- Fills parts in order. -/
def fillParts (args : Arguments) : List Part → Except FillProblem (List Char)
  | [] => if args.left.isEmpty || args.whole.isSome then .ok [] else .error .tooMany
  | .char c :: rest => (fillParts args rest).map (c :: ·)
  | .openKey :: _ => .error (if args.whole.isSome then .incompleteKey else .needsMapping)
  | .placeholder p :: rest => do
    let (chars, args) ← fillPlaceholder args p
    return chars ++ (← fillParts args rest)

/-- A single value as arguments; keys name the fields of an object, and a list has none. -/
def Arguments.single : Value → Arguments
  | .object fields => { left := [.object fields], whole := some (.object fields) }
  | .list items => { left := [.list items], whole := some (.list items) }
  | v => { left := [v] }

/-- The arguments of a list; a single object that is not empty also gives its fields. -/
def Arguments.ofList : List Value → Arguments
  | [.object (field :: fields)] => .single (.object (field :: fields))
  | left => { left }

/-- A text filled with arguments. -/
def fill (s : String) (args : Arguments) : Except FillProblem String :=
  (fillParts args (parts s)).map String.ofList

end ToolFlow.Text

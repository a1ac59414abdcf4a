import ToolFlow.Decimal.Reading
import ToolFlow.Text.Blank
import ToolFlow.Workflow.Validation

/-!
# Numbers among settings

Settings that are numbers come as numbers or as texts. A text may have blanks around it, a sign, and
single underscores between its digits; the text of an integer may end in a point and zeros.

An integer is looked for twice in a text: as it is usually written, and then with all that may stand
around and between its digits taken away. Only where both fail the text is refused, and the reason
is its size when it starts like an integer.
-/

namespace ToolFlow

namespace Text

/-! ### Integers -/

/-- The integer at the start of characters, how many of them it takes, and the others. It has a
zero in front only when it is zero. -/
def leadingInteger? (cs : List Char) : Option (Int × Nat × List Char) :=
  let (negative, cs) := match cs with
    | '-' :: rest => (true, rest)
    | cs => (false, cs)
  let (digits, rest) := cs.span Char.isDigit
  if digits.isEmpty || (digits.head? == some '0' && 1 < digits.length) then none
  else
    let n : Int := decimalValue digits
    some (if negative then (-n, digits.length + 1, rest) else (n, digits.length, rest))

/-- The integer that characters are, unless it takes too many of them. -/
def plainInteger? (cs : List Char) : Option Int :=
  match leadingInteger? cs with
  | some (n, size, []) => if digitLimit < size then none else some n
  | _ => none

/-- What is left of digits after zeros and single underscores, given the character before them. The
last zero stays when nothing or a point follows. -/
def afterZeros (last : Char) (underscore : Bool) : List Char → Option (List Char)
  | [] => some [last]
  | c :: rest =>
    if c == '0' then afterZeros c false rest
    else if c == '_' then if underscore then none else afterZeros c true rest
    else if c.isDigit || c == '-' then some (c :: rest)
    else if c == '.' then some (last :: c :: rest)
    else none

/-- The digits of an integer without zeros in front. -/
def withoutLeadingZeros : List Char → Option (List Char)
  | [] => none
  | c :: rest =>
    if c == '0' then afterZeros c false rest
    else if c.isDigit || c == '-' then some (c :: rest)
    else none

/-- The characters without a point that zeros, and nothing else, follow. -/
def withoutZeroFraction (cs : List Char) : List Char :=
  match cs.span (· != '.') with
  | (whole, '.' :: '0' :: rest) => if rest.all (· == '0') then whole else cs
  | _ => cs

/-- Whether two underscores stand side by side. -/
def hasDoubleUnderscore : List Char → Bool
  | '_' :: '_' :: _ => true
  | _ :: rest => hasDoubleUnderscore rest
  | [] => false

/-- The characters without underscores, if these stand one by one between others. -/
def withoutUnderscores? (cs : List Char) : Option (List Char) :=
  if cs.head? == some '_' || cs.getLast? == some '_' || hasDoubleUnderscore cs then none
  else some (cs.filter (· != '_'))

/-- The characters without a positive sign, which no negative sign may follow. -/
def withoutPlus : List Char → Option (List Char)
  | '+' :: '-' :: _ => none
  | '+' :: rest => some rest
  | cs => some cs

/-- The characters without zeros in front, which may follow a negative sign. -/
def withoutZeros : List Char → Option (List Char)
  | '-' :: rest => (withoutLeadingZeros rest).map ('-' :: ·)
  | cs => withoutLeadingZeros cs

/-- The integer of characters with blanks, a positive sign, zeros in front, underscores or a
fraction of zeros. -/
def looseInteger? (cs : List Char) : Option Int := do
  let cs ← withoutZeros (← withoutPlus (trimSpace cs))
  plainInteger? (← withoutUnderscores? (withoutZeroFraction cs))

/-- The integer of a text, or why it has none: it is too long only when it starts with an integer
that is. -/
def readInteger (s : String) : Except Issue.Cause Int :=
  let loose : Except Issue.Cause Int := match looseInteger? s.toList with
    | some n => .ok n
    | none => .error .unreadableInteger
  match leadingInteger? s.toList with
  | some (n, size, rest) =>
    if digitLimit < size then .error .oversizedInteger
    else if rest.isEmpty then .ok n
    else loose
  | none => loose

/-! ### Other numbers -/

/-- The number of a text. -/
def number? (s : String) : Option Binary64 :=
  (Decimal.read? (trimSpace s.toList)).orElse fun _ => do
    Decimal.read? (← withoutUnderscores? s.toList)

end Text

namespace Value

/-- An integer, or what stands for one. -/
def checkInteger : Value → Checked Int
  | number (.int n) => .valid n
  | number (.float x) =>
    match x.toInt? with
    | some n => if n.natAbs < 2 ^ 63 then .valid n else .fail .oversizedInteger
    | none => if x.isFinite then .fail .fractionalInteger else .fail .infiniteInteger
  | bool b => .valid (if b then 1 else 0)
  | text s =>
    match Text.readInteger s with
    | .ok n => .valid n
    | .error cause => .fail cause
  | _ => .fail .notInteger

/-- An integer above zero. -/
def checkPositiveInteger (v : Value) : Checked Int :=
  (checkInteger v).bind fun n => if n ≤ 0 then .fail .notPositive else .valid n

/-- A number, or what stands for one. -/
def checkNumber : Value → Checked Binary64
  | number (.int n) =>
    let x := Binary64.ofInt n
    if x.isFinite then .valid x else .fail .notNumber
  | number (.float x) => .valid x
  | bool b => .valid (.ofInt (if b then 1 else 0))
  | text s =>
    match Text.number? s with
    | some x => .valid x
    | none => .fail .unreadableNumber
  | _ => .fail .notNumber

/-- A number above zero. -/
def checkPositiveNumber (v : Value) : Checked Binary64 :=
  (checkNumber v).bind fun x =>
    if Binary64.lt .zero x then .valid x else .fail .notPositive

end Value

end ToolFlow

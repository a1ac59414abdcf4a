/-!
# Searching and cutting text

Whether one run of items occurs in another, and cutting a run at each occurrence of an item.
-/

namespace ToolFlow.Text

/-- Whether the needle stands in the run as consecutive items. -/
def occursIn {α : Type} [BEq α] (needle : List α) : List α → Bool
  | [] => needle.isEmpty
  | c :: rest => needle.isPrefixOf (c :: rest) || occursIn needle rest

/-- Whether one text stands within another. -/
def contains (hay needle : String) : Bool :=
  occursIn needle.toList hay.toList

/-- The parts of a run between the items that satisfy a test. -/
def splitOnP {α : Type} (p : α → Bool) : List α → List (List α)
  | [] => [[]]
  | c :: rest =>
    match p c, splitOnP p rest with
    | true, parts => [] :: parts
    | false, [] => [[c]]
    | false, part :: parts => (c :: part) :: parts

/-- Whether a character ends a line: the control characters that do, the three separators above the
unit separator, and the line and paragraph separators. -/
def endsLine (c : Char) : Bool :=
  (0xA ≤ c.toNat && c.toNat ≤ 0xD) || (0x1C ≤ c.toNat && c.toNat ≤ 0x1E) ||
    c.toNat == 0x85 || c.toNat == 0x2028 || c.toNat == 0x2029

/-- The lines of characters, the first of which begins with the given characters in reverse. A
carriage return and a line feed end a line together, and nothing follows the last end. -/
def linesFrom : List Char → List Char → List (List Char)
  | [], [] => []
  | sofar, [] => [sofar.reverse]
  | sofar, '\r' :: '\n' :: rest => sofar.reverse :: linesFrom [] rest
  | sofar, c :: rest =>
    if endsLine c then sofar.reverse :: linesFrom [] rest else linesFrom (c :: sofar) rest

/-- The lines of a text. -/
def lines (s : String) : List String :=
  (linesFrom [] s.toList).map String.ofList

/-- The text before the first line feed. -/
def firstLine (s : String) : String :=
  String.ofList (s.toList.takeWhile (· != '\n'))

/-- Carriage returns, alone or before a line feed, read as line feeds. -/
def universalNewlines : List Char → List Char
  | [] => []
  | '\r' :: '\n' :: rest => '\n' :: universalNewlines rest
  | '\r' :: rest => '\n' :: universalNewlines rest
  | c :: rest => c :: universalNewlines rest

end ToolFlow.Text

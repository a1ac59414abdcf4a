/-!
# Cursors in a YAML text

A cursor is what is left of a text together with the line and column that were reached. Five
characters end a line; a carriage return and a line feed together end one line.

Everything that reads a text takes a cursor and answers another one. A cursor can also be looked at
without being moved, for whether something is a token often depends on the character after it. The
line and the column are there because structure is a matter of indentation, and because a key has to
end on the line on which it began.

## Main definitions

* `Cursor.advance`, `Cursor.forward`: one character on, and so many.
* `Cursor.takeWhile`, `Cursor.skipWhile`: as far as characters pass a test.
* `Cursor.lineBreak?`: the end of a line, as the character that it counts as.
-/

namespace ToolFlow.Yaml

/-- Whether a character ends a line. -/
def isBreak (c : Char) : Bool :=
  c == '\n' || c == '\r' || c == '\u0085' || c == '\u2028' || c == '\u2029'

/-- Whether a character is a space or a tab. -/
def isSpaceOrTab (c : Char) : Bool := c == ' ' || c == '\t'

/-- Whether the text or the line ends here. -/
def endsLine : Option Char → Bool
  | none => true
  | some c => isBreak c

/-- Whether the text or the line ends here, or a space follows. -/
def endsWord : Option Char → Bool
  | none => true
  | some c => isBreak c || c == ' '

/-- Whether the text or the line ends here, or a space or a tab follows. -/
def endsToken : Option Char → Bool
  | none => true
  | some c => isBreak c || isSpaceOrTab c

/-- A place in a text. -/
structure Cursor where
  rest : List Char
  /-- More than there are characters left, so also more than there are lines or words left. -/
  bound : Nat
  index : Nat := 0
  line : Nat := 0
  column : Nat := 0

namespace Cursor

/-- The place at the start of a text. -/
def start (text : List Char) : Cursor :=
  { rest := text, bound := text.length + 1 }

/-- The next character. -/
def peek (c : Cursor) : Option Char := c.rest.head?

/-- The character at a distance. -/
def peekAt (c : Cursor) (distance : Nat) : Option Char := c.rest[distance]?

/-- Whether the text goes on with the given characters. -/
def startsWith (c : Cursor) (start : List Char) : Bool := start.isPrefixOf c.rest

/-- Whether a character ends a line, given what follows it. -/
def completesLine (c : Char) (following : Option Char) : Bool :=
  isBreak c && !(c == '\r' && following == some '\n')

/-- The cursor after the next character. A byte order mark takes no column. -/
def advance (c : Cursor) : Cursor :=
  match c.rest with
  | [] => c
  | ch :: rest =>
    if completesLine ch rest.head? then
      { c with rest, index := c.index + 1, line := c.line + 1, column := 0 }
    else
      { c with
        rest, index := c.index + 1
        column := if ch == '\uFEFF' then c.column else c.column + 1 }

/-- The cursor after so many characters. -/
def forward : Nat → Cursor → Cursor
  | 0, c => c
  | n + 1, c => forward n c.advance

/-- The longest run of characters that pass a test, and the cursor after it. -/
def takeWhile (p : Char → Bool) (c : Cursor) : List Char × Cursor :=
  let run := c.rest.takeWhile p
  (run, c.forward run.length)

/-- The cursor after all characters that pass a test. -/
def skipWhile (p : Char → Bool) (c : Cursor) : Cursor :=
  (c.takeWhile p).2

/-- The cursor after the spaces. -/
def skipSpaces (c : Cursor) : Cursor := c.skipWhile (· == ' ')

/-- The cursor after the spaces, but not beyond a column. -/
def skipSpacesTo (column : Nat) (c : Cursor) : Cursor :=
  c.forward (min (column - c.column) (c.rest.takeWhile (· == ' ')).length)

/-- The cursor at the end of a comment, if one starts here. -/
def skipComment (c : Cursor) : Cursor :=
  if c.peek == some '#' then c.skipWhile fun ch => !isBreak ch else c

/-- The end of a line, if it is here: the character it counts as and the cursor after it. -/
def lineBreak? (c : Cursor) : Option (Char × Cursor) :=
  match c.rest with
  | '\r' :: '\n' :: _ => some ('\n', c.forward 2)
  | ch :: _ =>
    if ch == '\u2028' || ch == '\u2029' then some (ch, c.advance)
    else if isBreak ch then some ('\n', c.advance)
    else none
  | [] => none

/-- Whether three dashes or three dots stand here as a mark of their own. -/
def atDocumentMark (c : Cursor) : Bool :=
  (c.startsWith ['-', '-', '-'] || c.startsWith ['.', '.', '.']) && endsToken (c.peekAt 3)

end Cursor

end ToolFlow.Yaml

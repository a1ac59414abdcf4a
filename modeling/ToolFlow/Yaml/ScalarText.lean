import ToolFlow.Text.Digits
import ToolFlow.Yaml.Cursor
import ToolFlow.Yaml.Token

/-!
# The text of scalars

Reading the text of a quoted, a block or a plain scalar. A single line break inside a scalar becomes
a space, except in literal blocks; further breaks are kept.

The three forms have a reader each. Quoted scalars (`quotedScalar`) go to the closing quote and may
go over several lines; between quotation marks there are escapes, of which some name a character by
its number, and there may be no such character. Block scalars (`blockScalar`) start with a header,
which says how their end is treated and how far they are indented, and go on as long as lines are
indented enough. Plain scalars (`plainScalar`) end where a token of another kind could start, which
depends on whether they stand inside brackets.

The bounds on the calls come from the length of the text, of which each call takes one character at
least.
-/

namespace ToolFlow.Yaml

/-- The text is not YAML. -/
def malformed {α : Type} : Except Obstacle α := .error .malformed

/-! ### Quoted scalars -/

/-- Further line breaks inside a quoted scalar, with the spaces around them left out. -/
def quotedBreaks : Nat → Cursor → Except Obstacle (List Char × Cursor)
  | 0, _ => malformed
  | fuel + 1, c =>
    if c.atDocumentMark then malformed
    else
      let c := c.skipWhile isSpaceOrTab
      match c.lineBreak? with
      | none => .ok ([], c)
      | some (ch, c) => do
        let (more, c) ← quotedBreaks fuel c
        return (ch :: more, c)

/-- What a line break and the further breaks after it come to when lines are joined. -/
def joinedBreaks (first : Char) (more : List Char) : List Char :=
  if first != '\n' then first :: more
  else if more.isEmpty then [' ']
  else more

/-- The spaces or line breaks between the words of a quoted scalar. -/
def quotedSpaces (c : Cursor) : Except Obstacle (List Char × Cursor) :=
  let (spaces, c) := c.takeWhile isSpaceOrTab
  match c.peek, c.lineBreak? with
  | none, _ => malformed
  | _, some (ch, c) => do
    let (more, c) ← quotedBreaks c.bound c
    return (joinedBreaks ch more, c)
  | _, none => .ok (spaces, c)

/-- The character of a one-letter escape. -/
def escapedChar? : Char → Option Char
  | '0' => some '\x00'
  | 'a' => some '\x07'
  | 'b' => some '\x08'
  | 't' => some '\t'
  | '\t' => some '\t'
  | 'n' => some '\n'
  | 'v' => some '\x0B'
  | 'f' => some '\x0C'
  | 'r' => some '\r'
  | 'e' => some '\x1B'
  | ' ' => some ' '
  | '"' => some '"'
  | '\\' => some '\\'
  | '/' => some '/'
  | 'N' => some '\u0085'
  | '_' => some '\u00A0'
  | 'L' => some '\u2028'
  | 'P' => some '\u2029'
  | _ => none

/-- How many hexadecimal digits an escape takes. -/
def escapeLength? : Char → Option Nat
  | 'x' => some 2
  | 'u' => some 4
  | 'U' => some 8
  | _ => none

/-- The escape after a backslash. -/
def escapeSequence (c : Cursor) : Except Obstacle (List Char × Cursor) :=
  match c.peek with
  | none => malformed
  | some letter =>
    match escapedChar? letter, escapeLength? letter, c.lineBreak? with
    | some ch, _, _ => .ok ([ch], c.advance)
    | none, some length, _ =>
      let digits := c.advance.rest.take length
      match Text.hexValue? digits with
      | none => malformed
      | some code =>
        if digits.length < length then malformed
        else if code < 0x110000 then
          let ch := if 0xD800 ≤ code && code < 0xE000 then '\uFFFD' else Char.ofNat code
          .ok ([ch], c.forward (length + 1))
        else .error (.noCharacter code)
    | none, none, some (_, c) => quotedBreaks c.bound c
    | none, none, none => malformed

/-- Whether a character is part of a run inside a quoted scalar that needs no further look. -/
def isQuotedRun (c : Char) : Bool :=
  !(c == '\'' || c == '"' || c == '\\' || isSpaceOrTab c || isBreak c)

/-- A word inside a quoted scalar, up to a space, a line break or a closing quote. -/
def quotedWord (double : Bool) : Nat → Cursor → Except Obstacle (List Char × Cursor)
  | 0, _ => malformed
  | fuel + 1, c => do
    let (run, c) := c.takeWhile isQuotedRun
    match c.rest with
    | '\'' :: following =>
      if double then
        let (more, c) ← quotedWord double fuel c.advance
        return (run ++ '\'' :: more, c)
      else if following.head? == some '\'' then
        let (more, c) ← quotedWord double fuel (c.forward 2)
        return (run ++ '\'' :: more, c)
      else return (run, c)
    | '"' :: _ =>
      if double then return (run, c)
      else
        let (more, c) ← quotedWord double fuel c.advance
        return (run ++ '"' :: more, c)
    | '\\' :: _ =>
      if double then
        let (escaped, c) ← escapeSequence c.advance
        let (more, c) ← quotedWord double fuel c
        return (run ++ escaped ++ more, c)
      else
        let (more, c) ← quotedWord double fuel c.advance
        return (run ++ '\\' :: more, c)
    | _ => return (run, c)

/-- The words of a quoted scalar up to the closing quote. -/
def quotedWords (double : Bool) : Nat → Cursor → Except Obstacle (List Char × Cursor)
  | 0, _ => malformed
  | fuel + 1, c => do
    let (word, c) ← quotedWord double c.bound c
    if c.peek == some (if double then '"' else '\'') then return (word, c.advance)
    else
      let (spaces, c) ← quotedSpaces c
      let (more, c) ← quotedWords double fuel c
      return (word ++ spaces ++ more, c)

/-- A quoted scalar from its opening quote on. -/
def quotedScalar (double : Bool) (c : Cursor) : Except Obstacle (Token × Cursor) := do
  let (text, c) ← quotedWords double c.bound c.advance
  return (.scalar (String.ofList text) false, c)

/-! ### Block scalars -/

/-- Whether the line breaks at the end of a block are kept. -/
inductive Chomping where
  | clip | strip | keep

/-- The sign of a block header. -/
def chomping? : Option Char → Option Chomping
  | some '+' => some .keep
  | some '-' => some .strip
  | _ => none

/-- The digit of a block header. -/
def indentationDigit? : Option Char → Option Nat
  | some ch => if ch.isDigit then some (Text.digitValue ch) else none
  | none => none

/-- The header of a block scalar: a sign and a digit in either order. -/
def blockHeader (c : Cursor) : Except Obstacle ((Chomping × Option Nat) × Cursor) := do
  let (chomping, digit, c) := match chomping? c.peek with
    | some chomping =>
      match indentationDigit? c.advance.peek with
      | some d => (chomping, some d, c.forward 2)
      | none => (chomping, none, c.advance)
    | none =>
      match indentationDigit? c.peek with
      | some d =>
        match chomping? c.advance.peek with
        | some chomping => (chomping, some d, c.forward 2)
        | none => (Chomping.clip, some d, c.advance)
      | none => (Chomping.clip, none, c)
  if digit == some 0 || !endsWord c.peek then malformed
  else return ((chomping, digit), c)

/-- The rest of a line that may only hold spaces and a comment, with its end. -/
def emptyLineEnd (c : Cursor) : Except Obstacle Cursor :=
  let c := c.skipSpaces.skipComment
  if endsLine c.peek then
    match c.lineBreak? with
    | some (_, c) => .ok c
    | none => .ok c
  else malformed

/-- The blank lines before the first line of a block, and the widest indentation seen. -/
def blockLead : Nat → Nat → Cursor → List Char × Nat × Cursor
  | 0, widest, c => ([], widest, c)
  | fuel + 1, widest, c =>
    match c.peek, c.lineBreak? with
    | some ' ', _ =>
      let c := c.advance
      blockLead fuel (max widest c.column) c
    | _, some (ch, c) =>
      let (more, widest, c) := blockLead fuel widest c
      (ch :: more, widest, c)
    | _, none => ([], widest, c)

/-- Blank lines inside a block; indentation is left out up to a column. -/
def blockBreaks (indent : Nat) : Nat → Cursor → List Char × Cursor
  | 0, c => ([], c)
  | fuel + 1, c =>
    let c := c.skipSpacesTo indent
    match c.lineBreak? with
    | some (ch, c) =>
      let (more, c) := blockBreaks indent fuel c
      (ch :: more, c)
    | none => ([], c)

/-- How a block ends: its last line break and the blank lines after it. -/
def blockTail (chomping : Chomping) (last : List Char) (breaks : List Char) : List Char :=
  match chomping with
  | .clip => last
  | .strip => []
  | .keep => last ++ breaks

/-- The lines of a block from a line at its indentation on; the breaks before it are given. -/
def blockLines (folded : Bool) (chomping : Chomping) (indent : Nat) :
    Nat → List Char → List Char → Cursor → List Char × Cursor
  | 0, last, breaks, c => (blockTail chomping last breaks, c)
  | fuel + 1, last, breaks, c =>
    if c.column != indent || c.peek.isNone then (blockTail chomping last breaks, c)
    else
      let startsWithSpace := c.peek.any isSpaceOrTab
      let (line, c) := c.takeWhile fun ch => !isBreak ch
      let (last, c) := match c.lineBreak? with
        | some (ch, c) => ([ch], c)
        | none => ([], c)
      let (following, c) := blockBreaks indent c.bound c
      if c.column == indent && c.peek.isSome then
        let joint :=
          if folded && last == ['\n'] && !startsWithSpace && !c.peek.any isSpaceOrTab then
            (if following.isEmpty then [' '] else [])
          else last
        let (more, c) := blockLines folded chomping indent fuel [] following c
        (breaks ++ line ++ joint ++ more, c)
      else (breaks ++ line ++ blockTail chomping last following, c)

/-- A block scalar from its indicator on, inside a block of the given indentation. -/
def blockScalar (folded : Bool) (parent : Int) (c : Cursor) : Except Obstacle (Token × Cursor) := do
  let ((chomping, digit), c) ← blockHeader c.advance
  let c ← emptyLineEnd c
  let least := (max 1 (parent + 1)).toNat
  let (breaks, indent, c) := match digit with
    | some d =>
      let indent := least + d - 1
      let (breaks, c) := blockBreaks indent c.bound c
      (breaks, indent, c)
    | none =>
      let (breaks, widest, c) := blockLead c.bound 0 c
      (breaks, max least widest, c)
  let (text, c) := blockLines folded chomping indent c.bound [] breaks c
  return (.scalar (String.ofList text) false, c)

/-! ### Plain scalars -/

/-- Whether a colon before this character separates a key from its value. -/
def endsKey (inFlow : Bool) (following : Option Char) : Bool :=
  endsToken following ||
    (inFlow && following.any fun c => [',', '[', ']', '\x7b', '\x7d'].contains c)

/-- A run of a plain scalar without spaces. -/
def plainWord (inFlow : Bool) : List Char → List Char
  | [] => []
  | c :: rest =>
    if endsToken (some c) || (c == ':' && endsKey inFlow rest.head?) ||
        (inFlow && [',', '?', '[', ']', '\x7b', '\x7d'].contains c) then []
    else c :: plainWord inFlow rest

/-- Further line breaks between words of a plain scalar; nothing when a document mark follows. -/
def plainBreaks : Nat → Cursor → Option (List Char) × Cursor
  | 0, c => (none, c)
  | fuel + 1, c =>
    let c := c.skipSpaces
    match c.lineBreak? with
    | none => (some [], c)
    | some (ch, c) =>
      if c.atDocumentMark then (none, c)
      else
        let (more, c) := plainBreaks fuel c
        (more.map (ch :: ·), c)

/-- What stands between two words of a plain scalar: the text it counts as, whether a line ended,
and the cursor after it. -/
def plainSpaces (c : Cursor) : List Char × Bool × Cursor :=
  let (spaces, c) := c.takeWhile (· == ' ')
  match c.lineBreak? with
  | none => (spaces, false, c)
  | some (ch, c) =>
    if c.atDocumentMark then ([], true, c)
    else
      match plainBreaks c.bound c with
      | (none, c) => ([], true, c)
      | (some more, c) => (joinedBreaks ch more, true, c)

/-- The words of a plain scalar, each after the spaces before it. The answer tells whether a line
ended after the last word. -/
def plainWords (inFlow : Bool) (indent : Int) : Nat → List Char → Bool → Cursor →
    List Char × Bool × Cursor
  | 0, _, ended, c => ([], ended, c)
  | fuel + 1, before, ended, c =>
    let word := if c.peek == some '#' then [] else plainWord inFlow c.rest
    if word.isEmpty then ([], ended, c)
    else
      let (spaces, ended, c) := plainSpaces (c.forward word.length)
      if spaces.isEmpty || c.peek == some '#' || (!inFlow && (c.column : Int) < indent) then
        (before ++ word, ended, c)
      else
        let (more, ended, c) := plainWords inFlow indent fuel spaces ended c
        (before ++ word ++ more, ended, c)

/-- A plain scalar, and whether a line ended after it. -/
def plainScalar (inFlow : Bool) (parent : Int) (c : Cursor) : Token × Bool × Cursor :=
  let (text, ended, c) := plainWords inFlow (parent + 1) c.bound [] false c
  (.scalar (String.ofList text) true, ended, c)

end ToolFlow.Yaml

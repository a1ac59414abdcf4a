import ToolFlow.Yaml.ScalarText

/-!
# Directives, anchors and tags

The tokens that say something about a document or a node rather than hold data.

Each of them starts with a sign of its own. A tag may be written in full between angle brackets, or
as a handle with a suffix, where directives say what a handle stands for; escaped bytes in it are
put together to characters. Of the directives only those on the version and on handles mean
something, and any other one is passed over to the end of its line.

The number of a version is the one place here where a text can be stopped by something else than
that it is no YAML, for the number may have too many digits to be converted (`versionNumber`).
-/

namespace ToolFlow.Yaml

/-- Whether a character may be part of the name of an anchor or a handle. -/
def isNameChar (c : Char) : Bool :=
  c.isDigit || (('a' ≤ c && c ≤ 'z') || ('A' ≤ c && c ≤ 'Z')) || c == '-' || c == '_'

/-- A name of at least one character. -/
def markerName (c : Cursor) : Except Obstacle (String × Cursor) :=
  let (name, c) := c.takeWhile isNameChar
  if name.isEmpty then malformed else .ok (String.ofList name, c)

/-- An anchor or an alias, after its indicator. -/
def anchorName (c : Cursor) : Except Obstacle (String × Cursor) := do
  let (name, c) ← markerName c.advance
  let closed := endsToken c.peek || c.peek.any fun ch =>
    ['?', ':', ',', ']', '\x7d', '%', '@', '\u0060'].contains ch
  if closed then return (name, c) else malformed

/-! ### Tags -/

/-- Whether a character may stand in a tag as it is. -/
def isTagChar (c : Char) : Bool :=
  isNameChar c || [';', '/', '?', ':', '@', '&', '=', '+', '$', ',', '.', '!', '~', '*', '\'',
    '(', ')', '[', ']'].contains c

/-- The bytes of consecutive percent escapes. -/
def escapedBytes : Nat → Cursor → Except Obstacle (List UInt8 × Cursor)
  | 0, _ => malformed
  | fuel + 1, c =>
    if c.peek != some '%' then .ok ([], c)
    else
      let digits := c.advance.rest.take 2
      match Text.hexValue? digits with
      | none => malformed
      | some n =>
        if digits.length < 2 then malformed
        else do
          let (more, c) ← escapedBytes fuel (c.forward 3)
          return (n.toUInt8 :: more, c)

/-- The characters of a tag, with percent escapes decoded. -/
def tagChars : Nat → Cursor → Except Obstacle (List Char × Cursor)
  | 0, _ => malformed
  | fuel + 1, c => do
    let (run, c) := c.takeWhile isTagChar
    if c.peek != some '%' then return (run, c)
    else
      let (bytes, c) ← escapedBytes c.bound c
      match String.fromUTF8? ⟨bytes.toArray⟩ with
      | none => malformed
      | some s =>
        let (more, c) ← tagChars fuel c
        return (run ++ s.toList ++ more, c)

/-- The text of a tag, of at least one character. -/
def tagText (c : Cursor) : Except Obstacle (String × Cursor) := do
  let start := c
  let (chars, c) ← tagChars c.bound c
  if c.index == start.index then malformed else return (String.ofList chars, c)

/-- The handle of a tag: one exclamation mark, or a name between two. -/
def tagHandle (c : Cursor) : Except Obstacle (String × Cursor) :=
  if c.peek != some '!' then malformed
  else if c.peekAt 1 == some ' ' then .ok ("!", c.advance)
  else
    let (name, after) := c.advance.takeWhile isNameChar
    if after.peek == some '!' then
      .ok (String.ofList ('!' :: name ++ ['!']), after.advance)
    else malformed

/-- Whether a tag has a second exclamation mark before it ends. -/
def hasHandle (rest : List Char) : Bool :=
  (rest.takeWhile fun ch => !endsWord (some ch)).contains '!'

/-- A tag from its exclamation mark on. -/
def tagToken (c : Cursor) : Except Obstacle (Token × Cursor) := do
  let (token, c) ← (show Except Obstacle (Token × Cursor) from
    match c.peekAt 1 with
    | some '<' => do
      let (suffix, c) ← tagText (c.forward 2)
      if c.peek == some '>' then return (Token.tag none suffix, c.advance) else malformed
    | following => do
      if endsToken following then return (Token.tag none "!", c.advance)
      else
        let (handle, c) ←
          if hasHandle c.advance.rest then tagHandle c else pure ("!", c.advance)
        let (suffix, c) ← tagText c
        return (Token.tag (some handle) suffix, c))
  if endsWord c.peek then return (token, c) else malformed

/-! ### Directives -/

/-- A number of a version. -/
def versionNumber (c : Cursor) : Except Obstacle (Nat × Cursor) :=
  let (digits, c) := c.takeWhile Char.isDigit
  if digits.isEmpty then malformed
  else if Text.digitLimit < digits.length then .error (.tooManyDigits digits.length)
  else .ok (Text.decimalValue digits, c)

/-- What a version directive says. -/
def versionDirective (c : Cursor) : Except Obstacle (Directive × Cursor) := do
  let (major, c) ← versionNumber c.skipSpaces
  if c.peek != some '.' then malformed
  else
    let (_, c) ← versionNumber c.advance
    if endsWord c.peek then return (.version major, c) else malformed

/-- What a tag directive says. -/
def tagDirective (c : Cursor) : Except Obstacle (Directive × Cursor) := do
  let (handle, c) ← tagHandle c.skipSpaces
  if c.peek != some ' ' then malformed
  else
    let (start, c) ← tagText c.skipSpaces
    if endsWord c.peek then return (.tagHandle handle start, c) else malformed

/-- A directive from its percent sign on, to the end of its line. -/
def directiveToken (c : Cursor) : Except Obstacle (Token × Cursor) := do
  let (name, c) ← markerName c.advance
  if !endsWord c.peek then malformed
  else
    let (directive, c) ← (show Except Obstacle (Directive × Cursor) from
      match name with
      | "YAML" => versionDirective c
      | "TAG" => tagDirective c
      | _ => .ok (.other, c.skipWhile fun ch => !isBreak ch))
    let c ← emptyLineEnd c
    return (.directive directive, c)

end ToolFlow.Yaml

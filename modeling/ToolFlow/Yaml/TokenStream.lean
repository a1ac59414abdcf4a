import ToolFlow.Yaml.Marker

/-!
# The tokens of a YAML text

Outside brackets the structure of a text lies in its indentation: a deeper column opens a block, a
shallower one closes those that are deeper. A scalar turns out to be a key only at the colon after
it, so the places at which a key may have begun are remembered, one for each level of brackets, and
the token that marks the key is put in afterwards.

Tokens are read one step at a time (`Scan.step`): first the scan moves to where the next token
starts, giving up keys that can no longer end and closing blocks, and then the reader for its first
character takes over (`Scan.tokenAt`). A token that stands before a possible key is not settled yet,
since the mark of the key may have to be put in before it. This matters when the text cannot be read
to its end, because only settled tokens are seen by those who compose nodes.

## Main definitions

* `Scan`: how far the tokens have been read, with the open blocks and the possible keys.
* `Scan.run`: the tokens up to the end, or the settled ones and the obstacle.
* `tokensOf`: the tokens of a text.
-/

namespace ToolFlow.Yaml

/-- A place at which a key may have begun. -/
structure KeyPlace where
  /-- How many tokens stand before it. -/
  tokens : Nat
  /-- Whether nothing but a key can stand there. -/
  required : Bool
  index : Nat
  line : Nat
  column : Nat

/-- How far the tokens of a text have been read. -/
structure Scan where
  cursor : Cursor
  /-- The tokens so far, the last one first. -/
  produced : List Token := []
  /-- How many they are. -/
  count : Nat := 0
  /-- How many brackets are open. -/
  depth : Nat := 0
  /-- The column of the innermost block, and those of the blocks around it. -/
  indent : Int := -1
  outer : List Int := []
  /-- Whether a key may begin here. -/
  allowsKey : Bool := true
  /-- The places at which a key may have begun, by the depth of brackets. -/
  keys : List (Nat × KeyPlace) := []

namespace Scan

/-- Whether the place is inside brackets. -/
def inFlow (s : Scan) : Bool := s.depth != 0

/-- The scan with one more token. -/
def emit (token : Token) (s : Scan) : Scan :=
  { s with produced := token :: s.produced, count := s.count + 1 }

/-- The scan with a token put in before those from a place on. -/
def emitAt (place : Nat) (token : Token) (s : Scan) : Scan :=
  let later := s.count - place
  { s with
    produced := s.produced.take later ++ token :: s.produced.drop later
    count := s.count + 1 }

/-- The scan at another cursor. -/
def moveTo (c : Cursor) (s : Scan) : Scan := { s with cursor := c }

/-- The scan after so many characters. -/
def forward (n : Nat) (s : Scan) : Scan := s.moveTo (s.cursor.forward n)

/-- The scan that does or does not allow a key to begin. -/
def allowKey (allows : Bool) (s : Scan) : Scan := { s with allowsKey := allows }

/-! ### Blocks and keys -/

/-- The scan with a deeper block open, if the column is deeper; tells whether it is. -/
def openBlock (column : Nat) (s : Scan) : Bool × Scan :=
  if s.indent < column then
    (true, { s with outer := s.indent :: s.outer, indent := column })
  else (false, s)

/-- The scan with the blocks deeper than a column closed. -/
def closeBlocks (column : Int) : List Int → Scan → Scan
  | [], s => s
  | indent :: outer, s =>
    if s.inFlow || s.indent ≤ column then s
    else closeBlocks column outer { s.emit .blockEnd with indent := indent, outer := outer }

/-- The scan with the blocks deeper than a column closed, outside brackets. -/
def unwind (column : Int) (s : Scan) : Scan := closeBlocks column s.outer s

/-- The possible key of the current depth given up, which it may not be when it is required. -/
def dropKey (s : Scan) : Except Obstacle Scan :=
  if (s.keys.lookup s.depth).any KeyPlace.required then malformed
  else .ok { s with keys := s.keys.filter fun key => key.1 != s.depth }

/-- Remembers that a key may begin here. -/
def rememberKey (s : Scan) : Except Obstacle Scan := do
  if !s.allowsKey then return s
  else
    let c := s.cursor
    let place : KeyPlace :=
      { tokens := s.count
        required := !s.inFlow && s.indent == c.column
        index := c.index, line := c.line, column := c.column }
    let s ← s.dropKey
    return { s with keys := (s.depth, place) :: s.keys }

/-- Whether a key that began at a place can no longer end here: a key takes one line and at most
1024 characters. -/
def isStale (c : Cursor) (place : KeyPlace) : Bool :=
  place.line != c.line || c.index - place.index > 1024

/-- The possible keys that can still end here. -/
def dropStaleKeys (s : Scan) : Except Obstacle Scan :=
  if s.keys.any fun key => isStale s.cursor key.2 && key.2.required then malformed
  else .ok { s with keys := s.keys.filter fun key => !isStale s.cursor key.2 }

/-! ### Tokens -/

/-- The scan after spaces, comments and line ends. Outside brackets a new line may begin with a
key. -/
def skipToToken : Nat → Scan → Scan
  | 0, s => s
  | fuel + 1, s =>
    let c := s.cursor
    let c := if c.index == 0 && c.peek == some '\uFEFF' then c.advance else c
    let c := c.skipSpaces.skipComment
    match c.lineBreak? with
    | none => s.moveTo c
    | some (_, c) =>
      let s := s.moveTo c
      skipToToken fuel (if s.inFlow then s else s.allowKey true)

/-- The end of the text. -/
def streamEnd (s : Scan) : Except Obstacle Scan := do
  let s ← (s.unwind (-1)).dropKey
  return { s.emit .streamEnd with allowsKey := false, keys := [] }

/-- A directive. -/
def directive (s : Scan) : Except Obstacle Scan := do
  let s ← (s.unwind (-1)).dropKey
  let (token, c) ← directiveToken s.cursor
  return ((s.allowKey false).moveTo c).emit token

/-- The mark at which a document starts or ends. -/
def documentMark (token : Token) (s : Scan) : Except Obstacle Scan := do
  let s ← (s.unwind (-1)).dropKey
  return ((s.allowKey false).forward 3).emit token

/-- An opening bracket. -/
def openFlow (token : Token) (s : Scan) : Except Obstacle Scan := do
  let s ← s.rememberKey
  return ({ s with depth := s.depth + 1, allowsKey := true }.forward 1).emit token

/-- A closing bracket. -/
def closeFlow (token : Token) (s : Scan) : Except Obstacle Scan := do
  let s ← s.dropKey
  return ({ s with depth := s.depth - 1, allowsKey := false }.forward 1).emit token

/-- A comma inside brackets. -/
def flowEntry (s : Scan) : Except Obstacle Scan := do
  let s ← (s.allowKey true).dropKey
  return (s.forward 1).emit .flowEntry

/-- The start of a block at the current column, outside brackets, where a key may begin. -/
def startBlock (token : Token) (s : Scan) : Except Obstacle Scan :=
  if s.inFlow then .ok s
  else if !s.allowsKey then malformed
  else
    match s.openBlock s.cursor.column with
    | (true, s) => .ok (s.emit token)
    | (false, s) => .ok s

/-- The dash of a block sequence. -/
def blockEntry (s : Scan) : Except Obstacle Scan := do
  let s ← s.startBlock .blockSequenceStart
  let s ← (s.allowKey true).dropKey
  return (s.forward 1).emit .blockEntry

/-- The question mark before a key. -/
def explicitKey (s : Scan) : Except Obstacle Scan := do
  let s ← s.startBlock .blockMappingStart
  let s ← (s.allowKey !s.inFlow).dropKey
  return (s.forward 1).emit .key

/-- The colon before a value. -/
def value (s : Scan) : Except Obstacle Scan := do
  match s.keys.lookup s.depth with
  | some place =>
    let s := { s with keys := s.keys.filter fun key => key.1 != s.depth }
    let s := s.emitAt place.tokens .key
    let s :=
      if s.inFlow then s
      else
        match s.openBlock place.column with
        | (true, s) => s.emitAt place.tokens .blockMappingStart
        | (false, s) => s
    return ((s.allowKey false).forward 1).emit .value
  | none =>
    let s ← s.startBlock .blockMappingStart
    let s ← (s.allowKey !s.inFlow).dropKey
    return (s.forward 1).emit .value

/-- A token that may be a key or stand before one. -/
def keyable (read : Cursor → Except Obstacle (Token × Cursor)) (s : Scan) :
    Except Obstacle Scan := do
  let s ← s.rememberKey
  let (token, c) ← read s.cursor
  return ((s.allowKey false).moveTo c).emit token

/-- An alias or an anchor. -/
def anchored (make : String → Token) (c : Cursor) : Except Obstacle (Token × Cursor) := do
  let (name, c) ← anchorName c
  return (make name, c)

/-- A block scalar. -/
def block (folded : Bool) (s : Scan) : Except Obstacle Scan := do
  let s ← (s.allowKey true).dropKey
  let (token, c) ← blockScalar folded s.indent s.cursor
  return (s.moveTo c).emit token

/-- A plain scalar. A key may begin after it when its line ended. -/
def plain (s : Scan) : Except Obstacle Scan := do
  let s ← s.rememberKey
  let (token, ended, c) := plainScalar s.inFlow s.indent s.cursor
  return ((s.allowKey ended).moveTo c).emit token

/-- The characters that start a token of their own and so no plain scalar. -/
def indicators : List Char :=
  ['-', '?', ':', ',', '[', ']', '\x7b', '\x7d', '#', '&', '*', '!', '|', '>', '\'', '"', '%',
    '@', '\u0060']

/-- Whether a plain scalar can start here. -/
def startsPlain (s : Scan) : Bool :=
  match s.cursor.peek with
  | none => false
  | some ch =>
    !(endsToken (some ch) || indicators.contains ch) ||
      (!endsToken (s.cursor.peekAt 1) &&
        (ch == '-' || (!s.inFlow && (ch == '?' || ch == ':'))))

/-- The token that starts at a character. -/
def tokenAt (ch : Char) (s : Scan) : Except Obstacle Scan :=
  let c := s.cursor
  let alone := endsToken (c.peekAt 1)
  if ch == '%' && c.column == 0 then s.directive
  else if ch == '-' && c.column == 0 && c.atDocumentMark then s.documentMark .documentStart
  else if ch == '.' && c.column == 0 && c.atDocumentMark then s.documentMark .documentEnd
  else if ch == '[' then s.openFlow .flowSequenceStart
  else if ch == '\x7b' then s.openFlow .flowMappingStart
  else if ch == ']' then s.closeFlow .flowSequenceEnd
  else if ch == '\x7d' then s.closeFlow .flowMappingEnd
  else if ch == ',' then s.flowEntry
  else if ch == '-' && alone then s.blockEntry
  else if ch == '?' && (s.inFlow || alone) then s.explicitKey
  else if ch == ':' && (s.inFlow || alone) then s.value
  else if ch == '*' then s.keyable (anchored .alias)
  else if ch == '&' then s.keyable (anchored .anchor)
  else if ch == '!' then s.keyable tagToken
  else if ch == '|' && !s.inFlow then s.block false
  else if ch == '>' && !s.inFlow then s.block true
  else if ch == '\'' then s.keyable (quotedScalar false)
  else if ch == '"' then s.keyable (quotedScalar true)
  else if s.startsPlain then s.plain
  else malformed

/-- The scan after one more token. -/
def step (s : Scan) : Except Obstacle Scan := do
  let s ← (s.skipToToken s.cursor.bound).dropStaleKeys
  let s := s.unwind s.cursor.column
  match s.cursor.peek with
  | none => s.streamEnd
  | some ch => s.tokenAt ch

/-- Whether the end of the text has been reached. -/
def isDone (s : Scan) : Bool :=
  match s.produced with
  | .streamEnd :: _ => true
  | _ => false

/-- How many tokens are settled: those before the first that may turn out to be a key. -/
def settled (s : Scan) : Nat :=
  let possible := s.keys.filter fun key => !isStale s.cursor key.2
  possible.foldl (fun n key => min n key.2.tokens) s.count

/-- The tokens up to the end of the text, or those that are settled at the first obstacle. -/
def run : Nat → Scan → List Token × Option Obstacle
  | 0, s => (s.produced.reverse, some .malformed)
  | fuel + 1, s =>
    match s.step with
    | .error e => (s.produced.reverse.take s.settled, some e)
    | .ok s => if s.isDone then (s.produced.reverse, none) else run fuel s

end Scan

/-- Whether a YAML text may hold a character. -/
def isYamlChar (c : Char) : Bool :=
  let n := c.toNat
  n == 0x9 || n == 0xA || n == 0xD || (0x20 ≤ n && n ≤ 0x7E) || n == 0x85 ||
    (0xA0 ≤ n && n ≤ 0xD7FF) || (0xE000 ≤ n && n ≤ 0xFFFD) || 0x10000 ≤ n

/-- The tokens of a text, and the obstacle that ended the reading, if one did. -/
def tokensOf (text : String) : List Token × Option Obstacle :=
  let cs := text.toList
  if cs.all isYamlChar then Scan.run (cs.length + 2) { cursor := .start cs }
  else ([], some .malformed)

end ToolFlow.Yaml

import ToolFlow.Path.Reference
import ToolFlow.Path.Token

/-!
# The grammar of paths

A segment is a word or number with at most one bracketed number; a relative path is one or more
segments with dots between; a reference is the keyword with a bracketed step, a root, and any number
of further segments.

There are two grammars over the same tokens, and they share the reading of segments. Each function
takes tokens from the front and answers what it read with the tokens that are left, or the problem
at the first token that does not fit. A number that names a field does so by its digits in the usual
form, so leading zeros are lost.

All tokens are made before any of them is looked at. So a blank character, which is a problem of the
tokens, is reported even where the grammar would have found another problem before it. Of the
problems of the grammar the first in the text is reported.

## Main definitions

* `readSegment`, `moreSegments`: a segment, and the segments after it up to the end.
* `parse`: the segments of a relative path.
* `Reference.parse`: the reference that a text denotes.
-/

namespace ToolFlow.Path

/-- The next token, of which there is always one before the end of the text. -/
def next (tokens : List Token) : Token :=
  tokens.headD ⟨.finish, 0⟩

/-- The tokens after a token of the wanted class. -/
def expect (wanted : Symbol.Class) (tokens : List Token) : Except Problem (List Token) :=
  if (next tokens).symbol.class = wanted then .ok tokens.tail
  else .error (.expected wanted (next tokens).symbol.class (next tokens).position)

/-- A number and the tokens after it. -/
def expectNumber (tokens : List Token) : Except Problem (Nat × List Token) :=
  match (next tokens).symbol with
  | .number n => .ok (n, tokens.tail)
  | symbol => .error (.expected .number symbol.class (next tokens).position)

/-- A word and the tokens after it. -/
def expectWord (tokens : List Token) : Except Problem (String × List Token) :=
  match (next tokens).symbol with
  | .word name => .ok (name, tokens.tail)
  | symbol => .error (.expected .word symbol.class (next tokens).position)

/-- The name of a segment; a number names a field by its digits. -/
def segmentName (tokens : List Token) : Except Problem (String × List Token) :=
  match (next tokens).symbol with
  | .word name => .ok (name, tokens.tail)
  | .number n => .ok (toString n, tokens.tail)
  | symbol => .error (.notName symbol.class (next tokens).position)

/-- The bracketed index of a segment, if a bracket follows. -/
def segmentIndex (tokens : List Token) : Except Problem (Option Nat × List Token) :=
  if (next tokens).symbol = .opening then do
    let (n, rest) ← expectNumber tokens.tail
    let rest ← expect .closing rest
    .ok (some n, rest)
  else .ok (none, tokens)

/-- One segment and the tokens after it. -/
def readSegment (tokens : List Token) : Except Problem (Segment × List Token) := do
  let (name, rest) ← segmentName tokens
  let (index, rest) ← segmentIndex rest
  .ok (⟨name, index⟩, rest)

/-- Segments that follow after dots, up to the end of the text. Each takes at least one token, so
there are no more segments than tokens. -/
def moreSegments : Nat → List Token → Except Problem (List Segment)
  | 0, _ => .ok []
  | fuel + 1, tokens =>
    match (next tokens).symbol with
    | .dot => do
      let (segment, rest) ← readSegment tokens.tail
      let segments ← moreSegments fuel rest
      .ok (segment :: segments)
    | .finish => .ok []
    | symbol => .error (.trailing symbol.class (next tokens).position)

/-- A relative path. -/
def readRelative (tokens : List Token) : Except Problem (List Segment) := do
  let (segment, rest) ← readSegment tokens
  let segments ← moreSegments tokens.length rest
  .ok (segment :: segments)

/-- The root at which a reference starts, and the tokens after it. -/
def readRoot (tokens : List Token) : Except Problem (Root × List Token) := do
  let (name, rest) ← expectWord tokens
  match Root.ofName? name with
  | some root => .ok (root, rest)
  | none => .error (.notRoot name (next tokens).position)

/-- A reference to a step. -/
def readReference (tokens : List Token) : Except Problem Reference := do
  let (keyword, rest) ← expectWord tokens
  if keyword ≠ stepsKeyword then .error (.notKeyword (next tokens).position)
  else do
    let rest ← expect .opening rest
    let (step, rest) ← expectNumber rest
    let rest ← expect .closing rest
    let rest ← expect .dot rest
    let (root, rest) ← readRoot rest
    let segments ← moreSegments tokens.length rest
    .ok ⟨step, root, segments⟩

/-- Reads a text by one of the two grammars. -/
def read {α : Type} (grammar : List Token → Except Problem α) (text : String) :
    Except Failure α :=
  if Text.isBlankText text then .error .empty
  else do
    let tokens ← tokens text
    (grammar tokens).mapError .problem

/-- The segments of a relative path. -/
def parse (text : String) : Except Failure (List Segment) :=
  read readRelative text

/-- The reference that a text denotes. -/
def Reference.parse (text : String) : Except Failure Reference :=
  read readReference text

end ToolFlow.Path

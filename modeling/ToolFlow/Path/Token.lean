import ToolFlow.Text.Blank
import ToolFlow.Text.Digits

/-!
# Tokens of paths

A path text is cut into words, numbers, dots and brackets, with a closing token at the end. A word
reaches as far as it can; one of ASCII digits alone is a number. The first blank character, or the
first number that is too long to be converted, ends the reading.

Positions count characters from the start of the text, and each token knows where it starts. They
show in messages only. A message names tokens by their class (`Symbol.Class`), so two problems are
told apart by what was expected, what was found, and where.

Three things can be wrong with a text (`Failure`): it is empty, it has a problem with a position, or
a number in it has too many digits. Only the first two are reported as faults of the path. The last
is an error of the conversion, and it is met before anything that stands behind the number.

## Main definitions

* `Symbol`, `Token`: what a text is cut into.
* `Problem`, `Failure`: what can be wrong, with the texts of messages.
* `tokens`: the tokens of a text.
-/

namespace ToolFlow.Path

/-- What a token says. -/
inductive Symbol where
  | word (name : String)
  | number (n : Nat)
  | dot
  | opening
  | closing
  | finish
  deriving DecidableEq

/-- The class of a token, by which messages name it. -/
inductive Symbol.Class where
  | word | number | dot | opening | closing | finish
  deriving DecidableEq

/-- The name of a class in messages. -/
def Symbol.Class.name : Symbol.Class → String
  | word => "WORD"
  | number => "NUMBER"
  | dot => "DOT"
  | opening => "LBRACKET"
  | closing => "RBRACKET"
  | finish => "EOF"

/-- The class of a symbol. -/
def Symbol.class : Symbol → Symbol.Class
  | word _ => .word
  | number _ => .number
  | dot => .dot
  | opening => .opening
  | closing => .closing
  | finish => .finish

/-- A symbol and the position in the text at which it starts. -/
structure Token where
  symbol : Symbol
  position : Nat
  deriving DecidableEq

/-- What is wrong with a path text, and where. -/
inductive Problem where
  | blank (position : Nat)
  | expected (wanted got : Symbol.Class) (position : Nat)
  | notKeyword (position : Nat)
  | notRoot (name : String) (position : Nat)
  | notName (got : Symbol.Class) (position : Nat)
  | trailing (got : Symbol.Class) (position : Nat)
  deriving DecidableEq

/-- The word that starts a reference to a step. -/
def stepsKeyword : String := "$steps"

namespace Problem

/-- Where the problem is. -/
def position : Problem → Nat
  | blank p => p
  | expected _ _ p => p
  | notKeyword p => p
  | notRoot _ p => p
  | notName _ p => p
  | trailing _ p => p

/-- The description of a problem. -/
def detail : Problem → String
  | blank p => s!"unexpected whitespace at position {p}"
  | expected wanted got p => s!"expected {wanted.name}, got {got.name} at position {p}"
  | notKeyword p => s!"expected '{stepsKeyword}' at position {p}"
  | notRoot name _ => s!"path must start with 'result' or 'response', got '{name}'"
  | notName got p => s!"expected field name, got {got.name} at position {p}"
  | trailing got p => s!"unexpected token {got.name} at position {p}"

end Problem

/-- Why a path is not read. -/
inductive Failure where
  /-- It is not a text, or has only blank characters. -/
  | empty
  | problem (p : Problem)
  /-- It holds a number of so many digits, beyond the limit. -/
  | tooManyDigits (count : Nat)
  deriving DecidableEq

/-- The symbol of a punctuation character. -/
def punctuation? : Char → Option Symbol
  | '.' => some .dot
  | '[' => some .opening
  | ']' => some .closing
  | _ => none

/-- Whether a character belongs to a word. -/
def isWordChar (c : Char) : Bool :=
  (punctuation? c).isNone && !Text.isBlank c

/-- The symbol of a maximal word. -/
def wordSymbol (cs : List Char) : Except Failure Symbol :=
  if Text.isDecimal cs then
    if cs.length ≤ Text.digitLimit then .ok (.number (Text.decimalValue cs))
    else .error (.tooManyDigits cs.length)
  else .ok (.word (String.ofList cs))

/-- The tokens of the characters from a position on. -/
def tokensFrom (position : Nat) : List Char → Except Failure (List Token)
  | [] => .ok [⟨.finish, position⟩]
  | c :: rest =>
    if Text.isBlank c then .error (.problem (.blank position))
    else
      match punctuation? c with
      | some symbol => do
        let tokens ← tokensFrom (position + 1) rest
        .ok (⟨symbol, position⟩ :: tokens)
      | none => do
        let word := c :: rest.takeWhile isWordChar
        let symbol ← wordSymbol word
        let tokens ← tokensFrom (position + word.length) (rest.dropWhile isWordChar)
        .ok (⟨symbol, position⟩ :: tokens)
termination_by cs => cs.length
decreasing_by
  · simp
  · simpa using Nat.lt_succ_of_le (List.dropWhile_suffix isWordChar).length_le

/-- The tokens of a text. -/
def tokens (text : String) : Except Failure (List Token) :=
  tokensFrom 0 text.toList

end ToolFlow.Path

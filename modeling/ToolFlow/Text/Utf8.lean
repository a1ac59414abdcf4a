import ToolFlow.Text.Digits

/-!
# UTF-8

Where bytes stop being the encoding of a text, and why: a byte that starts no character, a byte that
does not go on with one, or an end in the middle of one. The flaw covers the bytes from the start of
the character on that could have belonged to it.

Bytes are gone through one by one. Between two characters the next byte says how many others belong
to its character and within which bounds the first of these lies (`Utf8.leadOf`), and inside a
character this is what the next byte is held against. Bytes without a flaw are the encoding of a
text. A flaw is reported with the bytes that it covers, their place and the cause.
-/

namespace ToolFlow.Utf8

/-- Why bytes are no text. -/
inductive Cause where
  | start
  | continuation
  | unfinished
  deriving DecidableEq

/-- How a cause is described. -/
def Cause.text : Cause → String
  | start => "invalid start byte"
  | continuation => "invalid continuation byte"
  | unfinished => "unexpected end of data"

/-- The first place at which bytes are no text. -/
structure Flaw where
  /-- The byte there. -/
  byte : UInt8
  position : Nat
  /-- How many bytes it covers. -/
  size : Nat
  cause : Cause
  deriving DecidableEq

/-- How many bytes follow the first byte of a longer character, and the bounds of the next one. -/
def leadOf (b : UInt8) : Option (Nat × UInt8 × UInt8) :=
  if 0xC2 ≤ b && b ≤ 0xDF then some (1, 0x80, 0xBF)
  else if b == 0xE0 then some (2, 0xA0, 0xBF)
  else if b == 0xED then some (2, 0x80, 0x9F)
  else if 0xE1 ≤ b && b ≤ 0xEF then some (2, 0x80, 0xBF)
  else if b == 0xF0 then some (3, 0x90, 0xBF)
  else if 0xF1 ≤ b && b ≤ 0xF3 then some (3, 0x80, 0xBF)
  else if b == 0xF4 then some (3, 0x80, 0x8F)
  else none

/-- A character that is not complete. -/
structure Open where
  lead : UInt8
  position : Nat
  /-- How many more bytes it needs after the next one. -/
  more : Nat
  low : UInt8
  high : UInt8

/-- The flaw of a character that is not completed at a position. -/
def Open.flaw (c : Open) (position : Nat) (cause : Cause) : Flaw :=
  ⟨c.lead, c.position, position - c.position, cause⟩

/-- The first flaw of bytes that stand at a position, maybe inside a character. -/
def flawFrom? : Nat → Option Open → List UInt8 → Option Flaw
  | _, none, [] => none
  | position, some c, [] => some (c.flaw position .unfinished)
  | position, none, b :: rest =>
    if b < 0x80 then flawFrom? (position + 1) none rest
    else
      match leadOf b with
      | none => some ⟨b, position, 1, .start⟩
      | some (more, low, high) =>
        flawFrom? (position + 1) (some ⟨b, position, more - 1, low, high⟩) rest
  | position, some c, b :: rest =>
    if b < c.low || c.high < b then some (c.flaw position .continuation)
    else if c.more == 0 then flawFrom? (position + 1) none rest
    else
      let next := { c with more := c.more - 1, low := 0x80, high := 0xBF }
      flawFrom? (position + 1) (some next) rest

/-- The first flaw of bytes. -/
def flaw? (data : List UInt8) : Option Flaw :=
  flawFrom? 0 none data

/-- The text of bytes, or their first flaw. -/
def decode (data : List UInt8) : Except Flaw String :=
  match flaw? data with
  | some flaw => .error flaw
  | none => .ok ((String.fromUTF8? ⟨data.toArray⟩).getD "")

/-- A flaw as it is reported, with a description of the cause. -/
def Flaw.report (flaw : Flaw) (description : String) : String :=
  let place :=
    if flaw.size ≤ 1 then
      s!"byte 0x{String.ofList (Text.hexChars 2 flaw.byte.toNat)} in position {flaw.position}"
    else s!"bytes in position {flaw.position}-{flaw.position + flaw.size - 1}"
  s!"'utf-8' codec can't decode {place}: {description}"

/-- A flaw as it is reported, with its cause. -/
def Flaw.text (flaw : Flaw) : String :=
  flaw.report flaw.cause.text

end ToolFlow.Utf8

import ToolFlow.Text.CaseTable

/-!
# Letter case

Texts in lower and in upper case. A letter may become several characters; a sigma becomes the final
sigma where a word ends.

Counterparts are looked up in tables. Lower case has one exception that depends on the neighbours of
a letter, so characters are turned with those before and after them at hand, and upper case has
letters that become two or three.
-/

namespace ToolFlow.Text

/-- The counterpart of a character in a table of letters, the character itself when it has none. -/
def counterpart (table : List (Nat × Nat × Nat × Int)) (c : Char) : Char :=
  let n := c.toNat
  match table.find? fun row => row.1 ≤ n && n ≤ row.2.1 && (n - row.1) % row.2.2.1 == 0 with
  | some row => Char.ofNat (n + row.2.2.2).toNat
  | none => c

/-- Whether a code point is in one of some closed ranges. -/
def inRanges (ranges : List (Nat × Nat)) (c : Char) : Bool :=
  ranges.any fun r => r.1 ≤ c.toNat && c.toNat ≤ r.2

/-! ### Lower case -/

/-- Whether the first of some characters that is not passed over has case. -/
def startsCased (cs : List Char) : Bool :=
  ((cs.dropWhile (inRanges passedOverRanges)).head?.map (inRanges casedRanges)).getD false

/-- A character in lower case, between the characters before it, the nearest first, and those after
it. -/
def lowerAmong (before : List Char) (c : Char) (after : List Char) : List Char :=
  if c.toNat < 0x80 then [c.toLower]
  else if c == 'Σ' then [if startsCased before && !startsCased after then 'ς' else 'σ']
  else if c == 'İ' then ['i', Char.ofNat 0x307]
  else [counterpart lowerTable c]

/-- Characters in lower case, given the characters before them, the nearest first. -/
def lowerAfter : List Char → List Char → List Char
  | _, [] => []
  | before, c :: rest => lowerAmong before c rest ++ lowerAfter (c :: before) rest

/-- A text in lower case. -/
def lower (s : String) : String :=
  String.ofList (lowerAfter [] s.toList)

/-! ### Upper case -/

/-- A character in upper case. -/
def upperChar (c : Char) : List Char :=
  if c.toNat < 0x80 then [c.toUpper]
  else
    match upperExpansions.lookup c.toNat with
    | some codes => codes.map Char.ofNat
    | none => [counterpart upperTable c]

/-- A text in upper case. -/
def upper (s : String) : String :=
  String.ofList (s.toList.flatMap upperChar)

end ToolFlow.Text

/-!
# Blank characters

The white space of Unicode together with the four separators U+001C to U+001F. A text is trimmed of
exactly these characters, a path may hold none of them, and a text made of nothing else counts as
blank.

The characters are given as ranges of code points. A text without characters is blank as well, which
is what those who refuse blank texts want. Where numbers are read from texts the separators do not
count as white space, so there is a second, narrower class for them (`Text.isSpace`).
-/

namespace ToolFlow.Text

/-- The blank characters, as closed ranges of code points. -/
def blankRanges : List (Nat × Nat) :=
  [(0x9, 0xD), (0x1C, 0x20), (0x85, 0x85), (0xA0, 0xA0), (0x1680, 0x1680), (0x2000, 0x200A),
    (0x2028, 0x2029), (0x202F, 0x202F), (0x205F, 0x205F), (0x3000, 0x3000)]

/-- Whether a character is blank. -/
def isBlank (c : Char) : Bool :=
  blankRanges.any fun r => r.1 ≤ c.toNat && c.toNat ≤ r.2

/-- The characters without the blank ones at either end. -/
def trimChars (cs : List Char) : List Char :=
  ((cs.dropWhile isBlank).reverse.dropWhile isBlank).reverse

/-- The text without the blank characters at either end. -/
def trim (s : String) : String :=
  String.ofList (trimChars s.toList)

/-- Whether a character is white space; the four separators that are blank are not. -/
def isSpace (c : Char) : Bool :=
  isBlank c && !(0x1C ≤ c.toNat && c.toNat ≤ 0x1F)

/-- The characters without white space at either end. -/
def trimSpace (cs : List Char) : List Char :=
  ((cs.dropWhile isSpace).reverse.dropWhile isSpace).reverse

/-- Whether a text has no character but blank ones. -/
def isBlankText (s : String) : Bool :=
  s.toList.all isBlank

/-- A blank text holds blank characters only. -/
theorem isBlankText_iff {s : String} : isBlankText s = true ↔ ∀ c ∈ s.toList, isBlank c = true := by
  simp [isBlankText]

end ToolFlow.Text

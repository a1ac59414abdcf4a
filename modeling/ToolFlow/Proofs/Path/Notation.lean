import ToolFlow.Path.Reference
import ToolFlow.Text.Blank
import ToolFlow.Text.Digits

/-!
# The notation of paths and references

How segments, paths and references may be written, without regard to how they are read. A name is
any text without dots, brackets and blank characters, and an index is a run of ASCII digits:

* a segment is a name, or a name with an index in brackets;
* a relative path is a segment and further segments, each after a dot;
* a reference is the keyword with the number of a step in brackets, a root after a dot, and segments
  after dots.

The rules are relations, since one segment may be written in several ways: indices may have zeros in
front, and so may names, of which those that are made of digits alone are known by their number.
-/

namespace ToolFlow.Path

/-- A name: not empty, and without dots, brackets and blank characters. -/
def IsName (cs : List Char) : Prop :=
  cs ≠ [] ∧ ∀ c ∈ cs, c ≠ '.' ∧ c ≠ '[' ∧ c ≠ ']' ∧ Text.isBlank c = false

/-- The name of the segment that a written name stands for: the name itself, or, when it is made of
digits alone, the shortest digits of its number. -/
def nameOf (cs : List Char) : String :=
  if Text.isDecimal cs then toString (Text.decimalValue cs) else String.ofList cs

/-- How a segment may be written. -/
inductive Segment.Spelled : Segment → List Char → Prop
  | plain {name : List Char} (isName : IsName name) : Spelled ⟨nameOf name, none⟩ name
  | indexed {name digits : List Char} (isName : IsName name)
      (isDecimal : Text.isDecimal digits = true) :
      Spelled ⟨nameOf name, some (Text.decimalValue digits)⟩ (name ++ '[' :: (digits ++ [']']))

/-- How segments may be written after something else: each after a dot. -/
inductive Continued : List Segment → List Char → Prop
  | nil : Continued [] []
  | cons {segment : Segment} {segments : List Segment} {written rest : List Char}
      (first : segment.Spelled written) (others : Continued segments rest) :
      Continued (segment :: segments) ('.' :: (written ++ rest))

/-- How a relative path may be written. -/
inductive Spelled : List Segment → List Char → Prop
  | intro {segment : Segment} {segments : List Segment} {written rest : List Char}
      (first : segment.Spelled written) (others : Continued segments rest) :
      Spelled (segment :: segments) (written ++ rest)

/-- How a reference may be written. -/
inductive Reference.Spelled : Reference → List Char → Prop
  | intro {digits : List Char} (isDecimal : Text.isDecimal digits = true) (root : Root)
      {segments : List Segment} {rest : List Char} (path : Continued segments rest) :
      Spelled ⟨Text.decimalValue digits, root, segments⟩
        ("$steps[".toList ++ digits ++ "].".toList ++ root.name.toList ++ rest)

end ToolFlow.Path

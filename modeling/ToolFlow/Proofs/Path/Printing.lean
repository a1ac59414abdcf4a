import ToolFlow.Proofs.Path.Grammar

/-!
# Printing and reading again

A segment may be written in several ways, of which its text is one: the name that it is known by,
and the shortest digits of its index. So a text that was accepted is not always printed as it was
written, but what is printed is read as the same (`parse_joined`, `Reference.parse_text`).

Two things have to be seen. What was accepted is readable (`Segment.IsReadable`): its names are
names still, known by themselves, and its numbers, which were not too long as they were written, are
certainly not too long in their shortest digits. And the text of readable segments is cut where it
was put together, at the dots and brackets. In both directions there is a lemma for one segment,
with any text after it, and from it one for segments after dots, by induction.

Being readable is more than being made of names. A segment with the name `"007"` cannot have come
from any text, since a name of digits is known by the shortest of them, and its text would be read
as another segment. So nothing is shown of segments that are made by hand, and the hypothesis of
`parse_joined` is there to be discharged by `isReadable_of_parse`.

The source path of an edge leaves out the keyword and the step. It is a relative path whose first
segment is the root (`Reference.sourcePath_eq_joined`), and is read as one.
-/

namespace ToolFlow.Path

/-- Characters that are not a number of too many digits. -/
def IsShort (name : List Char) : Prop :=
  Text.isDecimal name = true → name.length ≤ Text.digitLimit

/-- A segment that is read from its own text: its name is a name that is known by itself, and
neither the name nor the index is a number that is too long. -/
structure Segment.IsReadable (segment : Segment) : Prop where
  isName : IsName segment.name.toList
  nameOf_eq : nameOf segment.name.toList = segment.name
  isShort_name : IsShort segment.name.toList
  isShort_index : ∀ n ∈ segment.index, IsShort (Nat.toDigits 10 n)

/-- The first segment of a path that starts at a root. -/
def Root.segment (root : Root) : Segment :=
  ⟨root.name, none⟩

variable {name digits cs written rest : List Char} {segment : Segment} {segments : List Segment}

/-! ### Names -/

/-- A number in place of a name is known by its shortest digits. -/
theorem toList_nameOf_of_isDecimal (h : Text.isDecimal name = true) :
    (nameOf name).toList = Nat.toDigits 10 (Text.decimalValue name) := by
  rw [nameOf, if_pos h, Text.toList_toString]

/-- Any other name is known as it is written. -/
theorem toList_nameOf_of_not_isDecimal (h : ¬Text.isDecimal name = true) :
    (nameOf name).toList = name := by
  rw [nameOf, if_neg h, String.toList_ofList]

/-- What a name is known by is a name. -/
theorem IsName.nameOf (h : IsName name) : IsName (nameOf name).toList := by
  by_cases hdecimal : Text.isDecimal name = true
  · rw [toList_nameOf_of_isDecimal hdecimal]
    exact isName_of_isDecimal (Text.isDecimal_toDigits _)
  · rwa [toList_nameOf_of_not_isDecimal hdecimal]

/-- The name of a segment is known by itself. -/
theorem nameOf_nameOf (name : List Char) : nameOf (nameOf name).toList = nameOf name := by
  by_cases hdecimal : Text.isDecimal name = true
  · rw [← String.toList_inj, toList_nameOf_of_isDecimal hdecimal,
      toList_nameOf_of_isDecimal (Text.isDecimal_toDigits _), Text.decimalValue_toDigits]
  · rw [toList_nameOf_of_not_isDecimal hdecimal]

/-- The shortest digits of a number are no longer than others. -/
theorem IsShort.toDigits (hdecimal : Text.isDecimal digits = true) (h : IsShort digits) :
    IsShort (Nat.toDigits 10 (Text.decimalValue digits)) :=
  fun _ ↦ Text.length_toDigits_decimalValue_le (by decide) (Text.isDecimal_iff.1 hdecimal).2
    (h hdecimal)

/-- It is not longer than the name as it was written, if that is a number. -/
theorem IsShort.nameOf (h : IsShort name) : IsShort (nameOf name).toList := by
  by_cases hdecimal : Text.isDecimal name = true
  · rw [toList_nameOf_of_isDecimal hdecimal]
    exact h.toDigits hdecimal
  · rwa [toList_nameOf_of_not_isDecimal hdecimal]

/-- A text that starts with a name has no number that is too long, unless it is this name or comes
later. -/
theorem not_hasOverlongNumber_append_iff (hname : IsName name) (hends : EndsName rest) :
    ¬HasOverlongNumber (name ++ rest) ↔ IsShort name ∧ ¬HasOverlongNumber rest := by
  rw [hasOverlongNumber_append (isName_iff.1 hname).2 hends, not_or, not_and, Nat.not_lt, IsShort]

/-- There is no number in an empty text. -/
theorem not_hasOverlongNumber_nil : ¬HasOverlongNumber [] := by
  simp [HasOverlongNumber, words_nil, Text.isDecimal]

/-- A mark neither is nor hides a number. -/
theorem not_hasOverlongNumber_cons_iff {c : Char} {symbol : Symbol}
    (hc : punctuation? c = some symbol) :
    ¬HasOverlongNumber (c :: rest) ↔ ¬HasOverlongNumber rest := by
  rw [hasOverlongNumber_cons_of_punctuation (isBlank_of_punctuation? hc) (by simp [isWordChar, hc])]

/-- A name with an index has three parts in which a number could be too long. -/
theorem not_hasOverlongNumber_indexed_iff (hname : IsName name)
    (hdecimal : Text.isDecimal digits = true) :
    ¬HasOverlongNumber (name ++ '[' :: (digits ++ [']']) ++ rest) ↔
      IsShort name ∧ IsShort digits ∧ ¬HasOverlongNumber rest := by
  rw [List.append_assoc, List.cons_append, List.append_assoc, List.singleton_append,
    not_hasOverlongNumber_append_iff hname
      (endsName_cons_of_punctuation? punctuation?_opening _),
    not_hasOverlongNumber_cons_iff punctuation?_opening,
    not_hasOverlongNumber_append_iff (isName_of_isDecimal hdecimal)
      (endsName_cons_of_punctuation? punctuation?_closing _),
    not_hasOverlongNumber_cons_iff punctuation?_closing]

/-- The keyword and the root of a reference are no numbers. -/
theorem not_hasOverlongNumber_reference_iff (hdecimal : Text.isDecimal digits = true) (root : Root)
    (hends : EndsName rest) :
    ¬HasOverlongNumber
        ("$steps[".toList ++ digits ++ "].".toList ++ root.name.toList ++ rest) ↔
      IsShort digits ∧ ¬HasOverlongNumber rest := by
  have hcut : "$steps[".toList ++ digits ++ "].".toList ++ root.name.toList ++ rest =
      stepsKeyword.toList ++ '[' :: (digits ++ [']']) ++ '.' :: (root.name.toList ++ rest) := by
    simp [stepsKeyword]
  have hkeyword : IsShort stepsKeyword.toList := by simp [IsShort, isName_stepsKeyword.2]
  have hroot : IsShort root.name.toList := by simp [IsShort, root.isName_name.2]
  rw [hcut, not_hasOverlongNumber_indexed_iff isName_stepsKeyword.1 hdecimal,
    not_hasOverlongNumber_cons_iff punctuation?_dot,
    not_hasOverlongNumber_append_iff root.isName_name.1 hends, and_iff_right hkeyword,
    and_iff_right hroot]

/-! ### What was accepted is readable -/

/-- A segment that is written without a number that is too long is readable, and so may be what
follows. -/
theorem Segment.Spelled.isReadable (h : segment.Spelled written) (hends : EndsName rest)
    (hshort : ¬HasOverlongNumber (written ++ rest)) :
    segment.IsReadable ∧ ¬HasOverlongNumber rest := by
  cases h with
  | plain hname =>
    obtain ⟨hshort, hrest⟩ := (not_hasOverlongNumber_append_iff hname hends).1 hshort
    exact ⟨⟨hname.nameOf, nameOf_nameOf _, hshort.nameOf, by simp⟩, hrest⟩
  | @indexed name digits hname hdecimal =>
    obtain ⟨hshort, hindex, hrest⟩ := (not_hasOverlongNumber_indexed_iff hname hdecimal).1 hshort
    refine ⟨⟨hname.nameOf, nameOf_nameOf _, hshort.nameOf, ?_⟩, hrest⟩
    rintro n ⟨⟩
    exact hindex.toDigits hdecimal

/-- **Segments that were accepted after dots are readable.** -/
theorem Continued.isReadable (h : Continued segments cs) :
    ¬HasOverlongNumber cs → ∀ segment ∈ segments, segment.IsReadable := by
  induction h with
  | nil => simp
  | cons first others ih =>
    intro hshort
    rw [not_hasOverlongNumber_cons_iff punctuation?_dot] at hshort
    obtain ⟨hfirst, hshort⟩ := first.isReadable others.endsName hshort
    exact List.forall_mem_cons.2 ⟨hfirst, ih hshort⟩

/-- **All segments of a path that was accepted are readable**, and there are some. -/
theorem isReadable_of_parse {text : String} (h : parse text = .ok segments) :
    segments ≠ [] ∧ ∀ segment ∈ segments, segment.IsReadable := by
  have hshort := not_hasOverlongNumber_of_parse h
  have hspelled := (parse_eq_ok_iff hshort).1 h
  generalize text.toList = cs at hshort hspelled
  obtain ⟨first, others⟩ := hspelled
  obtain ⟨hfirst, hshort⟩ := first.isReadable others.endsName hshort
  exact ⟨List.cons_ne_nil _ _, List.forall_mem_cons.2 ⟨hfirst, others.isReadable hshort⟩⟩

/-- **So are those of a reference**, of whose step the digits are not too many either. -/
theorem Reference.isReadable_of_parse {text : String} {ref : Reference}
    (h : Reference.parse text = .ok ref) :
    IsShort (Nat.toDigits 10 ref.step) ∧ ∀ segment ∈ ref.segments, segment.IsReadable := by
  have hshort := Reference.not_hasOverlongNumber_of_parse h
  have hspelled := (Reference.parse_eq_ok_iff hshort).1 h
  generalize text.toList = cs at hshort hspelled
  obtain ⟨hdecimal, root, path⟩ := hspelled
  obtain ⟨hstep, hshort⟩ :=
    (not_hasOverlongNumber_reference_iff hdecimal root path.endsName).1 hshort
  exact ⟨hstep.toDigits hdecimal, path.isReadable hshort⟩

/-! ### What is readable is read from its text -/

/-- Segments as they are printed after something else. -/
def afterDots (segments : List Segment) : List Char :=
  segments.flatMap fun segment ↦ '.' :: segment.text.toList

/-- Texts with dots between are the first of them and the others after dots. -/
theorem toList_intercalate_cons (first : String) (others : List String) :
    (".".intercalate (first :: others)).toList =
      first.toList ++ others.flatMap fun other ↦ '.' :: other.toList := by
  induction others generalizing first with
  | nil => simp
  | cons second others ih =>
    rw [String.intercalate_cons_cons, String.toList_append, String.toList_append, ih,
      List.flatMap_cons]
    simp

/-- Joined segments are the first of them, and the others after dots. -/
theorem toList_joined_cons (segment : Segment) (segments : List Segment) :
    (joined (segment :: segments)).toList = segment.text.toList ++ afterDots segments := by
  rw [joined, List.map_cons, toList_intercalate_cons, List.flatMap_map, afterDots]

/-- What is shown of a reference after its step is a path that starts with the root. -/
theorem Reference.sourcePath_eq_joined (ref : Reference) :
    ref.sourcePath = joined (ref.root.segment :: ref.segments) :=
  rfl

/-- The text of a reference is the keyword, the step in brackets, the root, and segments after dots.
-/
theorem Reference.toList_text (ref : Reference) :
    ref.text.toList = "$steps[".toList ++ Nat.toDigits 10 ref.step ++ "].".toList ++
      ref.root.name.toList ++ afterDots ref.segments := by
  have hpath : ref.sourcePath.toList = ref.root.name.toList ++ afterDots ref.segments := by
    rw [ref.sourcePath_eq_joined, toList_joined_cons]
    rfl
  simp [Reference.text, hpath, toString, Nat.repr]

/-- An index is printed in brackets. -/
theorem Segment.toList_text_indexed (name : String) (n : ℕ) :
    (Segment.mk name (some n)).text.toList =
      name.toList ++ '[' :: (Nat.toDigits 10 n ++ [']']) := by
  simp [Segment.text, toString, Nat.repr]

/-- **The text of a readable segment is one of its spellings.** -/
theorem Segment.IsReadable.spelled (h : segment.IsReadable) :
    segment.Spelled segment.text.toList := by
  obtain ⟨name, _ | n⟩ := segment
  · have hspelled := Segment.Spelled.plain h.isName
    rwa [h.nameOf_eq] at hspelled
  · have hspelled := Segment.Spelled.indexed h.isName (Text.isDecimal_toDigits n)
    rwa [h.nameOf_eq, Text.decimalValue_toDigits, ← Segment.toList_text_indexed] at hspelled

/-- It adds no number that is too long to what follows. -/
theorem Segment.IsReadable.not_hasOverlongNumber_append (h : segment.IsReadable)
    (hends : EndsName rest) (hrest : ¬HasOverlongNumber rest) :
    ¬HasOverlongNumber (segment.text.toList ++ rest) := by
  obtain ⟨name, _ | n⟩ := segment
  · exact (not_hasOverlongNumber_append_iff h.isName hends).2 ⟨h.isShort_name, hrest⟩
  · rw [Segment.toList_text_indexed,
      not_hasOverlongNumber_indexed_iff h.isName (Text.isDecimal_toDigits n)]
    exact ⟨h.isShort_name, h.isShort_index n rfl, hrest⟩

/-- **Readable segments are printed as they may be written**, and with no number that is too
long. -/
theorem continued_afterDots (h : ∀ segment ∈ segments, segment.IsReadable) :
    Continued segments (afterDots segments) ∧ ¬HasOverlongNumber (afterDots segments) := by
  induction segments with
  | nil => exact ⟨.nil, not_hasOverlongNumber_nil⟩
  | cons segment segments ih =>
    obtain ⟨hfirst, hothers⟩ := List.forall_mem_cons.1 h
    obtain ⟨hspelled, hshort⟩ := ih hothers
    have hcons : afterDots (segment :: segments) =
        '.' :: (segment.text.toList ++ afterDots segments) := rfl
    rw [hcons, not_hasOverlongNumber_cons_iff punctuation?_dot]
    exact ⟨.cons hfirst.spelled hspelled,
      hfirst.not_hasOverlongNumber_append hspelled.endsName hshort⟩

/-- **Readable segments are read from their text.** -/
theorem parse_joined (hne : segments ≠ []) (h : ∀ segment ∈ segments, segment.IsReadable) :
    parse (joined segments) = .ok segments := by
  cases segments with
  | nil => exact absurd rfl hne
  | cons segment segments =>
    obtain ⟨hfirst, hothers⟩ := List.forall_mem_cons.1 h
    obtain ⟨hspelled, hshort⟩ := continued_afterDots hothers
    rw [parse_eq_ok_iff, toList_joined_cons]
    · exact .intro hfirst.spelled hspelled
    · rw [toList_joined_cons]
      exact hfirst.not_hasOverlongNumber_append hspelled.endsName hshort

/-- **The text of a reference with readable segments is read as that reference.** -/
theorem Reference.parse_text {ref : Reference} (hstep : IsShort (Nat.toDigits 10 ref.step))
    (h : ∀ segment ∈ ref.segments, segment.IsReadable) :
    Reference.parse ref.text = .ok ref := by
  obtain ⟨hspelled, hshort⟩ := continued_afterDots h
  have hdecimal := Text.isDecimal_toDigits ref.step
  rw [Reference.parse_eq_ok_iff, Reference.toList_text]
  · have hwritten := Reference.Spelled.intro hdecimal ref.root hspelled
    rwa [Text.decimalValue_toDigits] at hwritten
  · rw [Reference.toList_text,
      not_hasOverlongNumber_reference_iff hdecimal ref.root hspelled.endsName]
    exact ⟨hstep, hshort⟩

/-- A root is a name like others. -/
theorem Root.isReadable_segment (root : Root) : root.segment.IsReadable where
  isName := root.isName_name.1
  nameOf_eq := by simp [Root.segment, nameOf, root.isName_name.2]
  isShort_name := by simp [Root.segment, IsShort, root.isName_name.2]
  isShort_index := by simp [Root.segment]

/-- **The source path of a reference is read as its root and its segments.** -/
theorem Reference.parse_sourcePath {ref : Reference}
    (h : ∀ segment ∈ ref.segments, segment.IsReadable) :
    Path.parse ref.sourcePath = .ok (ref.root.segment :: ref.segments) := by
  rw [ref.sourcePath_eq_joined]
  exact parse_joined (List.cons_ne_nil _ _)
    (List.forall_mem_cons.2 ⟨ref.root.isReadable_segment, h⟩)

end ToolFlow.Path

import Mathlib.Data.List.TakeWhile
import ToolFlow.Fault
import ToolFlow.Path.Grammar
import ToolFlow.Proofs.Except

/-!
# Numbers beyond the digit limit

Reading a path or a reference can fail in a way that no fault accounts for: a number with too many
digits is not converted. When that happens can be seen from the text without reading it
(`read_eq_tooManyDigits_iff`): one of the words before the first blank character is made of digits
alone, and is too long.

The reader cuts the text from left to right and takes each word as far as it reaches; `words` is the
same cut made at once. The lemmas on `words` follow the cases of the reader.

`HasOverlongNumber` is the hypothesis of most results on paths, or rather its negation, and it is
meant to be checked on a text by looking at it. So it speaks of words, blank characters and digits,
and of nothing that the reader does. It is exact in both directions. A number that is too long makes
reading fail whatever else is wrong with the text, since cutting comes before the grammar, and a
blank character saves the reader only from numbers behind it. The conversion of numbers is the only
failure of this kind: what is reported of a path or of a reference breaks down exactly then
(`forPath_breaks_iff`, `forReference_breaks_iff`).
-/

namespace ToolFlow.Path

/-! ### Words -/

/-- The words of a text up to its first blank character, cut at the punctuation. -/
def words (cs : List Char) : List (List Char) :=
  (cs.takeWhile fun c ↦ !Text.isBlank c).splitOnP fun c ↦ !isWordChar c

/-- One of the words of a text is a number with more digits than are converted. -/
def HasOverlongNumber (cs : List Char) : Prop :=
  ∃ word ∈ words cs, Text.isDecimal word = true ∧ Text.digitLimit < word.length

instance (cs : List Char) : Decidable (HasOverlongNumber cs) :=
  inferInstanceAs (Decidable (∃ word ∈ words cs, _ ∧ _))

/-- A character of a word is not blank. -/
theorem not_isBlank_of_isWordChar {c : Char} (h : isWordChar c = true) :
    Text.isBlank c = false := by
  simp only [isWordChar, Bool.and_eq_true, Bool.not_eq_true'] at h
  exact h.2

/-- An empty text has one word, which is empty. -/
theorem words_nil : words [] = [[]] :=
  rfl

/-- A blank character ends the words. -/
theorem words_cons_of_isBlank {c : Char} (h : Text.isBlank c = true) (rest : List Char) :
    words (c :: rest) = [[]] := by
  rw [words, List.takeWhile_cons_of_neg (by simp [h]), List.splitOnP_nil]

/-- Punctuation ends a word. -/
theorem words_cons_of_punctuation {c : Char} (hblank : Text.isBlank c = false)
    (hword : isWordChar c = false) (rest : List Char) :
    words (c :: rest) = [] :: words rest := by
  rw [words, List.takeWhile_cons_of_pos (by simp [hblank])]
  exact List.splitOnP_append_cons [] _ (by simp [hword])

/-- A word reaches up to the first character that belongs to none. -/
theorem words_append {word rest : List Char} (hword : ∀ c ∈ word, isWordChar c = true)
    (hrest : ∀ c ∈ rest.head?, isWordChar c = false) :
    words (word ++ rest) = word :: (words rest).tail := by
  have hkept : ∀ c ∈ word, (!Text.isBlank c) = true :=
    fun c hc ↦ by simp [not_isBlank_of_isWordChar (hword c hc)]
  have hwhole : ∀ c ∈ word, (!isWordChar c) = false := fun c hc ↦ by simp [hword c hc]
  have hsplit : words (word ++ rest) =
      (word ++ rest.takeWhile fun c ↦ !Text.isBlank c).splitOnP fun c ↦ !isWordChar c := by
    rw [words, List.takeWhile_append_of_pos hkept]
  -- a word ends with the text, before a blank character, or at punctuation
  cases rest with
  | nil =>
    rw [hsplit, List.takeWhile_nil, List.append_nil, List.splitOnP_eq_singleton hwhole, words_nil]
    rfl
  | cons c rest =>
    have hc : isWordChar c = false := hrest c rfl
    cases hblank : Text.isBlank c with
    | true =>
      rw [hsplit, words_cons_of_isBlank hblank, List.takeWhile_cons_of_neg (by simp [hblank]),
        List.append_nil, List.splitOnP_eq_singleton hwhole]
      rfl
    | false =>
      rw [hsplit, words_cons_of_punctuation hblank hc,
        List.takeWhile_cons_of_pos (by simp [hblank]),
        List.splitOnP_append_cons_of_forall_mem hwhole c (by simp [hc])]
      rfl

/-- What does not start with a word starts with an empty one. -/
theorem words_eq_nil_cons {rest : List Char} (hrest : ∀ c ∈ rest.head?, isWordChar c = false) :
    words rest = [] :: (words rest).tail := by
  cases rest with
  | nil => rfl
  | cons c rest =>
    have hc : isWordChar c = false := hrest c rfl
    cases hblank : Text.isBlank c with
    | true => rw [words_cons_of_isBlank hblank, List.tail_cons]
    | false => rw [words_cons_of_punctuation hblank hc, List.tail_cons]

theorem not_isDecimal_nil :
    ¬(Text.isDecimal [] = true ∧ Text.digitLimit < ([] : List Char).length) := by
  decide

/-- A mark is no part of a number. -/
theorem hasOverlongNumber_cons_of_punctuation {c : Char} (hblank : Text.isBlank c = false)
    (hword : isWordChar c = false) (rest : List Char) :
    HasOverlongNumber (c :: rest) ↔ HasOverlongNumber rest := by
  rw [HasOverlongNumber, words_cons_of_punctuation hblank hword, List.exists_mem_cons_iff,
    or_iff_right not_isDecimal_nil, HasOverlongNumber]

/-- A word is a number that is too long, or such a number comes after it. -/
theorem hasOverlongNumber_append {word rest : List Char} (hword : ∀ c ∈ word, isWordChar c = true)
    (hrest : ∀ c ∈ rest.head?, isWordChar c = false) :
    HasOverlongNumber (word ++ rest) ↔
      (Text.isDecimal word = true ∧ Text.digitLimit < word.length) ∨ HasOverlongNumber rest := by
  rw [HasOverlongNumber, words_append hword hrest, List.exists_mem_cons_iff, HasOverlongNumber,
    words_eq_nil_cons hrest, List.tail_cons, List.exists_mem_cons_iff,
    or_iff_right not_isDecimal_nil]

/-! ### Tokens -/

/-- **A word fails to be a symbol exactly when** it is digits alone, and too many of them. -/
theorem wordSymbol_eq_error_iff {cs : List Char} {failure : Failure} :
    wordSymbol cs = .error failure ↔
      (Text.isDecimal cs = true ∧ Text.digitLimit < cs.length) ∧
        failure = .tooManyDigits cs.length := by
  unfold wordSymbol
  split
  · next hdecimal =>
    split
    · next hle => simp [hdecimal, Nat.not_lt.2 hle]
    · next hgt =>
      have hgt : Text.digitLimit < cs.length := Nat.not_le.1 hgt
      simp [hdecimal, hgt, eq_comm]
  · next hdecimal => simp [hdecimal]

/-- **The reader stops at a number of too many digits exactly when** it comes upon one. -/
theorem tokensFrom_eq_tooManyDigits_iff {position : ℕ} {cs : List Char} :
    (∃ n, tokensFrom position cs = .error (.tooManyDigits n)) ↔ HasOverlongNumber cs := by
  fun_induction tokensFrom position cs with
  | case1 position => simp [HasOverlongNumber, words_nil, Text.isDecimal]
  | case2 position c rest hblank =>
    simp [HasOverlongNumber, words_cons_of_isBlank hblank, Text.isDecimal]
  | case3 position c rest hblank symbol hsymbol ih =>
    have hblank : Text.isBlank c = false := by simpa using hblank
    have hword : isWordChar c = false := by simp [isWordChar, hsymbol]
    rw [hasOverlongNumber_cons_of_punctuation hblank hword, ← ih]
    refine exists_congr fun n ↦ ?_
    simp [Except.bind_eq_error_iff]
  | case4 position c rest hblank hnone word ih =>
    have hc : isWordChar c = true := by simp [isWordChar, hnone, hblank]
    have hword : ∀ x ∈ word, isWordChar x = true :=
      List.forall_mem_cons.2 ⟨hc, fun x hx ↦ List.mem_takeWhile_imp hx⟩
    have hrest : ∀ x ∈ (rest.dropWhile isWordChar).head?, isWordChar x = false := by
      intro x hx
      have hnot := List.head?_dropWhile_not isWordChar rest
      rw [Option.mem_def.1 hx] at hnot
      simpa using hnot
    have hsplit : c :: rest = word ++ rest.dropWhile isWordChar := by
      rw [List.cons_append, List.takeWhile_append_dropWhile]
    rw [hsplit, hasOverlongNumber_append hword hrest, ← ih]
    constructor
    · rintro ⟨n, h⟩
      rcases Except.bind_eq_error_iff.1 h with h | ⟨symbol, -, h⟩
      · exact Or.inl (wordSymbol_eq_error_iff.1 h).1
      · rcases Except.bind_eq_error_iff.1 h with h | ⟨tokens, -, h⟩
        · exact Or.inr ⟨n, h⟩
        · simp at h
    · intro h
      rcases hsymbol : wordSymbol word with failure | symbol
      · obtain ⟨-, rfl⟩ := wordSymbol_eq_error_iff.1 hsymbol
        exact ⟨_, Except.bind_eq_error_iff.2 (Or.inl rfl)⟩
      · rcases h with hlong | ⟨n, h⟩
        · -- the word is too long after all
          have herror := wordSymbol_eq_error_iff.2 ⟨hlong, rfl⟩
          simp [hsymbol] at herror
        · exact ⟨n, Except.bind_eq_error_iff.2 (Or.inr ⟨symbol, rfl,
            Except.bind_eq_error_iff.2 (Or.inl h)⟩)⟩

/-! ### Grammars -/

/-- **Reading by a grammar fails beyond all faults exactly when** a number is too long. -/
theorem read_eq_tooManyDigits_iff {α : Type} {grammar : List Token → Except Problem α}
    {text : String} :
    (∃ n, read grammar text = .error (.tooManyDigits n)) ↔ HasOverlongNumber text.toList := by
  unfold read
  split
  · next hblank =>
    have hwords : words text.toList = [[]] := by
      have hnone : (text.toList.takeWhile fun c ↦ !Text.isBlank c) = [] := by
        rcases htext : text.toList with _ | ⟨c, rest⟩
        · rfl
        · rw [List.takeWhile_cons_of_neg]
          simp [Text.isBlankText_iff.1 hblank c (by simp [htext])]
      rw [words, hnone, List.splitOnP_nil]
    simp [HasOverlongNumber, hwords, Text.isDecimal]
  · rw [← tokensFrom_eq_tooManyDigits_iff]
    refine exists_congr fun n ↦ ?_
    rw [Except.bind_eq_error_iff, or_iff_left]
    · rfl
    · rintro ⟨tokens, -, h⟩
      rcases hgrammar : grammar tokens with problem | a <;> simp [hgrammar, Except.mapError] at h

/-- The criterion for paths. -/
theorem parse_eq_tooManyDigits_iff {text : String} :
    (∃ n, parse text = .error (.tooManyDigits n)) ↔ HasOverlongNumber text.toList :=
  read_eq_tooManyDigits_iff

/-- The criterion for references, which is the same: the grammar has no part in it. -/
theorem Reference.parse_eq_tooManyDigits_iff {text : String} :
    (∃ n, Reference.parse text = .error (.tooManyDigits n)) ↔ HasOverlongNumber text.toList :=
  read_eq_tooManyDigits_iff

/-! ### What is reported -/

variable {text : String} {failure : Failure}

/-- **What is wrong with a path is beyond all faults exactly when** a number in it is too long. -/
theorem forPath_breaks_iff (h : parse text = .error failure) :
    (∃ b, failure.forPath (.text text) = .breakdown b) ↔ HasOverlongNumber text.toList := by
  rw [← parse_eq_tooManyDigits_iff, h]
  cases failure <;> simp [Failure.forPath]

/-- **The same holds of references.** -/
theorem forReference_breaks_iff (h : Reference.parse text = .error failure) :
    (∃ b, failure.forReference (.text text) = .breakdown b) ↔ HasOverlongNumber text.toList := by
  rw [← Reference.parse_eq_tooManyDigits_iff, h]
  cases failure <;> simp [Failure.forReference]

/-- A path that was accepted has no number that is too long. -/
theorem not_hasOverlongNumber_of_parse {segments : List Segment} (h : parse text = .ok segments) :
    ¬HasOverlongNumber text.toList := by
  rw [← parse_eq_tooManyDigits_iff]
  simp [h]

/-- Nor has a reference. -/
theorem Reference.not_hasOverlongNumber_of_parse {ref : Reference}
    (h : Reference.parse text = .ok ref) : ¬HasOverlongNumber text.toList := by
  rw [← Reference.parse_eq_tooManyDigits_iff]
  simp [h]

end ToolFlow.Path

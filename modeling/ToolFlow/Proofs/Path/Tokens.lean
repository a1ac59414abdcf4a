import ToolFlow.Proofs.Path.DigitLimit
import ToolFlow.Proofs.Path.Notation
import ToolFlow.Proofs.Text.Digits

/-!
# The tokens of a text

A text is empty, or starts with a blank character, with punctuation, or with a whole name (`cut`).
For each of the four there is one equation that says what the tokens are, and
`startsAs_of_tokensFrom` turns them round: what the tokens from a position on tell of the text
there. Whoever goes through tokens, such as the grammars, stays in step with the text in this way
and needs to know nothing else of how it was cut.

Cutting fails for two reasons only, a blank character and a number of too many digits
(`exists_tokensFrom_eq_ok`).

The definition collects the characters of a word one by one and looks at them when the word ends.
`Cut` puts the case of a whole name in place of that, with the condition that the name ends where it
is said to end (`EndsName`). This condition is what makes a word as long as it can be, and it is
carried by every lemma that takes a name off a text or puts one in front of it.

Characters of words are all that are neither marks nor blank, so names are not limited to letters. A
name that is made of digits alone becomes a number (`wordSymbol_eq_ok_iff`), and is the only one
that may fail.
-/

namespace ToolFlow.Path

/-! ### Characters -/

/-- The three marks and their symbols. -/
theorem punctuation?_eq_some_iff {c : Char} {symbol : Symbol} :
    punctuation? c = some symbol ↔
      c = '.' ∧ symbol = .dot ∨ c = '[' ∧ symbol = .opening ∨ c = ']' ∧ symbol = .closing := by
  constructor
  · intro h
    unfold punctuation? at h
    split at h <;> simp_all
  · rintro (⟨rfl, rfl⟩ | ⟨rfl, rfl⟩ | ⟨rfl, rfl⟩) <;> rfl

theorem punctuation?_dot : punctuation? '.' = some .dot :=
  rfl

theorem punctuation?_opening : punctuation? '[' = some .opening :=
  rfl

theorem punctuation?_closing : punctuation? ']' = some .closing :=
  rfl

/-- A character of a word is no mark and not blank. -/
theorem isWordChar_iff {c : Char} :
    isWordChar c = true ↔ c ≠ '.' ∧ c ≠ '[' ∧ c ≠ ']' ∧ Text.isBlank c = false := by
  have hnone : (punctuation? c).isNone = true ↔ c ≠ '.' ∧ c ≠ '[' ∧ c ≠ ']' := by
    unfold punctuation?
    split
    · simp
    · simp
    · simp
    · next hdot hopening hclosing => exact iff_of_true rfl ⟨hdot, hopening, hclosing⟩
  rw [isWordChar, Bool.and_eq_true, hnone, and_assoc, and_assoc, Bool.not_eq_true']

/-- A mark is not blank. -/
theorem isBlank_of_punctuation? {c : Char} {symbol : Symbol} (h : punctuation? c = some symbol) :
    Text.isBlank c = false := by
  rcases punctuation?_eq_some_iff.1 h with ⟨rfl, -⟩ | ⟨rfl, -⟩ | ⟨rfl, -⟩ <;> decide

/-- Digits are characters of words. -/
theorem isWordChar_of_isDigit {c : Char} (h : c.isDigit = true) : isWordChar c = true := by
  -- the digits stand together, away from punctuation and blank characters
  have hrange : 48 ≤ c.toNat ∧ c.toNat ≤ 57 := Char.isDigit_iff_toNat.1 h
  rw [isWordChar_iff]
  refine ⟨?_, ?_, ?_, ?_⟩
  · rintro rfl
    simp at hrange
  · rintro rfl
    simp at hrange
  · rintro rfl
    simp at hrange
  · simp only [Text.isBlank, Text.blankRanges, List.any_cons, List.any_nil, Bool.or_eq_false_iff,
      Bool.and_eq_false_iff, decide_eq_false_iff_not, and_true]
    omega

/-! ### Names -/

/-- A name is characters of words, and some. -/
theorem isName_iff {cs : List Char} : IsName cs ↔ cs ≠ [] ∧ ∀ c ∈ cs, isWordChar c = true := by
  simp only [IsName, isWordChar_iff]

-- character by character: to decide this of all characters there are would take too long
instance (cs : List Char) : Decidable (IsName cs) :=
  decidable_of_iff (cs ≠ [] ∧ cs.all isWordChar = true) (by rw [isName_iff, List.all_eq_true])

/-- A run of digits is a name. -/
theorem isName_of_isDecimal {cs : List Char} (h : Text.isDecimal cs = true) : IsName cs := by
  obtain ⟨hne, hdigits⟩ := Text.isDecimal_iff.1 h
  exact isName_iff.2 ⟨hne, fun c hc ↦ isWordChar_of_isDigit (hdigits c hc)⟩

/-- No name goes on into these characters. -/
def EndsName (cs : List Char) : Prop :=
  ∀ c ∈ cs.head?, isWordChar c = false

/-- A name ends where the text does. -/
theorem endsName_nil : EndsName [] := by
  simp [EndsName]

/-- A name ends before a mark. -/
theorem endsName_cons_of_punctuation? {c : Char} {symbol : Symbol}
    (h : punctuation? c = some symbol) (rest : List Char) : EndsName (c :: rest) := by
  simp [EndsName, isWordChar, h]

/-! ### The start of a text -/

/-- How a text may start. -/
inductive Cut : List Char → Prop
  | finish : Cut []
  | blank {c : Char} {rest : List Char} (isBlank : Text.isBlank c = true) : Cut (c :: rest)
  | punctuation {c : Char} {rest : List Char} {symbol : Symbol}
      (isPunctuation : punctuation? c = some symbol) : Cut (c :: rest)
  | name {name rest : List Char} (isName : IsName name) (ends : EndsName rest) : Cut (name ++ rest)

/-- **Every text starts in one of the four ways.** -/
theorem cut (cs : List Char) : Cut cs := by
  rcases cs with _ | ⟨c, cs⟩
  · exact .finish
  · cases hblank : Text.isBlank c with
    | true => exact .blank hblank
    | false =>
      rcases hsymbol : punctuation? c with _ | symbol
      · -- a name starts here, and goes as far as there are characters for it
        have hc : isWordChar c = true := by simp [isWordChar, hsymbol, hblank]
        have hcut : c :: cs = (c :: cs).takeWhile isWordChar ++ (c :: cs).dropWhile isWordChar :=
          List.takeWhile_append_dropWhile.symm
        rw [hcut]
        refine .name (isName_iff.2 ⟨?_, fun x hx ↦ List.mem_takeWhile_imp hx⟩) fun x hx ↦ ?_
        · simp [hc]
        · have hnot := List.head?_dropWhile_not isWordChar (c :: cs)
          rw [Option.mem_def.1 hx] at hnot
          simpa using hnot
      · exact .punctuation hsymbol

/-! ### The first token -/

variable {position : ℕ} {cs rest : List Char} {tokens : List Token}

/-- The end is a token, so that there is always one to stand before. -/
theorem tokensFrom_nil : tokensFrom position [] = .ok [⟨.finish, position⟩] := by
  rw [tokensFrom]

/-- A blank character is where cutting stops. -/
theorem tokensFrom_cons_of_isBlank {c : Char} (h : Text.isBlank c = true) :
    tokensFrom position (c :: rest) = .error (.problem (.blank position)) := by
  rw [tokensFrom, if_pos h]

/-- Punctuation is cut off by itself. -/
theorem tokensFrom_cons {c : Char} {symbol : Symbol} (h : punctuation? c = some symbol) :
    tokensFrom position (c :: rest) = (do
      let later ← tokensFrom (position + 1) rest
      .ok (⟨symbol, position⟩ :: later)) := by
  rw [tokensFrom, if_neg (by simp [isBlank_of_punctuation? h])]
  split
  · next symbol' hsymbol =>
    obtain rfl : symbol = symbol' := Option.some.inj (h.symm.trans hsymbol)
    rfl
  · next hnone => simp [h] at hnone

/-- A mark is cut off by itself. -/
theorem tokensFrom_cons_eq_ok_iff {c : Char} {symbol : Symbol} (h : punctuation? c = some symbol) :
    tokensFrom position (c :: rest) = .ok tokens ↔
      ∃ later, tokensFrom (position + 1) rest = .ok later ∧
        tokens = ⟨symbol, position⟩ :: later := by
  simp only [tokensFrom_cons h, Except.bind_eq_ok_iff, Except.ok.injEq, eq_comm (a := tokens)]

/-- A name is cut off whole. -/
theorem tokensFrom_append {name : List Char} (hname : IsName name) (hends : EndsName rest) :
    tokensFrom position (name ++ rest) = (do
      let symbol ← wordSymbol name
      let later ← tokensFrom (position + name.length) rest
      .ok (⟨symbol, position⟩ :: later)) := by
  obtain ⟨hne, hchars⟩ := isName_iff.1 hname
  rcases name with _ | ⟨c, name⟩
  · exact absurd rfl hne
  · obtain ⟨hc, hchars⟩ := List.forall_mem_cons.1 hchars
    have hnone : punctuation? c = none := by
      simp only [isWordChar, Bool.and_eq_true, Option.isNone_iff_eq_none] at hc
      exact hc.1
    have hstop : rest.takeWhile isWordChar = [] ∧ rest.dropWhile isWordChar = rest := by
      rcases rest with _ | ⟨d, rest⟩
      · exact ⟨rfl, rfl⟩
      · have hd : isWordChar d = false := hends d rfl
        simp [hd]
    have htake : (name ++ rest).takeWhile isWordChar = name := by
      rw [List.takeWhile_append_of_pos hchars, hstop.1, List.append_nil]
    have hdrop : (name ++ rest).dropWhile isWordChar = rest := by
      rw [List.dropWhile_append_of_pos hchars, hstop.2]
    rw [List.cons_append, tokensFrom, if_neg (by simp [not_isBlank_of_isWordChar hc])]
    split
    · next symbol hsymbol => simp [hnone] at hsymbol
    · rw [htake, hdrop]

/-- A whole name is cut off, and has to be a symbol. -/
theorem tokensFrom_append_eq_ok_iff {name : List Char} (hname : IsName name)
    (hends : EndsName rest) :
    tokensFrom position (name ++ rest) = .ok tokens ↔
      ∃ symbol later, wordSymbol name = .ok symbol ∧
        tokensFrom (position + name.length) rest = .ok later ∧
        tokens = ⟨symbol, position⟩ :: later := by
  simp only [tokensFrom_append hname hends, Except.bind_eq_ok_iff, Except.ok.injEq,
    eq_comm (a := tokens), exists_and_left]

/-- A name is a number when it is digits, which must not be too many, and otherwise a word. -/
theorem wordSymbol_eq_ok_iff {name : List Char} {symbol : Symbol} :
    wordSymbol name = .ok symbol ↔
      Text.isDecimal name = true ∧ name.length ≤ Text.digitLimit ∧
          symbol = .number (Text.decimalValue name) ∨
        Text.isDecimal name = false ∧ symbol = .word (String.ofList name) := by
  unfold wordSymbol
  split
  · next hdecimal =>
    split
    · next hle => simp [hdecimal, hle, eq_comm]
    · next hgt => simp [hdecimal, hgt]
  · next hdecimal =>
    have hdecimal : Text.isDecimal name = false := by simpa using hdecimal
    simp [hdecimal, eq_comm]

/-- What the first token says of the text from its position on, and which text the other tokens
are cut from. -/
inductive StartsAs (position : ℕ) : List Char → Symbol → List Token → Prop
  | finish : StartsAs position [] .finish []
  | punctuation {c : Char} {rest : List Char} {symbol : Symbol} {later : List Token}
      (isPunctuation : punctuation? c = some symbol)
      (later_eq : tokensFrom (position + 1) rest = .ok later) :
      StartsAs position (c :: rest) symbol later
  | word {name rest : List Char} {later : List Token} (isName : IsName name)
      (not_decimal : Text.isDecimal name = false) (ends : EndsName rest)
      (later_eq : tokensFrom (position + name.length) rest = .ok later) :
      StartsAs position (name ++ rest) (.word (String.ofList name)) later
  | number {digits rest : List Char} {later : List Token}
      (isDecimal : Text.isDecimal digits = true) (ends : EndsName rest)
      (later_eq : tokensFrom (position + digits.length) rest = .ok later) :
      StartsAs position (digits ++ rest) (.number (Text.decimalValue digits)) later

/-- **The first token tells how the text starts.** -/
theorem startsAs_of_tokensFrom (h : tokensFrom position cs = .ok tokens) :
    ∃ symbol later, tokens = ⟨symbol, position⟩ :: later ∧ StartsAs position cs symbol later := by
  cases cut cs with
  | finish =>
    rw [tokensFrom_nil] at h
    exact ⟨.finish, [], (Except.ok.inj h).symm, .finish⟩
  | blank isBlank => simp [tokensFrom_cons_of_isBlank isBlank] at h
  | punctuation isPunctuation =>
    obtain ⟨later, hlater, rfl⟩ := (tokensFrom_cons_eq_ok_iff isPunctuation).1 h
    exact ⟨_, later, rfl, .punctuation isPunctuation hlater⟩
  | name isName ends =>
    obtain ⟨symbol, later, hsymbol, hlater, rfl⟩ := (tokensFrom_append_eq_ok_iff isName ends).1 h
    refine ⟨symbol, later, rfl, ?_⟩
    rcases wordSymbol_eq_ok_iff.1 hsymbol with ⟨hdecimal, -, rfl⟩ | ⟨hdecimal, rfl⟩
    · exact .number hdecimal ends hlater
    · exact .word isName hdecimal ends hlater

/-! ### When there are tokens -/

/-- **A text without blank characters is cut into tokens**, unless a number in it is too long. -/
theorem exists_tokensFrom_eq_ok (hblank : ∀ c ∈ cs, Text.isBlank c = false)
    (hshort : ¬HasOverlongNumber cs) : ∃ tokens, tokensFrom position cs = .ok tokens := by
  rw [← @tokensFrom_eq_tooManyDigits_iff position] at hshort
  fun_induction tokensFrom position cs with
  | case1 position => exact ⟨_, rfl⟩
  | case2 position c rest hc => simp [hblank c List.mem_cons_self] at hc
  | case3 position c rest hc symbol hsymbol ih =>
    have hlater : ¬∃ n, tokensFrom (position + 1) rest = .error (.tooManyDigits n) := by
      rintro ⟨n, hn⟩
      exact hshort ⟨n, Except.bind_eq_error_iff.2 (Or.inl hn)⟩
    obtain ⟨later, hlater⟩ := ih (fun x hx ↦ hblank x (List.mem_cons_of_mem c hx)) hlater
    exact ⟨_, Except.bind_eq_ok_iff.2 ⟨later, hlater, rfl⟩⟩
  | case4 position c rest hc hnone word ih =>
    rcases hword : wordSymbol word with failure | symbol
    · -- only a number that is too long is not taken as it is
      obtain ⟨-, rfl⟩ := wordSymbol_eq_error_iff.1 hword
      exact absurd ⟨_, Except.bind_eq_error_iff.2 (Or.inl hword)⟩ hshort
    · have hrest : ∀ x ∈ rest.dropWhile isWordChar, Text.isBlank x = false := fun x hx ↦
        hblank x (List.mem_cons_of_mem c ((List.dropWhile_suffix isWordChar).subset hx))
      have hlater : ¬∃ n, tokensFrom (position + word.length) (rest.dropWhile isWordChar) =
          .error (.tooManyDigits n) := by
        rintro ⟨n, hn⟩
        exact hshort ⟨n, Except.bind_eq_error_iff.2 (Or.inr ⟨symbol, hword,
          Except.bind_eq_error_iff.2 (Or.inl hn)⟩)⟩
      obtain ⟨later, hlater⟩ := ih hrest hlater
      exact ⟨_, Except.bind_eq_ok_iff.2 ⟨symbol, rfl,
        Except.bind_eq_ok_iff.2 ⟨later, hlater, rfl⟩⟩⟩

end ToolFlow.Path

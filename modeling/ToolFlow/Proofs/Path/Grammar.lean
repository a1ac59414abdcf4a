import ToolFlow.Fault
import ToolFlow.Proofs.Path.Tokens

/-!
# What the readers of paths accept

The two readers accept exactly what the notation allows, and read it as the notation means it
(`readsExactly`). Of every other text they say that its syntax is wrong, and they say nothing else,
as long as no number in it is too long to be read at all.

A reader goes through tokens; the notation is a matter of characters. The two are kept in step by
`CutInto`: the tokens that are left are those of the text that is left. So there are two lemmas for
each part of the grammar, one that reads the text off the tokens that were accepted (`of_expect` and
its like), and one that finds the tokens of a text that is well written (`CutInto.of_name` and its
like). Segments after dots are followed by induction, on the fuel and on the notation.

## What is not said twice

The readers have fuel for the segments after dots, and an error for each way to go wrong. Neither is
part of the notation. That the fuel suffices comes out of the direction from texts to tokens, where
the tokens that are left grow fewer with each segment, and which error is reported does not matter
here, because all of them are errors of syntax. Where they point is another matter and is settled on
its own.

Texts that are blank are refused before they are cut. Since a text that is well written is neither
empty nor has blank characters (`Spelled.not_blank`, `Reference.Spelled.not_blank`), this guard
refuses nothing that would have been accepted.
-/

namespace ToolFlow.Path

/-- These are the tokens of a text, wherever it stands. -/
def CutInto (cs : List Char) (tokens : List Token) : Prop :=
  ∃ position, tokensFrom position cs = .ok tokens

variable {cs rest : List Char} {tokens later : List Token}

/-! ### From the text to its tokens -/

/-- At the end of a text the token of the end is left. -/
theorem CutInto.of_nil (h : CutInto [] tokens) : ∃ position, tokens = [⟨.finish, position⟩] := by
  obtain ⟨position, h⟩ := h
  rw [tokensFrom_nil] at h
  exact ⟨position, (Except.ok.inj h).symm⟩

/-- A mark is a token. -/
theorem CutInto.of_punctuation {c : Char} {symbol : Symbol} (hc : punctuation? c = some symbol)
    (h : CutInto (c :: rest) tokens) :
    ∃ position later, tokens = ⟨symbol, position⟩ :: later ∧ CutInto rest later := by
  obtain ⟨position, h⟩ := h
  obtain ⟨later, hlater, rfl⟩ := (tokensFrom_cons_eq_ok_iff hc).1 h
  exact ⟨position, later, rfl, position + 1, hlater⟩

/-- A name that ends where it does is one token. -/
theorem CutInto.of_name {name : List Char} (hname : IsName name) (hends : EndsName rest)
    (h : CutInto (name ++ rest) tokens) :
    ∃ symbol position later, wordSymbol name = .ok symbol ∧
      tokens = ⟨symbol, position⟩ :: later ∧ CutInto rest later := by
  obtain ⟨position, h⟩ := h
  obtain ⟨symbol, later, hsymbol, hlater, rfl⟩ := (tokensFrom_append_eq_ok_iff hname hends).1 h
  exact ⟨symbol, position, later, hsymbol, rfl, position + name.length, hlater⟩

/-- Digits are the token of their number. -/
theorem CutInto.of_digits {digits : List Char} (hdecimal : Text.isDecimal digits = true)
    (hends : EndsName rest) (h : CutInto (digits ++ rest) tokens) :
    ∃ position later, tokens = ⟨.number (Text.decimalValue digits), position⟩ :: later ∧
      CutInto rest later := by
  obtain ⟨symbol, position, later, hsymbol, rfl, hlater⟩ :=
    h.of_name (isName_of_isDecimal hdecimal) hends
  rcases wordSymbol_eq_ok_iff.1 hsymbol with ⟨-, -, rfl⟩ | ⟨hnot, -⟩
  · exact ⟨position, later, rfl, hlater⟩
  · simp [hdecimal] at hnot

/-- A name that is not digits alone is the token of a word. -/
theorem CutInto.of_word {name : List Char} (hname : IsName name)
    (hplain : Text.isDecimal name = false) (hends : EndsName rest)
    (h : CutInto (name ++ rest) tokens) :
    ∃ position later, tokens = ⟨.word (String.ofList name), position⟩ :: later ∧
      CutInto rest later := by
  obtain ⟨symbol, position, later, hsymbol, rfl, hlater⟩ := h.of_name hname hends
  rcases wordSymbol_eq_ok_iff.1 hsymbol with ⟨hnot, -⟩ | ⟨-, rfl⟩
  · simp [hplain] at hnot
  · exact ⟨position, later, rfl, hlater⟩

/-! ### From tokens to the text -/

@[simp] theorem next_cons (token : Token) (later : List Token) : next (token :: later) = token :=
  rfl

/-- What the first token says of the text. -/
theorem CutInto.startsAs (h : CutInto cs tokens) :
    ∃ position later, tokens.tail = later ∧ StartsAs position cs (next tokens).symbol later := by
  obtain ⟨position, h⟩ := h
  obtain ⟨symbol, later, rfl, hstart⟩ := startsAs_of_tokensFrom h
  exact ⟨position, later, rfl, hstart⟩

/-- Where the end is next, no text is left. -/
theorem CutInto.eq_nil (h : CutInto cs tokens) (hnext : (next tokens).symbol = .finish) :
    cs = [] := by
  obtain ⟨position, later, htail, hstart⟩ := h.startsAs
  rw [hnext] at hstart
  cases hstart with
  | finish => rfl
  | punctuation hc _ => simp [punctuation?_eq_some_iff] at hc

/-- Where a mark is next, the text goes on with it. -/
theorem CutInto.eq_cons {c : Char} {symbol : Symbol} (h : CutInto cs tokens)
    (hnext : (next tokens).symbol = symbol) (hc : punctuation? c = some symbol) :
    ∃ rest, cs = c :: rest ∧ CutInto rest tokens.tail := by
  obtain ⟨position, later, htail, hstart⟩ := h.startsAs
  rw [hnext] at hstart
  cases hstart with
  | finish => simp [punctuation?_eq_some_iff] at hc
  | @punctuation d rest _ _ hd hlater =>
    have hsame : c = d := by
      rcases punctuation?_eq_some_iff.1 hd with ⟨rfl, rfl⟩ | ⟨rfl, rfl⟩ | ⟨rfl, rfl⟩ <;>
        simpa [punctuation?_eq_some_iff] using hc
    exact ⟨rest, by rw [hsame], position + 1, htail ▸ hlater⟩
  | word => simp [punctuation?_eq_some_iff] at hc
  | number => simp [punctuation?_eq_some_iff] at hc

/-- Where a word is next, the text goes on with that name. -/
theorem CutInto.eq_word {name : String} (h : CutInto cs tokens)
    (hnext : (next tokens).symbol = .word name) :
    ∃ rest, cs = name.toList ++ rest ∧ IsName name.toList ∧
      Text.isDecimal name.toList = false ∧ CutInto rest tokens.tail := by
  obtain ⟨position, later, htail, hstart⟩ := h.startsAs
  rw [hnext] at hstart
  cases hstart with
  | punctuation hc _ => simp [punctuation?_eq_some_iff] at hc
  | word hname hplain _ hlater =>
    rw [String.toList_ofList]
    exact ⟨_, rfl, hname, hplain, _, htail ▸ hlater⟩

/-- Where a number is next, the text goes on with some digits of it. -/
theorem CutInto.eq_number {n : ℕ} (h : CutInto cs tokens)
    (hnext : (next tokens).symbol = .number n) :
    ∃ digits rest, cs = digits ++ rest ∧ Text.isDecimal digits = true ∧
      n = Text.decimalValue digits ∧ CutInto rest tokens.tail := by
  obtain ⟨position, later, htail, hstart⟩ := h.startsAs
  rw [hnext] at hstart
  cases hstart with
  | punctuation hc _ => simp [punctuation?_eq_some_iff] at hc
  | number hdecimal _ hlater => exact ⟨_, _, rfl, hdecimal, rfl, _, htail ▸ hlater⟩

/-! ### Single tokens -/

/-- A mark that was expected and found is in the text. -/
theorem of_expect {c : Char} {symbol : Symbol} (hc : punctuation? c = some symbol)
    (h : CutInto cs tokens) (hexpect : expect symbol.class tokens = .ok later) :
    later = tokens.tail ∧ ∃ rest, cs = c :: rest ∧ CutInto rest later := by
  unfold expect at hexpect
  split at hexpect
  · next hclass =>
    obtain rfl : tokens.tail = later := Except.ok.inj hexpect
    -- punctuation is known by its class
    have hnext : (next tokens).symbol = symbol := by
      rcases punctuation?_eq_some_iff.1 hc with ⟨-, rfl⟩ | ⟨-, rfl⟩ | ⟨-, rfl⟩ <;>
        cases hsymbol : (next tokens).symbol <;> simp [hsymbol, Symbol.class] at hclass ⊢
    exact ⟨rfl, h.eq_cons hnext hc⟩
  · simp at hexpect

/-- A number that was expected and found is in the text, by digits that denote it. -/
theorem of_expectNumber {n : ℕ} (h : CutInto cs tokens)
    (hexpect : expectNumber tokens = .ok (n, later)) :
    later = tokens.tail ∧ ∃ digits rest, cs = digits ++ rest ∧ Text.isDecimal digits = true ∧
      n = Text.decimalValue digits ∧ CutInto rest later := by
  unfold expectNumber at hexpect
  split at hexpect
  · next n' hnext =>
    obtain ⟨rfl, rfl⟩ : n' = n ∧ tokens.tail = later := by simpa using hexpect
    exact ⟨rfl, h.eq_number hnext⟩
  · simp at hexpect

/-- A word that was expected and found is in the text. -/
theorem of_expectWord {name : String} (h : CutInto cs tokens)
    (hexpect : expectWord tokens = .ok (name, later)) :
    later = tokens.tail ∧ ∃ rest, cs = name.toList ++ rest ∧ CutInto rest later := by
  unfold expectWord at hexpect
  split at hexpect
  · next name' hnext =>
    obtain ⟨rfl, rfl⟩ : name' = name ∧ tokens.tail = later := by simpa using hexpect
    obtain ⟨rest, rfl, -, -, hlater⟩ := h.eq_word hnext
    exact ⟨rfl, rest, rfl, hlater⟩
  · simp at hexpect

/-- The name of a segment is in the text as it was written, which need not be as it is known. -/
theorem of_segmentName {name : String} (h : CutInto cs tokens)
    (hname : segmentName tokens = .ok (name, later)) :
    later = tokens.tail ∧ ∃ written rest, cs = written ++ rest ∧ IsName written ∧
      name = nameOf written ∧ CutInto rest later := by
  unfold segmentName at hname
  split at hname
  · next name' hnext =>
    obtain ⟨rfl, rfl⟩ : name' = name ∧ tokens.tail = later := by simpa using hname
    obtain ⟨rest, rfl, hwritten, hplain, hlater⟩ := h.eq_word hnext
    exact ⟨rfl, _, rest, rfl, hwritten, by simp [nameOf, hplain], hlater⟩
  · next n hnext =>
    obtain ⟨rfl, rfl⟩ : toString n = name ∧ tokens.tail = later := by simpa using hname
    obtain ⟨digits, rest, rfl, hdecimal, rfl, hlater⟩ := h.eq_number hnext
    exact ⟨rfl, digits, rest, rfl, isName_of_isDecimal hdecimal, by simp [nameOf, hdecimal],
      hlater⟩
  · simp at hname

/-- A name is read as what it stands for. -/
theorem segmentName_of_wordSymbol {name : List Char} {symbol : Symbol} {position : ℕ}
    (h : wordSymbol name = .ok symbol) :
    segmentName (⟨symbol, position⟩ :: later) = .ok (nameOf name, later) := by
  rcases wordSymbol_eq_ok_iff.1 h with ⟨hdecimal, -, rfl⟩ | ⟨hplain, rfl⟩
  · simp [segmentName, nameOf, hdecimal]
  · simp [segmentName, nameOf, hplain]

/-! ### Segments -/

/-- What is left after an index is the same text, or what follows the index. -/
theorem of_segmentIndex {index : Option ℕ} (h : CutInto cs tokens)
    (hindex : segmentIndex tokens = .ok (index, later)) :
    (index = none ∧ later = tokens) ∨
      later = tokens.tail.tail.tail ∧ ∃ digits rest, cs = '[' :: (digits ++ ']' :: rest) ∧
        Text.isDecimal digits = true ∧ index = some (Text.decimalValue digits) ∧
        CutInto rest later := by
  unfold segmentIndex at hindex
  split at hindex
  · next hopening =>
    obtain ⟨⟨n, tokens₁⟩, hnumber, hindex⟩ := Except.bind_eq_ok_iff.1 hindex
    obtain ⟨tokens₂, hclosing, hindex⟩ := Except.bind_eq_ok_iff.1 hindex
    obtain ⟨rfl, rfl⟩ : some n = index ∧ tokens₂ = later := by simpa using hindex
    obtain ⟨_, rfl, h₁⟩ := h.eq_cons hopening punctuation?_opening
    obtain ⟨rfl, digits, _, rfl, hdecimal, rfl, h₂⟩ := of_expectNumber h₁ hnumber
    obtain ⟨rfl, rest, rfl, h₃⟩ := of_expect punctuation?_closing h₂ hclosing
    exact Or.inr ⟨rfl, digits, rest, rfl, hdecimal, rfl, h₃⟩
  · obtain ⟨rfl, rfl⟩ : none = index ∧ tokens = later := by simpa using hindex
    exact Or.inl ⟨rfl, rfl⟩

/-- **A segment that was read is spelled in the text**, and the rest is left. -/
theorem of_readSegment {segment : Segment} (h : CutInto cs tokens)
    (hread : readSegment tokens = .ok (segment, later)) :
    later <:+ tokens ∧
      ∃ written rest, cs = written ++ rest ∧ segment.Spelled written ∧ CutInto rest later := by
  obtain ⟨⟨name, tokens₁⟩, hname, hread⟩ := Except.bind_eq_ok_iff.1 hread
  obtain ⟨⟨index, tokens₂⟩, hindex, hread⟩ := Except.bind_eq_ok_iff.1 hread
  obtain ⟨rfl, rfl⟩ : ⟨name, index⟩ = segment ∧ tokens₂ = later := by simpa using hread
  obtain ⟨rfl, written, rest, rfl, hwritten, rfl, h₁⟩ := of_segmentName h hname
  rcases of_segmentIndex h₁ hindex with ⟨rfl, rfl⟩ | ⟨rfl, digits, rest, rfl, hdecimal, rfl, h₂⟩
  · exact ⟨List.tail_suffix _, written, rest, rfl, .plain hwritten, h₁⟩
  · refine ⟨?_, _, rest, by simp, .indexed hwritten hdecimal, h₂⟩
    simpa only [← List.drop_one, List.drop_drop] using List.drop_suffix 4 tokens

/-! ### Segments that are well written -/

/-- No segment goes on into what starts with a dot, nor beyond the end. -/
theorem Continued.eq_nil_or_eq_cons {segments : List Segment} (h : Continued segments cs) :
    cs = [] ∨ ∃ rest, cs = '.' :: rest := by
  cases h with
  | nil => exact Or.inl rfl
  | cons first others => exact Or.inr ⟨_, rfl⟩

/-- No name goes on into segments after dots. -/
theorem Continued.endsName {segments : List Segment} (h : Continued segments cs) :
    EndsName cs := by
  rcases h.eq_nil_or_eq_cons with rfl | ⟨rest, rfl⟩
  · exact endsName_nil
  · exact endsName_cons_of_punctuation? punctuation?_dot rest

/-- Before a dot or the end there is no index. -/
theorem segmentIndex_of_continued {segments : List Segment} (hrest : Continued segments cs)
    (h : CutInto cs tokens) : segmentIndex tokens = .ok (none, tokens) := by
  have hnext : (next tokens).symbol ≠ .opening := by
    rcases hrest.eq_nil_or_eq_cons with rfl | ⟨rest, rfl⟩
    · obtain ⟨position, rfl⟩ := h.of_nil
      simp
    · obtain ⟨position, later, rfl, -⟩ := h.of_punctuation punctuation?_dot
      simp
  rw [segmentIndex, if_neg hnext]

/-- **A segment that is spelled in the text is read**, if segments after dots or the end follow. -/
theorem readSegment_of_spelled {segment : Segment} {segments : List Segment} {written : List Char}
    (hfirst : segment.Spelled written) (hrest : Continued segments rest)
    (h : CutInto (written ++ rest) tokens) :
    ∃ later, readSegment tokens = .ok (segment, later) ∧ later.length ≤ tokens.length ∧
      CutInto rest later := by
  cases hfirst with
  | @plain name hname =>
    obtain ⟨symbol, position, later, hsymbol, rfl, hlater⟩ := h.of_name hname hrest.endsName
    refine ⟨later, ?_, by simp, hlater⟩
    rw [readSegment, segmentName_of_wordSymbol hsymbol]
    show (segmentIndex later >>= _) = _
    rw [segmentIndex_of_continued hrest hlater]
    rfl
  | @indexed name digits hname hdecimal =>
    have hwritten : name ++ '[' :: (digits ++ [']']) ++ rest =
        name ++ '[' :: (digits ++ ']' :: rest) := by simp
    rw [hwritten] at h
    obtain ⟨symbol, position, _, hsymbol, rfl, h₁⟩ :=
      h.of_name hname (endsName_cons_of_punctuation? punctuation?_opening _)
    obtain ⟨_, _, rfl, h₂⟩ := h₁.of_punctuation punctuation?_opening
    obtain ⟨_, _, rfl, h₃⟩ :=
      h₂.of_digits hdecimal (endsName_cons_of_punctuation? punctuation?_closing _)
    obtain ⟨_, later, rfl, h₄⟩ := h₃.of_punctuation punctuation?_closing
    refine ⟨later, ?_, by simp only [List.length_cons]; omega, h₄⟩
    rw [readSegment, segmentName_of_wordSymbol hsymbol]
    rfl

/-! ### Segments after dots -/

/-- **Segments that are read after dots are written so.** -/
theorem of_moreSegments {fuel : ℕ} : ∀ {cs : List Char} {tokens : List Token}
    {segments : List Segment}, CutInto cs tokens → tokens.length ≤ fuel →
      moreSegments fuel tokens = .ok segments → Continued segments cs := by
  induction fuel with
  | zero =>
    intro cs tokens segments h hfuel _
    obtain rfl : tokens = [] := List.length_eq_zero_iff.1 (Nat.le_zero.1 hfuel)
    obtain ⟨position, h⟩ := h
    obtain ⟨symbol, later, heq, -⟩ := startsAs_of_tokensFrom h
    simp at heq
  | succ fuel ih =>
    intro cs tokens segments h hfuel hread
    rw [moreSegments] at hread
    split at hread
    · next hdot =>
      obtain ⟨⟨segment, later⟩, hsegment, hread⟩ := Except.bind_eq_ok_iff.1 hread
      obtain ⟨others, hothers, hread⟩ := Except.bind_eq_ok_iff.1 hread
      obtain rfl : segment :: others = segments := Except.ok.inj hread
      obtain ⟨_, rfl, h₁⟩ := h.eq_cons hdot punctuation?_dot
      obtain ⟨hsuffix, written, rest, rfl, hwritten, h₂⟩ := of_readSegment h₁ hsegment
      have hlength : later.length ≤ fuel := by
        have hle := hsuffix.length_le
        rw [List.length_tail] at hle
        omega
      exact .cons hwritten (ih h₂ hlength hothers)
    · next hfinish =>
      obtain rfl : [] = segments := Except.ok.inj hread
      obtain rfl := h.eq_nil hfinish
      exact .nil
    · simp at hread

/-- **Segments that are written after dots are read.** -/
theorem moreSegments_of_continued {segments : List Segment} (hwritten : Continued segments cs) :
    ∀ {fuel : ℕ} {tokens : List Token}, CutInto cs tokens → tokens.length ≤ fuel →
      moreSegments fuel tokens = .ok segments := by
  induction hwritten with
  | nil =>
    intro fuel tokens h hfuel
    obtain ⟨position, rfl⟩ := h.of_nil
    obtain ⟨fuel, rfl⟩ : ∃ n, fuel = n + 1 := Nat.exists_eq_add_one.2 hfuel
    rfl
  | @cons segment segments written rest first others ih =>
    intro fuel tokens h hfuel
    obtain ⟨position, tokens, rfl, h₁⟩ := h.of_punctuation punctuation?_dot
    obtain ⟨later, hsegment, hlength, h₂⟩ := readSegment_of_spelled first others h₁
    obtain ⟨fuel, rfl⟩ : ∃ n, fuel = n + 1 :=
      Nat.exists_eq_add_one.2 (Nat.lt_of_lt_of_le (by simp) hfuel)
    have hlength : later.length ≤ fuel := by
      rw [List.length_cons] at hfuel
      omega
    show (readSegment tokens >>= _) = _
    rw [hsegment]
    show (moreSegments fuel later >>= _) = _
    rw [ih h₂ hlength]
    rfl

/-! ### The two grammars -/

/-- **Relative paths are read exactly from their spellings.** -/
theorem readRelative_eq_ok_iff {segments : List Segment} (h : CutInto cs tokens) :
    readRelative tokens = .ok segments ↔ Spelled segments cs := by
  constructor
  · intro hread
    obtain ⟨⟨segment, later⟩, hsegment, hread⟩ := Except.bind_eq_ok_iff.1 hread
    obtain ⟨others, hothers, hread⟩ := Except.bind_eq_ok_iff.1 hread
    obtain rfl : segment :: others = segments := Except.ok.inj hread
    obtain ⟨hsuffix, written, rest, rfl, hwritten, h₁⟩ := of_readSegment h hsegment
    exact .intro hwritten (of_moreSegments h₁ hsuffix.length_le hothers)
  · rintro ⟨first, others⟩
    obtain ⟨later, hsegment, hlength, h₁⟩ := readSegment_of_spelled first others h
    rw [readRelative, hsegment]
    show (moreSegments tokens.length later >>= _) = _
    rw [moreSegments_of_continued others h₁ hlength]
    rfl

/-- A root is known by its name only. -/
theorem Root.ofName?_eq_some_iff {name : String} {root : Root} :
    Root.ofName? name = some root ↔ name = root.name := by
  unfold Root.ofName?
  constructor
  · intro h
    split at h
    · next heq => exact Option.some.inj h ▸ by simpa using heq
    · split at h
      · next heq => exact Option.some.inj h ▸ by simpa using heq
      · simp at h
  · rintro rfl
    cases root <;> rfl

/-- The names of roots are words. -/
theorem Root.isName_name (root : Root) :
    IsName root.name.toList ∧ Text.isDecimal root.name.toList = false := by
  cases root <;> decide +kernel

/-- So is the keyword. -/
theorem isName_stepsKeyword :
    IsName stepsKeyword.toList ∧ Text.isDecimal stepsKeyword.toList = false := by
  decide +kernel

/-- A root that was read is in the text by its name. -/
theorem of_readRoot {root : Root} (h : CutInto cs tokens)
    (hread : readRoot tokens = .ok (root, later)) :
    later = tokens.tail ∧ ∃ rest, cs = root.name.toList ++ rest ∧ CutInto rest later := by
  obtain ⟨⟨name, tokens₁⟩, hname, hread⟩ := Except.bind_eq_ok_iff.1 hread
  obtain ⟨rfl, rest, rfl, h₁⟩ := of_expectWord h hname
  dsimp only at hread
  split at hread
  · next root' hroot =>
    obtain ⟨rfl, rfl⟩ : root' = root ∧ tokens.tail = later := by simpa using hread
    exact ⟨rfl, rest, by rw [Root.ofName?_eq_some_iff.1 hroot], h₁⟩
  · simp at hread

/-- **References that are read are written so.** -/
theorem of_readReference {ref : Reference} (h : CutInto cs tokens)
    (hread : readReference tokens = .ok ref) : ref.Spelled cs := by
  obtain ⟨⟨keyword, tokens₁⟩, hkeyword, hread⟩ := Except.bind_eq_ok_iff.1 hread
  obtain ⟨rfl, _, rfl, h₁⟩ := of_expectWord h hkeyword
  dsimp only at hread
  split at hread
  · simp at hread
  · next hsame =>
    obtain rfl : keyword = stepsKeyword := not_not.1 hsame
    obtain ⟨tokens₂, hopening, hread⟩ := Except.bind_eq_ok_iff.1 hread
    obtain ⟨⟨step, tokens₃⟩, hstep, hread⟩ := Except.bind_eq_ok_iff.1 hread
    obtain ⟨tokens₄, hclosing, hread⟩ := Except.bind_eq_ok_iff.1 hread
    obtain ⟨tokens₅, hdot, hread⟩ := Except.bind_eq_ok_iff.1 hread
    obtain ⟨⟨root, tokens₆⟩, hroot, hread⟩ := Except.bind_eq_ok_iff.1 hread
    obtain ⟨segments, hsegments, hread⟩ := Except.bind_eq_ok_iff.1 hread
    obtain rfl := Except.ok.inj hread
    obtain ⟨rfl, _, rfl, h₂⟩ := of_expect punctuation?_opening h₁ hopening
    obtain ⟨rfl, digits, _, rfl, hdecimal, rfl, h₃⟩ := of_expectNumber h₂ hstep
    obtain ⟨rfl, _, rfl, h₄⟩ := of_expect punctuation?_closing h₃ hclosing
    obtain ⟨rfl, _, rfl, h₅⟩ := of_expect punctuation?_dot h₄ hdot
    obtain ⟨rfl, rest, rfl, h₆⟩ := of_readRoot h₅ hroot
    have hpath : Continued segments rest := by
      refine of_moreSegments h₆ ?_ hsegments
      simp only [List.length_tail]
      omega
    have hwritten := Reference.Spelled.intro hdecimal root hpath
    simpa [stepsKeyword] using hwritten

/-- **References are read exactly from their spellings.** -/
theorem readReference_eq_ok_iff {ref : Reference} (h : CutInto cs tokens) :
    readReference tokens = .ok ref ↔ ref.Spelled cs := by
  refine ⟨of_readReference h, ?_⟩
  rintro ⟨hdecimal, root, hpath⟩
  next digits segments rest =>
  have hwritten : "$steps[".toList ++ digits ++ "].".toList ++ root.name.toList ++ rest =
      stepsKeyword.toList ++ '[' :: (digits ++ ']' :: '.' :: (root.name.toList ++ rest)) := by
    simp [stepsKeyword]
  rw [hwritten] at h
  obtain ⟨_, _, rfl, h₁⟩ := h.of_word isName_stepsKeyword.1 isName_stepsKeyword.2
    (endsName_cons_of_punctuation? punctuation?_opening _)
  obtain ⟨_, _, rfl, h₂⟩ := h₁.of_punctuation punctuation?_opening
  obtain ⟨_, _, rfl, h₃⟩ :=
    h₂.of_digits hdecimal (endsName_cons_of_punctuation? punctuation?_closing _)
  obtain ⟨_, _, rfl, h₄⟩ := h₃.of_punctuation punctuation?_closing
  obtain ⟨_, _, rfl, h₅⟩ := h₄.of_punctuation punctuation?_dot
  obtain ⟨_, later, rfl, h₆⟩ := h₅.of_word root.isName_name.1 root.isName_name.2 hpath.endsName
  have hsegments : moreSegments (later.length + 6) later = .ok segments :=
    moreSegments_of_continued hpath h₆ (by omega)
  have hroot : Root.ofName? root.name = some root := Root.ofName?_eq_some_iff.2 rfl
  simp [readReference, readRoot, expectWord, expectNumber, expect, Symbol.class, bind, Except.bind,
    hroot, hsegments]

/-! ### Texts -/

/-! What is written is not empty and holds no blank character. -/

theorem IsName.not_blank {name : List Char} (h : IsName name) :
    ∀ c ∈ name, Text.isBlank c = false :=
  fun c hc ↦ (h.2 c hc).2.2.2

/-- A segment is spelled without blank characters. -/
theorem Segment.Spelled.not_blank {segment : Segment} (h : segment.Spelled cs) :
    cs ≠ [] ∧ ∀ c ∈ cs, Text.isBlank c = false := by
  cases h with
  | plain isName => exact ⟨isName.1, isName.not_blank⟩
  | indexed isName isDecimal =>
    refine ⟨by simp, ?_⟩
    simp only [List.forall_mem_append, List.forall_mem_cons]
    exact ⟨isName.not_blank, by decide, (isName_of_isDecimal isDecimal).not_blank, by decide,
      by simp⟩

/-- So are the segments after it. -/
theorem Continued.not_blank {segments : List Segment} (h : Continued segments cs) :
    ∀ c ∈ cs, Text.isBlank c = false := by
  induction h with
  | nil => simp
  | cons first others ih =>
    simp only [List.forall_mem_append, List.forall_mem_cons]
    exact ⟨by decide, first.not_blank.2, ih⟩

/-- A path is spelled by characters that are not blank, and some. -/
theorem Spelled.not_blank {segments : List Segment} (h : Spelled segments cs) :
    cs ≠ [] ∧ ∀ c ∈ cs, Text.isBlank c = false := by
  obtain ⟨first, others⟩ := h
  refine ⟨by simp [first.not_blank.1], ?_⟩
  rw [List.forall_mem_append]
  exact ⟨first.not_blank.2, others.not_blank⟩

/-- So is a reference. -/
theorem Reference.Spelled.not_blank {ref : Reference} (h : ref.Spelled cs) :
    cs ≠ [] ∧ ∀ c ∈ cs, Text.isBlank c = false := by
  obtain ⟨isDecimal, root, path⟩ := h
  refine ⟨by simp, ?_⟩
  simp only [List.forall_mem_append]
  refine ⟨⟨⟨⟨?_, (isName_of_isDecimal isDecimal).not_blank⟩, ?_⟩, root.isName_name.1.not_blank⟩,
    path.not_blank⟩
  · simp [Text.isBlank, Text.blankRanges]
  · simp [Text.isBlank, Text.blankRanges]

variable {α : Type} {text : String} {grammar : List Token → Except Problem α}
  {form : α → List Char → Prop}

/-- **A text is read by a grammar exactly when it has the form** that the grammar accepts. -/
theorem read_eq_ok_iff
    (hgrammar : ∀ {cs tokens a}, CutInto cs tokens → (grammar tokens = .ok a ↔ form a cs))
    (hform : ∀ {a cs}, form a cs → cs ≠ [] ∧ ∀ c ∈ cs, Text.isBlank c = false)
    (hshort : ¬HasOverlongNumber text.toList) {a : α} :
    read grammar text = .ok a ↔ form a text.toList := by
  constructor
  · intro h
    unfold read at h
    split at h
    · simp at h
    · obtain ⟨tokens, htokens, h⟩ := Except.bind_eq_ok_iff.1 h
      rcases hread : grammar tokens with problem | a'
      · simp [hread, Except.mapError] at h
      · obtain rfl : a' = a := by simpa [hread, Except.mapError] using h
        exact (hgrammar ⟨0, htokens⟩).1 hread
  · intro h
    obtain ⟨hne, hblank⟩ := hform h
    obtain ⟨tokens, htokens⟩ : ∃ tokens, tokensFrom 0 text.toList = .ok tokens :=
      exists_tokensFrom_eq_ok hblank hshort
    have hnot : ¬Text.isBlankText text = true := by
      intro hall
      obtain ⟨c, hc⟩ := List.exists_mem_of_ne_nil _ hne
      exact absurd (Text.isBlankText_iff.1 hall c hc) (by simp [hblank c hc])
    rw [read, if_neg hnot, Path.tokens, htokens]
    show (grammar tokens).mapError Failure.problem = .ok a
    rw [(hgrammar ⟨0, htokens⟩).2 h]
    rfl

/-- **A text is accepted as a path exactly when it is spelled as one.** -/
theorem parse_eq_ok_iff (hshort : ¬HasOverlongNumber text.toList) {segments : List Segment} :
    parse text = .ok segments ↔ Spelled segments text.toList :=
  read_eq_ok_iff readRelative_eq_ok_iff Spelled.not_blank hshort

/-- **A text is accepted as a reference exactly when it is spelled as one.** -/
theorem Reference.parse_eq_ok_iff (hshort : ¬HasOverlongNumber text.toList) {ref : Reference} :
    Reference.parse text = .ok ref ↔ ref.Spelled text.toList :=
  read_eq_ok_iff readReference_eq_ok_iff Reference.Spelled.not_blank hshort

/-- A reader accepts exactly the texts of a form, and reads them as the form says; of all others it
reports that their syntax is wrong. -/
structure ReadsExactly (form : α → List Char → Prop) (parse : String → Except Failure α)
    (report : Failure → Stop) (text : String) : Prop where
  ok_iff : ∀ a, parse text = .ok a ↔ form a text.toList
  fault_of : (∀ a, ¬form a text.toList) → ∃ failure fault, parse text = .error failure ∧
    report failure = .fault fault ∧ fault.kind = .pathSyntax

/-- What is accepted decides everything: whatever else is reported is an error of syntax. -/
theorem readsExactly_of_ok_iff {report : Failure → Stop} (hshort : ¬HasOverlongNumber text.toList)
    (hok : ∀ a, read grammar text = .ok a ↔ form a text.toList)
    (hreport : ∀ failure, (∃ n, failure = .tooManyDigits n) ∨
      ∃ fault, report failure = .fault fault ∧ fault.kind = .pathSyntax) :
    ReadsExactly form (read grammar) report text where
  ok_iff := hok
  fault_of := by
    intro hnone
    rcases hread : read grammar text with failure | a
    · rcases hreport failure with ⟨n, rfl⟩ | ⟨fault, hfault, hkind⟩
      · exact absurd (read_eq_tooManyDigits_iff.1 ⟨n, hread⟩) hshort
      · exact ⟨failure, fault, rfl, hfault, hkind⟩
    · exact absurd ((hok a).1 hread) (hnone a)

/-- **Both readers accept exactly what the notation allows**, and read it as the notation means
it. -/
theorem readsExactly (hshort : ¬HasOverlongNumber text.toList) :
    ReadsExactly Spelled parse (Failure.forPath (.text text)) text ∧
      ReadsExactly Reference.Spelled Reference.parse (Failure.forReference (.text text)) text := by
  constructor
  · refine readsExactly_of_ok_iff hshort (fun _ ↦ parse_eq_ok_iff hshort) fun failure ↦ ?_
    cases failure <;> simp [Failure.forPath]
  · refine readsExactly_of_ok_iff hshort (fun _ ↦ Reference.parse_eq_ok_iff hshort) fun failure ↦ ?_
    cases failure <;> simp [Failure.forReference]

/-- A reference with a spare zero in the number of its step, and an index. -/
theorem readsExactly_sample :
    ¬HasOverlongNumber "$steps[07].response.content[0].text".toList ∧
      ReadsExactly Reference.Spelled Reference.parse
        (Failure.forReference (.text "$steps[07].response.content[0].text"))
        "$steps[07].response.content[0].text" ∧
      (Reference.parse "$steps[07].response.content[0].text").toOption =
        some ⟨7, .response, [⟨"content", some 0⟩, ⟨"text", none⟩]⟩ := by
  have hshort : ¬HasOverlongNumber "$steps[07].response.content[0].text".toList := by
    unfold HasOverlongNumber
    decide +kernel
  refine ⟨hshort, (readsExactly hshort).2, ?_⟩
  decide +kernel

end ToolFlow.Path

import ToolFlow.Proofs.Path.Boundaries

/-!
# How tokens part a text

Each token stands for the part of the text from its position to that of the next one, and the last
token stands at the end. These parts make up the whole text (`PartsFrom`), and no list of tokens but
the one that the text is cut into parts it in this way: a word or a number goes as far as it can,
since no other may follow it (`tokens_eq_ok_iff`).

One lemma takes the first token off a partition and one puts it back (`PartsFrom.uncons`,
`PartsFrom.cons`); the tokens that are left part the text from the position of the next one on. The
text is followed along with them from the left, by induction on the tokens.

A text that is not cut has a number of too many digits, or else is stopped at its first blank
character (`tokens_eq_blank_iff`). A number that is too long hides a blank character behind it.
-/

namespace ToolFlow.Path

/-- Whether a symbol is a word or a number, which are read as far as there are characters for
them. -/
def Symbol.isWordOrNumber : Symbol → Bool
  | .word _ => true
  | .number _ => true
  | _ => false

/-- What part of a text a symbol stands for. The end of the text stands for none. -/
inductive Symbol.Written : Symbol → List Char → Prop
  | dot : Written .dot ['.']
  | opening : Written .opening ['[']
  | closing : Written .closing [']']
  | word {name : List Char} (isName : IsName name) (not_decimal : Text.isDecimal name = false) :
      Written (.word (String.ofList name)) name
  | number {digits : List Char} (isDecimal : Text.isDecimal digits = true) :
      Written (.number (Text.decimalValue digits)) digits

/-- The parts of a text from each token to the next. -/
def slices (text : List Char) (tokens : List Token) : List (List Char) :=
  tokens.zipWith (fun token after ↦ text.extract token.position after.position) tokens.tail

/-- Tokens part a text from a position on. -/
structure PartsFrom (text : List Char) (start : ℕ) (tokens : List Token) : Prop where
  starts : tokens.head?.map Token.position = some start
  increasing : (tokens.map Token.position).Pairwise (· < ·)
  finishes : tokens.getLast? = some ⟨.finish, text.length⟩
  whole : (slices text tokens).flatten = text.drop start
  written : List.Forall₂ (fun token part ↦ token.symbol.Written part) tokens.dropLast
    (slices text tokens)
  apart : tokens.IsChain fun token after ↦
    token.symbol.isWordOrNumber = true → after.symbol.isWordOrNumber = false

variable {position start : ℕ} {text part rest : List Char} {symbol : Symbol} {token after : Token}
  {tokens later : List Token}

/-! ### Single tokens -/

/-- What is written is not empty. -/
theorem Symbol.Written.length_pos (h : symbol.Written part) : 0 < part.length := by
  cases h with
  | word isName => exact List.length_pos_of_ne_nil isName.1
  | number isDecimal => exact List.length_pos_of_ne_nil (isName_of_isDecimal isDecimal).1
  | _ => exact Nat.zero_lt_one

/-- What is neither a word nor a number is punctuation. -/
theorem Symbol.Written.exists_punctuation (h : symbol.Written part)
    (hplain : symbol.isWordOrNumber = false) : ∃ c, part = [c] ∧ punctuation? c = some symbol := by
  cases h with
  | dot => exact ⟨'.', rfl, punctuation?_dot⟩
  | opening => exact ⟨'[', rfl, punctuation?_opening⟩
  | closing => exact ⟨']', rfl, punctuation?_closing⟩
  | word => simp [isWordOrNumber] at hplain
  | number => simp [isWordOrNumber] at hplain

/-- A mark stands for itself. -/
theorem written_of_punctuation? {c : Char} (h : punctuation? c = some symbol) :
    symbol.Written [c] ∧ symbol.isWordOrNumber = false := by
  rcases punctuation?_eq_some_iff.1 h with ⟨rfl, rfl⟩ | ⟨rfl, rfl⟩ | ⟨rfl, rfl⟩
  · exact ⟨.dot, rfl⟩
  · exact ⟨.opening, rfl⟩
  · exact ⟨.closing, rfl⟩

/-- The first token of a text stands for the part that it is cut off with. -/
theorem StartsAs.exists_written (h : StartsAs position text symbol later) :
    text = [] ∧ symbol = .finish ∧ later = [] ∨
      ∃ part rest, text = part ++ rest ∧ symbol.Written part ∧
        (symbol.isWordOrNumber = true → EndsName rest) ∧
        tokensFrom (position + part.length) rest = .ok later := by
  cases h with
  | finish => exact Or.inl ⟨rfl, rfl, rfl⟩
  | @punctuation c rest _ _ hc hlater =>
    obtain ⟨hwritten, hplain⟩ := written_of_punctuation? hc
    exact Or.inr ⟨[c], rest, rfl, hwritten, by simp [hplain], hlater⟩
  | @word name rest _ hname hplain hends hlater =>
    exact Or.inr ⟨name, rest, rfl, .word hname hplain, fun _ ↦ hends, hlater⟩
  | @number digits rest _ hdecimal hends hlater =>
    exact Or.inr ⟨digits, rest, rfl, .number hdecimal, fun _ ↦ hends, hlater⟩

/-- Where no name goes on, the next token is neither a word nor a number. -/
theorem StartsAs.isWordOrNumber_eq_false (h : StartsAs position text symbol later)
    (hends : EndsName text) : symbol.isWordOrNumber = false := by
  have hnot : ∀ {name rest}, text = name ++ rest → ¬IsName name := by
    rintro name rest rfl hname
    obtain ⟨hne, hchars⟩ := isName_iff.1 hname
    obtain ⟨c, name, rfl⟩ := List.exists_cons_of_ne_nil hne
    have hc : isWordChar c = false := hends c rfl
    simp [hchars c List.mem_cons_self] at hc
  cases h with
  | finish => rfl
  | punctuation hc => exact (written_of_punctuation? hc).2
  | word hname => exact absurd hname (hnot rfl)
  | number hdecimal => exact absurd (isName_of_isDecimal hdecimal) (hnot rfl)

/-- What a word or a number stands for is read as such, unless it is a number that is too long. -/
theorem Symbol.Written.wordSymbol_eq_ok (h : symbol.Written part)
    (hsymbol : symbol.isWordOrNumber = true) :
    IsName part ∧ (IsShort part → wordSymbol part = .ok symbol) := by
  cases h with
  | word hname hplain =>
    exact ⟨hname, fun _ ↦ wordSymbol_eq_ok_iff.2 (Or.inr ⟨hplain, rfl⟩)⟩
  | number hdecimal =>
    exact ⟨isName_of_isDecimal hdecimal, fun hshort ↦
      wordSymbol_eq_ok_iff.2 (Or.inl ⟨hdecimal, hshort hdecimal, rfl⟩)⟩
  | _ => simp [isWordOrNumber] at hsymbol

/-- **A part that a symbol stands for is cut off with it**, unless it is a number that is too
long. -/
theorem Symbol.Written.tokensFrom_append (h : symbol.Written part)
    (hends : symbol.isWordOrNumber = true → EndsName rest)
    (hshort : ¬HasOverlongNumber (part ++ rest)) :
    ¬HasOverlongNumber rest ∧ ∀ position, tokensFrom position (part ++ rest) = (do
      let later ← tokensFrom (position + part.length) rest
      .ok (⟨symbol, position⟩ :: later)) := by
  cases hsymbol : symbol.isWordOrNumber with
  | false =>
    obtain ⟨c, rfl, hc⟩ := h.exists_punctuation hsymbol
    exact ⟨(not_hasOverlongNumber_cons_iff hc).1 hshort, fun _ ↦ tokensFrom_cons hc⟩
  | true =>
    obtain ⟨hname, hword⟩ := h.wordSymbol_eq_ok hsymbol
    obtain ⟨hpart, hrest⟩ := (not_hasOverlongNumber_append_iff hname (hends hsymbol)).1 hshort
    refine ⟨hrest, fun position ↦ ?_⟩
    rw [Path.tokensFrom_append hname (hends hsymbol), hword hpart]
    rfl

/-! ### Partitions -/

theorem slices_cons_cons :
    slices text (token :: after :: later) =
      text.extract token.position after.position :: slices text (after :: later) :=
  rfl

/-- At the end of a text one token parts it. -/
theorem partsFrom_length (text : List Char) :
    PartsFrom text text.length [⟨.finish, text.length⟩] where
  starts := rfl
  increasing := List.pairwise_singleton _ _
  finishes := rfl
  whole := by simp [slices]
  written := .nil
  apart := .singleton _

/-- A partition goes on with a token. -/
theorem PartsFrom.exists_cons (h : PartsFrom text start tokens) :
    ∃ token later, tokens = token :: later ∧ token.position = start := by
  have hstarts := h.starts
  cases tokens with
  | nil => simp at hstarts
  | cons token later => exact ⟨token, later, rfl, by simpa using hstarts⟩

/-- The positions of a partition are in the text or at its end. -/
theorem PartsFrom.position_le (h : PartsFrom text start tokens) (htoken : token ∈ tokens) :
    token.position ≤ text.length := by
  obtain ⟨init, rfl⟩ := List.getLast?_eq_some_iff.1 h.finishes
  rcases List.mem_append.1 htoken with hmem | hmem
  · have hincreasing := h.increasing
    rw [List.map_append, List.pairwise_append] at hincreasing
    exact Nat.le_of_lt (hincreasing.2.2 _ (List.mem_map_of_mem hmem) _ (by simp))
  · obtain rfl := List.mem_singleton.1 hmem
    exact Nat.le_refl _

/-- **A token before a partition makes one of a longer part of the text.** -/
theorem PartsFrom.cons (hpart : symbol.Written part) (htext : text.drop start = part ++ rest)
    (h : PartsFrom text (start + part.length) later)
    (hapart : symbol.isWordOrNumber = true → ∀ after ∈ later.head?,
      after.symbol.isWordOrNumber = false) :
    PartsFrom text start (⟨symbol, start⟩ :: later) := by
  obtain ⟨after, later, rfl, hafter⟩ := h.exists_cons
  have hpos := hpart.length_pos
  have hslice : text.extract start after.position = part := by
    rw [hafter, List.extract_eq_take_drop, Nat.add_sub_cancel_left, htext, List.take_left]
  constructor
  case starts => rfl
  case increasing =>
    have hincreasing := h.increasing
    rw [List.map_cons, List.pairwise_cons] at hincreasing ⊢
    rw [List.map_cons, List.pairwise_cons, List.forall_mem_cons]
    have hlt : start < after.position := by omega
    exact ⟨⟨hlt, fun p hp ↦ Nat.lt_trans hlt (hincreasing.1 p hp)⟩, hincreasing⟩
  case finishes =>
    rw [List.getLast?_cons, h.finishes]
    rfl
  case whole =>
    calc (slices text (⟨symbol, start⟩ :: after :: later)).flatten
        = part ++ (slices text (after :: later)).flatten := by
          rw [slices_cons_cons, List.flatten_cons, hslice]
      _ = part ++ (text.drop start).drop part.length := by rw [h.whole, List.drop_drop]
      _ = text.drop start := by rw [htext, List.drop_left]
  case written =>
    rw [slices_cons_cons, hslice, List.dropLast_cons_cons]
    exact .cons hpart h.written
  case apart =>
    exact List.isChain_cons_cons.2 ⟨fun hsymbol ↦ hapart hsymbol after rfl, h.apart⟩

/-- What is left of a text from a position on starts with the part up to a later one. -/
theorem drop_eq_extract_append {stop : ℕ} (h : start ≤ stop) :
    text.drop start = text.extract start stop ++ text.drop stop := by
  obtain ⟨n, rfl⟩ := Nat.exists_eq_add_of_le h
  rw [List.extract_eq_take_drop, Nat.add_sub_cancel_left, ← List.drop_drop,
    List.take_append_drop]

/-- **A partition without its first token is one of the rest of the text.** -/
theorem PartsFrom.uncons (h : PartsFrom text start (token :: after :: later)) :
    ∃ part, token.symbol.Written part ∧ text.drop start = part ++ text.drop after.position ∧
      after.position = start + part.length ∧ PartsFrom text after.position (after :: later) ∧
      (token.symbol.isWordOrNumber = true → after.symbol.isWordOrNumber = false) := by
  obtain ⟨_, _, heq, hstart⟩ := h.exists_cons
  obtain ⟨rfl, rfl⟩ := List.cons.inj heq
  have hle : after.position ≤ text.length := h.position_le (by simp)
  have hincreasing := h.increasing
  rw [List.map_cons, List.pairwise_cons] at hincreasing
  have hlt : start < after.position := hstart ▸ hincreasing.1 _ (by simp)
  have hwritten := h.written
  rw [slices_cons_cons, List.dropLast_cons_cons, List.forall₂_cons, hstart] at hwritten
  obtain ⟨hapart, hchain⟩ := List.isChain_cons_cons.1 h.apart
  have hparts := @drop_eq_extract_append _ text _ (Nat.le_of_lt hlt)
  have hlength : after.position = start + (text.extract start after.position).length := by
    rw [List.extract_eq_take_drop, List.length_take, List.length_drop]
    omega
  have hfinishes : (after :: later).getLast? = some ⟨.finish, text.length⟩ := by
    simpa [List.getLast?_cons_cons] using h.finishes
  have hwhole : (slices text (after :: later)).flatten = text.drop after.position := by
    have hwhole := h.whole
    rw [slices_cons_cons, List.flatten_cons, hstart, hparts] at hwhole
    exact List.append_cancel_left hwhole
  exact ⟨_, hwritten.1, hparts, hlength,
    ⟨rfl, hincreasing.2, hfinishes, hwhole, hwritten.2, hchain⟩, hapart⟩

/-- No name goes on where a partition starts with neither a word nor a number. -/
theorem PartsFrom.endsName (h : PartsFrom text start (token :: later))
    (hplain : token.symbol.isWordOrNumber = false) : EndsName (text.drop start) := by
  cases later with
  | nil =>
    obtain rfl : token = ⟨.finish, text.length⟩ := by simpa using h.finishes
    obtain rfl : text.length = start := by simpa using h.starts
    rw [List.drop_length]
    exact endsName_nil
  | cons after later =>
    obtain ⟨part, hpart, htext, -⟩ := h.uncons
    obtain ⟨c, rfl, hc⟩ := hpart.exists_punctuation hplain
    rw [htext]
    exact endsName_cons_of_punctuation? hc _

/-! ### The tokens of a text -/

/-- The tokens that a text is cut into part it. -/
theorem partsFrom_of_tokensFrom (hle : start ≤ text.length)
    (h : tokensFrom start (text.drop start) = .ok tokens) : PartsFrom text start tokens := by
  induction tokens generalizing start with
  | nil =>
    obtain ⟨_, _, hnil, -⟩ := startsAs_of_tokensFrom h
    simp at hnil
  | cons token later ih =>
    obtain ⟨symbol, _, heq, hstart⟩ := startsAs_of_tokensFrom h
    obtain ⟨rfl, rfl⟩ := List.cons.inj heq
    rcases hstart.exists_written with ⟨hnil, rfl, rfl⟩ | ⟨part, rest, htext, hpart, hends, hlater⟩
    · obtain rfl : start = text.length := Nat.le_antisymm hle (List.drop_eq_nil_iff.1 hnil)
      exact partsFrom_length text
    · have hlength := congrArg List.length htext
      rw [List.length_drop, List.length_append] at hlength
      have hpos := hpart.length_pos
      have hrest : text.drop (start + part.length) = rest := by
        rw [← List.drop_drop, htext, List.drop_left]
      refine .cons hpart htext (ih (by omega) (hrest ▸ hlater)) fun hsymbol after hafter ↦ ?_
      -- the word has ended, so the next token starts with no character of a word
      obtain ⟨symbol', later', rfl, hstart'⟩ := startsAs_of_tokensFrom hlater
      obtain rfl : ⟨symbol', start + part.length⟩ = after := by simpa using hafter
      exact hstart'.isWordOrNumber_eq_false (hends hsymbol)

/-- Tokens that part a text are those that it is cut into. -/
theorem tokensFrom_of_partsFrom (hshort : ¬HasOverlongNumber (text.drop start))
    (h : PartsFrom text start tokens) : tokensFrom start (text.drop start) = .ok tokens := by
  induction tokens generalizing start with
  | nil =>
    obtain ⟨_, _, hnil, -⟩ := h.exists_cons
    simp at hnil
  | cons token later ih =>
    cases later with
    | nil =>
      obtain rfl : token = ⟨.finish, text.length⟩ := by simpa using h.finishes
      obtain rfl : text.length = start := by simpa using h.starts
      rw [List.drop_length, tokensFrom_nil]
    | cons after later =>
      obtain ⟨part, hpart, htext, hafter, hlater, hapart⟩ := h.uncons
      obtain ⟨_, _, heq, hstart⟩ := h.exists_cons
      obtain ⟨rfl, -⟩ := List.cons.inj heq
      have hends : token.symbol.isWordOrNumber = true → EndsName (text.drop after.position) :=
        fun hsymbol ↦ hlater.endsName (hapart hsymbol)
      rw [htext] at hshort ⊢
      obtain ⟨hrest, hcut⟩ := hpart.tokensFrom_append hends hshort
      rw [hcut, ← hafter, ih hrest hlater, ← hstart]
      rfl

/-- **A text is cut into the tokens that part it**, and there are no others that do. -/
theorem tokens_eq_ok_iff {text : String} (hshort : ¬HasOverlongNumber text.toList) :
    Path.tokens text = .ok tokens ↔ PartsFrom text.toList 0 tokens :=
  ⟨partsFrom_of_tokensFrom (Nat.zero_le _), tokensFrom_of_partsFrom hshort⟩

/-! ### Texts that are not cut -/

/-- Cutting fails at a blank character or at a number that is too long, and in no other way. -/
theorem tokensFrom_ne_empty : tokensFrom position text ≠ .error .empty := by
  fun_induction tokensFrom position text with
  | case1 => simp
  | case2 => simp
  | case3 position c rest hblank symbol hsymbol ih =>
    intro h
    rcases Except.bind_eq_error_iff.1 h with h | ⟨later, -, h⟩
    · exact ih h
    · simp at h
  | case4 position c rest hblank hnone word ih =>
    intro h
    rcases Except.bind_eq_error_iff.1 h with h | ⟨symbol, -, h⟩
    · simp [wordSymbol_eq_error_iff] at h
    · rcases Except.bind_eq_error_iff.1 h with h | ⟨later, -, h⟩
      · exact ih h
      · simp at h

/-- **A text with blank characters is stopped at the first of them exactly when** no number before
it is too long. -/
theorem tokens_eq_blank_iff {text : String} {n : ℕ}
    (hfirst : text.toList.findIdx? Text.isBlank = some n) :
    Path.tokens text = .error (.problem (.blank n)) ↔ ¬HasOverlongNumber text.toList := by
  rw [← @tokensFrom_eq_tooManyDigits_iff 0, Path.tokens]
  constructor
  · rintro h ⟨count, hcount⟩
    simp [h] at hcount
  · intro hshort
    rcases hcut : tokensFrom 0 text.toList with (_ | p | count) | tokens
    · exact absurd hcut tokensFrom_ne_empty
    · obtain ⟨done, c, rest, htext, hdone, hc, rfl⟩ := exists_append_of_tokensFrom_eq_problem hcut
      rw [htext, List.findIdx?_append, List.findIdx?_eq_none_iff.2 hdone, List.findIdx?_cons,
        if_pos hc] at hfirst
      simp_all
    · exact absurd ⟨count, hcut⟩ hshort
    · obtain ⟨c, hmem, hc⟩ : ∃ c ∈ text.toList, Text.isBlank c = true := by
        by_contra hnone
        rw [List.findIdx?_eq_none_iff.2 (by simpa using hnone)] at hfirst
        simp at hfirst
      simp [not_blank_of_tokensFrom hcut c hmem] at hc

/-- How a text is cut into tokens: into the only ones that part it, or not at all. -/
structure CutsExactly (text : String) : Prop where
  parts : (∀ c ∈ text.toList, Text.isBlank c = false) → ¬HasOverlongNumber text.toList →
    ∃ all, Path.tokens text = .ok all ∧ PartsFrom text.toList 0 all
  unique : ¬HasOverlongNumber text.toList → ∀ all others, PartsFrom text.toList 0 all →
    PartsFrom text.toList 0 others → all = others
  stops_iff : ∀ n, text.toList.findIdx? Text.isBlank = some n →
    (Path.tokens text = .error (.problem (.blank n)) ↔ ¬HasOverlongNumber text.toList)

/-- **Every text without blank characters is parted by its tokens**, and by no others, unless a
number in it is too long. A text with blank characters is stopped at the first of them exactly when
no number before it is too long. -/
theorem cutsExactly (text : String) : CutsExactly text where
  parts hblank hshort := by
    obtain ⟨all, hall⟩ : ∃ all, tokensFrom 0 text.toList = .ok all :=
      exists_tokensFrom_eq_ok hblank hshort
    exact ⟨all, hall, (tokens_eq_ok_iff hshort).1 hall⟩
  unique hshort all others hall hothers := by
    have htokens := (tokens_eq_ok_iff hshort).2 hall
    exact Except.ok.inj (htokens.symm.trans ((tokens_eq_ok_iff hshort).2 hothers))
  stops_iff _ hfirst := tokens_eq_blank_iff hfirst

/-- A word that ends in a digit which is not an ASCII one, and an index with a spare zero; and a
blank character after a bracket. -/
theorem cutsExactly_sample :
    (Path.tokens "id²[07].x" = .ok [⟨.word "id²", 0⟩, ⟨.opening, 3⟩, ⟨.number 7, 4⟩, ⟨.closing, 6⟩,
        ⟨.dot, 7⟩, ⟨.word "x", 8⟩, ⟨.finish, 9⟩] ∧
      PartsFrom "id²[07].x".toList 0 [⟨.word "id²", 0⟩, ⟨.opening, 3⟩, ⟨.number 7, 4⟩,
        ⟨.closing, 6⟩, ⟨.dot, 7⟩, ⟨.word "x", 8⟩, ⟨.finish, 9⟩]) ∧
    "a[0] b".toList.findIdx? Text.isBlank = some 4 ∧
      Path.tokens "a[0] b" = .error (.problem (.blank 4)) := by
  have htokens : Path.tokens "id²[07].x" = .ok [⟨.word "id²", 0⟩, ⟨.opening, 3⟩, ⟨.number 7, 4⟩,
      ⟨.closing, 6⟩, ⟨.dot, 7⟩, ⟨.word "x", 8⟩, ⟨.finish, 9⟩] := by
    decide +kernel
  have hblank : ∀ c ∈ "id²[07].x".toList, Text.isBlank c = false := by
    simp [Text.isBlank, Text.blankRanges]
  obtain ⟨all, hall, hparts⟩ := (cutsExactly "id²[07].x").parts hblank (by decide +kernel)
  obtain rfl := Except.ok.inj (htokens.symm.trans hall)
  have hfirst : "a[0] b".toList.findIdx? Text.isBlank = some 4 := by decide +kernel
  exact ⟨⟨htokens, hparts⟩, hfirst,
    ((cutsExactly "a[0] b").stops_iff 4 hfirst).2 (by decide +kernel)⟩

/-- A number of so many digits, and a blank character after it. -/
def spacedNumber (n : ℕ) : String :=
  String.ofList (List.replicate n '1' ++ [' '])

/-- Ones are digits. -/
theorem isDecimal_replicate {n : ℕ} (hpos : 0 < n) :
    Text.isDecimal (List.replicate n '1') = true :=
  Text.isDecimal_iff.2 ⟨by simpa using Nat.pos_iff_ne_zero.1 hpos,
    fun _ hc ↦ List.eq_of_mem_replicate hc ▸ rfl⟩

/-- The blank character comes after all of the digits. -/
theorem findIdx?_spacedNumber {n : ℕ} (hpos : 0 < n) :
    (spacedNumber n).toList.findIdx? Text.isBlank = some n := by
  have hblank := (isName_of_isDecimal (isDecimal_replicate hpos)).not_blank
  rw [spacedNumber, String.toList_ofList, List.findIdx?_append,
    List.findIdx?_eq_none_iff.2 hblank]
  simp [Text.isBlank, Text.blankRanges]

/-- A number that is too long is come upon before the blank character. -/
theorem tokens_spacedNumber {n : ℕ} (hlong : Text.digitLimit < n) :
    Path.tokens (spacedNumber n) = .error (.tooManyDigits n) := by
  have hdecimal := isDecimal_replicate (Nat.zero_lt_of_lt hlong)
  have hends : EndsName [' '] := by simp [EndsName, isWordChar, Text.isBlank, Text.blankRanges]
  have hword : wordSymbol (List.replicate n '1') = .error (.tooManyDigits n) :=
    wordSymbol_eq_error_iff.2 ⟨⟨hdecimal, by simpa using hlong⟩, by simp⟩
  rw [Path.tokens, spacedNumber, String.toList_ofList,
    tokensFrom_append (isName_of_isDecimal hdecimal) hends, hword]
  rfl

/-- **A number that is too long hides the blank character behind it**: reading stops, but not at the
position of that character. -/
theorem long_number_hides_blank :
    (spacedNumber 4301).toList.findIdx? Text.isBlank = some 4301 ∧
      Path.tokens (spacedNumber 4301) = .error (.tooManyDigits 4301) ∧
      ¬∃ p, Path.tokens (spacedNumber 4301) = .error (.problem p) ∧ p.position = 4301 := by
  have htokens := tokens_spacedNumber (show Text.digitLimit < 4301 by decide)
  refine ⟨findIdx?_spacedNumber (by decide), htokens, ?_⟩
  rintro ⟨p, hp, -⟩
  exact absurd (Except.error.inj (htokens.symm.trans hp)) (by simp)

end ToolFlow.Path

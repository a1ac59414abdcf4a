import ToolFlow.Json.Reader
import ToolFlow.Json.Writer
import ToolFlow.Proofs.Text.Digits

/-!
# Texts in JSON

A text that is written between quotation marks reads as itself, whether or not the characters beyond
ASCII are escaped (`readChars_flatMap_escapeChar`). A code unit is read together with the escape
after it when the two are a pair, so each character is read under the condition that a code unit
after it, if there is one, has four digits (`Continues`).

## Why a relation

Writer and reader do not proceed alike. The writer looks at one character at a time and has one way
of writing it, depending on the style. The reader accepts several ways and looks ahead over two
escapes. `Spells` stands between them: it lists the ways in which a character can be written, as
itself, by a letter, by a code unit or by a pair of them. That the writer uses one of these is
`spells_escapeChar`, that the reader takes all of them is `readChars_of_spells`, and neither of the
two mentions the other side. The same relation serves to show that no control code is ever written.

Characters are not code units. A character is never a surrogate (`toNat_lt_or_ge`), and this is what
makes the first half of a pair recognisable: a code unit in that range is never a character by
itself.
-/

namespace ToolFlow

namespace Text

/-! ### Hexadecimal digits -/

/-- A digit is read as the digit that it shows. -/
theorem hexDigit?_digitChar {d : ℕ} (h : d < 16) : hexDigit? (Nat.digitChar d) = some d := by
  have hall : ∀ d : Fin 16, hexDigit? (Nat.digitChar d) = some d.1 := by decide
  exact hall ⟨d, h⟩

/-- Zeros in front do not count. -/
theorem hexValue?_zero_cons (cs : List Char) : hexValue? ('0' :: cs) = hexValue? cs := by
  have hzero : hexDigit? '0' = some 0 := rfl
  rw [hexValue?, hexValue?, List.mapM_cons, hzero]
  cases cs.mapM hexDigit? <;> rfl

/-- Hexadecimal digits are read from the left, like decimal ones. -/
theorem hexValue?_append_singleton {cs : List Char} {n d : ℕ} (hcs : hexValue? cs = some n)
    (hd : d < 16) : hexValue? (cs ++ [Nat.digitChar d]) = some (16 * n + d) := by
  obtain ⟨digits, hdigits, rfl⟩ := Option.map_eq_some_iff.1 hcs
  rw [hexValue?, List.mapM_append, hdigits]
  simp [hexDigit?_digitChar hd, valueFrom]

/-- A number in hexadecimal digits reads as itself. -/
theorem hexValue?_toDigits (n : ℕ) : hexValue? (Nat.toDigits 16 n) = some n := by
  induction n using Nat.strongRecOn with
  | ind n ih =>
    rcases Nat.lt_or_ge n 16 with hlt | hge
    · have hnil : hexValue? [] = some 0 := rfl
      simpa [Nat.toDigits_of_lt_base hlt] using hexValue?_append_singleton hnil hlt
    · rw [Nat.toDigits_of_base_le (by decide) hge, hexValue?_append_singleton
        (ih (n / 16) (Nat.div_lt_self (by omega) (by decide))) (Nat.mod_lt n (by decide)),
        Nat.div_add_mod]

/-- So it does when it is filled up with zeros. -/
theorem hexValue?_hexChars (width n : ℕ) : hexValue? (hexChars width n) = some n := by
  unfold hexChars padded
  induction width - (Nat.toDigits 16 n).length with
  | zero => exact hexValue?_toDigits n
  | succ k ih => rw [List.replicate_succ, List.cons_append, hexValue?_zero_cons, ih]

/-- A number that fits has exactly the digits asked for. -/
theorem length_hexChars {width n : ℕ} (hwidth : 0 < width) (h : n < 16 ^ width) :
    (hexChars width n).length = width := by
  have hlength := (Nat.length_toDigits_le_iff (by decide) hwidth).2 h
  rw [hexChars, padded, List.length_append, List.length_replicate]
  omega

end Text

namespace Json

/-- Four digits of a code unit. -/
theorem exists_hexChars_eq {u : ℕ} (h : u < 0x10000) :
    ∃ a b c d, Text.hexChars 4 u = [a, b, c, d] ∧ unit? a b c d = some u := by
  have hlength := Text.length_hexChars (by decide : 0 < 4) h
  match hchars : Text.hexChars 4 u, hlength with
  | [a, b, c, d], _ => exact ⟨a, b, c, d, rfl, by rw [unit?, ← hchars, Text.hexValue?_hexChars]⟩

/-! ### Characters -/

/-- A code unit at the start, if there is one, has four digits. -/
def Continues (cs : List Char) : Prop :=
  ∀ e f g h rest, cs = '\\' :: 'u' :: e :: f :: g :: h :: rest → ∃ v, unit? e f g h = some v

/-- How a character can be written in a text. -/
inductive Spells (c : Char) : List Char → Prop
  | plain (hlarge : 0x20 ≤ c.toNat) (hslash : c ≠ '\\') (hquote : c ≠ '"') : Spells c [c]
  | letter {l : Char} (h : escape? l = some c) : Spells c ['\\', l]
  | unit (h : c.toNat < 0x10000) : Spells c (unitEscape c.toNat)
  | pair (h : 0x10000 ≤ c.toNat) :
    Spells c (unitEscape (0xD800 + (c.toNat - 0x10000) / 0x400) ++
      unitEscape (0xDC00 + (c.toNat - 0x10000) % 0x400))

/-- **However a text is written, each character is spelled in one of the four ways.** -/
theorem spells_escapeChar (ascii : Bool) (c : Char) : Spells c (escapeChar ascii c) := by
  unfold escapeChar
  split_ifs with hself hn hr ht hf hb hlow hplain hunit
  · rcases Bool.or_eq_true_iff.1 hself with h | h <;> rw [eq_of_beq h] <;> exact .letter rfl
  · rw [eq_of_beq hn]; exact .letter rfl
  · rw [eq_of_beq hr]; exact .letter rfl
  · rw [eq_of_beq ht]; exact .letter rfl
  · rw [eq_of_beq hf]; exact .letter rfl
  · rw [eq_of_beq hb]; exact .letter rfl
  · exact .unit (by omega)
  · simp only [Bool.or_eq_true, beq_iff_eq, not_or] at hself
    exact .plain (Nat.le_of_not_lt hlow) hself.2 hself.1
  · exact .unit hunit
  · exact .pair (Nat.le_of_not_lt hunit)

/-! ### Reading characters -/

variable {sofar more : List Char} {c : Char}

/-- A character that is neither a mark nor a control code reads as itself. -/
theorem readChars_plain (hlarge : 0x20 ≤ c.toNat) (hslash : c ≠ '\\') (hquote : c ≠ '"') :
    readChars sofar (c :: more) = readChars (c :: sofar) more := by
  rw [readChars]
  · simp [Nat.not_lt.2 hlarge, hslash]
  all_goals simp_all

/-- An escape by a letter reads as the character that it stands for. -/
theorem readChars_letter {l : Char} (h : escape? l = some c) :
    readChars sofar ('\\' :: l :: more) = readChars (c :: sofar) more := by
  have hl : l ≠ 'u' := by
    rintro rfl
    cases h
  rw [readChars]
  · simp [h]
  all_goals simp_all

/-- A code unit that is no first half of a pair reads as its character, whatever comes after it. -/
theorem readChars_unit {u : ℕ} (hu : u < 0x10000) (hhigh : isHigh u = false)
    (hmore : Continues more) :
    readChars sofar (unitEscape u ++ more) = readChars (unitChar u :: sofar) more := by
  obtain ⟨a, b, c, d, hchars, hvalue⟩ := exists_hexChars_eq hu
  rw [unitEscape, hchars]
  by_cases hnext : ∃ e f g h rest, more = '\\' :: 'u' :: e :: f :: g :: h :: rest
  · obtain ⟨e, f, g, h, rest, rfl⟩ := hnext
    obtain ⟨v, hv⟩ := hmore e f g h rest rfl
    simp only [List.cons_append, List.nil_append]
    rw [readChars, hvalue, hv]
    simp [hhigh]
  · simp only [List.cons_append, List.nil_append]
    rw [readChars]
    · simp [hvalue]
    · intro e f g h rest heq
      exact hnext ⟨e, f, g, h, rest, heq⟩

/-- Two halves of a pair are read together. -/
theorem readChars_pair {u v : ℕ} (hu : u < 0x10000) (hv : v < 0x10000) (hhigh : isHigh u = true)
    (hlow : isLow v = true) :
    readChars sofar (unitEscape u ++ (unitEscape v ++ more)) =
      readChars (pairChar u v :: sofar) more := by
  obtain ⟨a, b, c, d, hchars, hvalue⟩ := exists_hexChars_eq hu
  obtain ⟨e, f, g, h, hchars', hvalue'⟩ := exists_hexChars_eq hv
  rw [unitEscape, unitEscape, hchars, hchars']
  simp only [List.cons_append, List.nil_append]
  rw [readChars, hvalue, hvalue']
  simp [hhigh, hlow]

/-- There is no character for half of a pair. -/
theorem toNat_lt_or_ge (c : Char) : c.toNat < 0xD800 ∨ 0xE000 ≤ c.toNat ∧ c.toNat < 0x110000 := by
  rcases c.valid with h | ⟨h, h'⟩
  · exact .inl h
  · exact .inr ⟨h, h'⟩

/-- The code unit of a character beneath the higher planes stands for it. -/
theorem unitChar_toNat (c : Char) : unitChar c.toNat = c := by
  have hnot : ¬(0xD800 ≤ c.toNat ∧ c.toNat < 0xE000) := by
    have := toNat_lt_or_ge c
    omega
  simp [unitChar, hnot]

/-- The two code units of a character of the higher planes stand for it together. -/
theorem pairChar_toNat (h : 0x10000 ≤ c.toNat) :
    pairChar (0xD800 + (c.toNat - 0x10000) / 0x400) (0xDC00 + (c.toNat - 0x10000) % 0x400) = c := by
  have hsum : 0x10000 + (0xD800 + (c.toNat - 0x10000) / 0x400 - 0xD800) * 0x400 +
      (0xDC00 + (c.toNat - 0x10000) % 0x400 - 0xDC00) = c.toNat := by
    omega
  rw [pairChar, hsum, Char.ofNat_toNat]

/-- A character is read however it is written. -/
theorem readChars_of_spells {cs : List Char} (h : Spells c cs) (hmore : Continues more) :
    readChars sofar (cs ++ more) = readChars (c :: sofar) more := by
  cases h with
  | plain hlarge hslash hquote => exact readChars_plain hlarge hslash hquote
  | letter h => exact readChars_letter h
  | unit h =>
    have hhigh : isHigh c.toNat = false := by
      have := toNat_lt_or_ge c
      simp only [isHigh, Bool.and_eq_false_iff, decide_eq_false_iff_not]
      omega
    rw [readChars_unit h hhigh hmore, unitChar_toNat]
  | pair h =>
    have hrange := toNat_lt_or_ge c
    rw [List.append_assoc, readChars_pair (by omega) (by omega) (by simp [isHigh]; omega)
      (by simp [isLow]; omega), pairChar_toNat h]

/-- What follows a spelled character does not matter to the four digits of a code unit. -/
theorem continues_of_spells {cs : List Char} (h : Spells c cs) : Continues (cs ++ more) := by
  intro e f g i rest heq
  cases h with
  | plain _ hslash _ => exact absurd (List.cons.inj heq).1 hslash
  | @letter l h =>
    obtain rfl : l = 'u' := (List.cons.inj (List.cons.inj heq).2).1
    cases h
  | unit h =>
    obtain ⟨a, b, c, d, hchars, hvalue⟩ := exists_hexChars_eq h
    rw [unitEscape, hchars] at heq
    simp only [List.cons_append, List.cons.injEq] at heq
    obtain ⟨-, -, rfl, rfl, rfl, rfl, -⟩ := heq
    exact ⟨_, hvalue⟩
  | pair h =>
    have hrange := toNat_lt_or_ge c
    obtain ⟨a, b, c, d, hchars, hvalue⟩ :=
      exists_hexChars_eq (show 0xD800 + (c.toNat - 0x10000) / 0x400 < 0x10000 by omega)
    rw [unitEscape, hchars] at heq
    simp only [List.cons_append, List.cons.injEq] at heq
    obtain ⟨-, -, rfl, rfl, rfl, rfl, -⟩ := heq
    exact ⟨_, hvalue⟩

/-- **Texts read as they were written**, up to the closing quotation mark. -/
theorem readChars_flatMap_escapeChar (ascii : Bool) (cs rest : List Char) :
    readChars sofar (cs.flatMap (escapeChar ascii) ++ '"' :: rest) =
      some (sofar.reverse ++ cs, rest) := by
  have hcontinues (cs : List Char) :
      Continues (cs.flatMap (escapeChar ascii) ++ '"' :: rest) := by
    cases cs with
    | nil => exact fun e f g h rest heq ↦ by simp at heq
    | cons c cs =>
      rw [List.flatMap_cons, List.append_assoc]
      exact continues_of_spells (spells_escapeChar ascii c)
  induction cs generalizing sofar with
  | nil => simp [readChars]
  | cons c cs ih =>
    rw [List.flatMap_cons, List.append_assoc,
      readChars_of_spells (spells_escapeChar ascii c) (hcontinues cs), ih, List.reverse_cons,
      List.append_assoc, List.singleton_append]

end Json

end ToolFlow

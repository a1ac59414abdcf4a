import Mathlib.Data.List.Basic
import Mathlib.Data.List.Induction
import ToolFlow.Text.Digits

/-!
# Numbers and their digits

The shortest digits of a number denote it (`decimalValue_toDigits`). Among all the digits that
denote a number, the shortest are those without a spare zero in front
(`toDigits_decimalValue_eq_iff`).

Digits are read by the model from the left, by a fold, and written by the library. The two are
related by an induction on the digits from the right, where reading multiplies by ten and adds
(`decimalValue_append_singleton`). How many digits there are bounds the number (`decimalValue_lt`),
which is how limits on digits are turned into limits on numbers and back.

Only the ten ASCII digits are digits here. Other decimal digits are a matter of texts that are
converted to numbers, and never occur in paths.
-/

namespace ToolFlow.Text

/-- Digits with a zero in front of others. -/
def HasSpareZero (cs : List Char) : Prop :=
  isDecimal cs = true ∧ cs.head? = some '0' ∧ 1 < cs.length

instance (cs : List Char) : Decidable (HasSpareZero cs) :=
  inferInstanceAs (Decidable (_ ∧ _))

variable {cs : List Char}

/-- A decimal is digits, and some. -/
theorem isDecimal_iff : isDecimal cs = true ↔ cs ≠ [] ∧ ∀ c ∈ cs, c.isDigit = true := by
  simp only [isDecimal, Bool.and_eq_true, Bool.not_eq_true', List.isEmpty_eq_false_iff,
    List.all_eq_true]

/-- One more digit at the end counts ones, and the others ten times as much. -/
theorem decimalValue_append_singleton (cs : List Char) (c : Char) :
    decimalValue (cs ++ [c]) = 10 * decimalValue cs + digitValue c := by
  simp [decimalValue, valueFrom]

/-- A digit has a place in the code after the zero, by its value. -/
theorem toNat_of_isDigit {c : Char} (h : c.isDigit = true) :
    digitValue c < 10 ∧ c.toNat = 48 + digitValue c := by
  have hrange : 48 ≤ c.toNat ∧ c.toNat ≤ 57 := Char.isDigit_iff_toNat.1 h
  have hvalue : digitValue c = c.toNat - 48 := rfl
  omega

/-- The value of a digit is written by that digit. -/
theorem digitChar_digitValue {c : Char} (h : c.isDigit = true) :
    Nat.digitChar (digitValue c) = c := by
  obtain ⟨hlt, hvalue⟩ := toNat_of_isDigit h
  rw [← Char.toNat_inj, Nat.toNat_digitChar_of_lt_ten hlt, hvalue]

/-- So many digits denote numbers below the power of ten. -/
theorem decimalValue_lt (h : ∀ c ∈ cs, c.isDigit = true) : decimalValue cs < 10 ^ cs.length := by
  induction cs using List.reverseRecOn with
  | nil => decide
  | append_singleton cs c ih =>
    rw [List.forall_mem_append] at h
    have hrest := ih h.1
    have hlast := (toNat_of_isDigit (h.2 c List.mem_cons_self)).1
    rw [decimalValue_append_singleton, List.length_append, List.length_singleton, Nat.pow_succ]
    omega

/-! ### The shortest digits -/

/-- The digits of a number are a decimal. -/
theorem isDecimal_toDigits (n : ℕ) : isDecimal (Nat.toDigits 10 n) = true :=
  isDecimal_iff.2 ⟨Nat.toDigits_ne_nil,
    fun _ hc ↦ Nat.isDigit_of_mem_toDigits (by decide) (by decide) hc⟩

/-- The digits of a number denote it. -/
theorem decimalValue_toDigits (n : ℕ) : decimalValue (Nat.toDigits 10 n) = n := by
  rw [decimalValue, valueFrom, List.foldl_map]
  exact Nat.ofDigitChars_ten_toDigits

/-- A number is shown by its digits. -/
theorem toList_toString (n : ℕ) : (toString n).toList = Nat.toDigits 10 n := by
  rw [Nat.toString_eq_ofList_toDigits, String.toList_ofList]

/-- Different numbers are written differently. -/
theorem toString_inj {m n : ℕ} : toString m = toString n ↔ m = n := by
  refine ⟨fun h ↦ ?_, fun h ↦ h ▸ rfl⟩
  have hdigits : Nat.toDigits 10 m = Nat.toDigits 10 n := by
    rw [← toList_toString, h, toList_toString]
  rw [← decimalValue_toDigits m, hdigits, decimalValue_toDigits]

/-- The shortest digits of a number are no more than any others that denote it. -/
theorem length_toDigits_decimalValue_le {k : ℕ} (hk : 0 < k) (h : ∀ c ∈ cs, c.isDigit = true)
    (hlength : cs.length ≤ k) : (Nat.toDigits 10 (decimalValue cs)).length ≤ k :=
  (Nat.length_toDigits_le_iff (by decide) hk).2
    (Nat.lt_of_lt_of_le (decimalValue_lt h) (Nat.pow_le_pow_right (by decide) hlength))

/-- Digits without a spare zero are the shortest of their number. -/
theorem toDigits_decimalValue (h : isDecimal cs = true) (hspare : ¬HasSpareZero cs) :
    Nat.toDigits 10 (decimalValue cs) = cs := by
  induction cs using List.reverseRecOn with
  | nil => simp [isDecimal] at h
  | append_singleton cs c ih =>
    obtain ⟨-, hdigits⟩ := isDecimal_iff.1 h
    rw [List.forall_mem_append, List.forall_mem_singleton] at hdigits
    obtain ⟨hcs, hc⟩ := hdigits
    have hlt := (toNat_of_isDigit hc).1
    have hlast : Nat.toDigits 10 (digitValue c) = [c] := by
      rw [Nat.toDigits_of_lt_base hlt, digitChar_digitValue hc]
    rcases eq_or_ne cs [] with rfl | hne
    · simpa [decimalValue, valueFrom] using hlast
    · have hhead : (cs ++ [c]).head? = cs.head? := List.head?_append_of_ne_nil _ hne
      have hlong : 1 < (cs ++ [c]).length := by
        simpa using List.length_pos_iff.2 hne
      have hshortest : Nat.toDigits 10 (decimalValue cs) = cs := by
        refine ih (isDecimal_iff.2 ⟨hne, hcs⟩) ?_
        rintro ⟨-, hzero, -⟩
        exact hspare ⟨h, hhead.trans hzero, hlong⟩
      -- nor can the digits before the last be those of zero
      have hpos : 0 < decimalValue cs := by
        refine Nat.pos_of_ne_zero fun hzero ↦ hspare ⟨h, hhead.trans ?_, hlong⟩
        rw [hzero] at hshortest
        rw [← hshortest]
        rfl
      rw [decimalValue_append_singleton, ← Nat.toDigits_append_toDigits (by decide) hpos hlt,
        hshortest, hlast]

/-- **Digits are the shortest of their number exactly when** there is no spare zero. -/
theorem toDigits_decimalValue_eq_iff (h : isDecimal cs = true) :
    Nat.toDigits 10 (decimalValue cs) = cs ↔ ¬HasSpareZero cs := by
  refine ⟨?_, toDigits_decimalValue h⟩
  rintro hsame ⟨-, hzero, hlong⟩
  obtain ⟨rest, rfl⟩ : ∃ rest, cs = '0' :: rest := List.head?_eq_some_iff.1 hzero
  -- the number is already denoted without the zero
  have hvalue : decimalValue ('0' :: rest) = decimalValue rest := rfl
  have hdigits := (List.forall_mem_cons.1 (isDecimal_iff.1 h).2).2
  have hshorter := length_toDigits_decimalValue_le (by simpa using hlong) hdigits (Nat.le_refl _)
  rw [← hvalue, hsame, List.length_cons] at hshorter
  omega

end ToolFlow.Text

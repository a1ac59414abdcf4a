import Mathlib.Algebra.Order.Field.Rat
import Mathlib.Tactic.FieldSimp
import Mathlib.Tactic.NormNum
import ToolFlow.Number

/-!
# What numbers denote

Numbers denote rationals and the two infinities; what is not a number denotes nothing. Integers
denote themselves, and a finite floating-point number is read by its fields, as its format has it: a
sign, an exponent with an offset, and a fraction (`Binary64.fieldsValue`).

Comparing numbers is comparing what they denote (`Number.same_iff`). The comparison is made on whole
units and rounds nothing; that a unit is the same share of one for every number
(`Binary64.fieldsValue_eq`) is all there is to it.

The two descriptions of a floating-point number are kept apart on purpose. The definitions compare
ranks by whole units, which computes, and says nothing of binary digits. `fieldsValue` follows the
format and is never computed with. It is against the second that an equality of numbers has to be
judged: an integer and a floating-point number are equal when they denote the same rational, and not
when one of them is rounded to the other. The laws of equality, symmetry and transitivity among
them, are then those of equality of rationals, and no case analysis on kinds of numbers is left
(`Number.same_comm`, `Number.same_trans`).
-/

namespace ToolFlow

/-- The rationals with an infinity at either end. -/
inductive Extended where
  | rational (q : ℚ)
  | infinite (negative : Bool)

namespace Binary64

/-- The magnitude of a rank as its fields give it: the fraction counts from one, and from zero under
the lowest exponent, which has the same scale as the next one. -/
def fieldsValue (rank : ℕ) : ℚ :=
  if rank / 2 ^ 52 = 0 then (rank % 2 ^ 52 : ℕ) / 2 ^ 52 * (2 : ℚ) ^ (-1022 : ℤ)
  else (1 + (rank % 2 ^ 52 : ℕ) / 2 ^ 52) * (2 : ℚ) ^ ((rank / 2 ^ 52 : ℕ) - 1023 : ℤ)

/-- What a finite number denotes. -/
def signedValue (negative : Bool) (rank : ℕ) : ℚ :=
  if negative then -fieldsValue rank else fieldsValue rank

/-- What a floating-point number denotes, if it is a number. -/
def value? : Binary64 → Option Extended
  | nan _ => none
  | infinite negative => some (.infinite negative)
  | finite negative rank => some (.rational (signedValue negative rank))

/-! ### Units -/

/-- **The magnitude is so many units**, of which 2¹⁰⁷⁴ make one. -/
theorem fieldsValue_eq (rank : ℕ) :
    fieldsValue rank = (unitsOfRank rank : ℚ) / (unitsOfOne : ℚ) := by
  have hone : (unitsOfOne : ℚ) = 2 ^ 52 * 2 ^ 1022 := by
    -- said of every exponent, so that no power is evaluated
    have hcast (n : ℕ) : ((2 ^ n : ℕ) : ℚ) = 2 ^ n := by rw [Nat.cast_pow, Nat.cast_ofNat]
    unfold unitsOfOne
    exact (hcast 1074).trans (pow_add 2 52 1022)
  unfold fieldsValue unitsOfRank
  split
  · next hlow =>
    have hrank : rank % 2 ^ 52 = rank := Nat.mod_eq_of_lt (by omega)
    have hscale : (2 : ℚ) ^ (-1022 : ℤ) = (2 ^ 1022)⁻¹ := rfl
    rw [hone, hrank, hscale, div_mul_eq_div_div, div_eq_mul_inv _ ((2 : ℚ) ^ 1022)]
  · next hhigh =>
    obtain ⟨k, hk⟩ := Nat.exists_eq_add_one_of_ne_zero hhigh
    have hscale : (2 : ℚ) ^ ((k + 1 : ℕ) - 1023 : ℤ) = 2 ^ k / 2 ^ 1022 := by
      have hexponent : ((k + 1 : ℕ) - 1023 : ℤ) = k - (1022 : ℕ) := by omega
      rw [hexponent, zpow_sub₀ two_ne_zero, zpow_natCast, zpow_natCast]
    rw [hone, hk, hscale, Nat.add_sub_cancel]
    push_cast
    field_simp
    norm_num

/-- What a number denotes is its share of whole units, with its sign. -/
theorem signedValue_eq (negative : Bool) (rank : ℕ) :
    signedValue negative rank = (signedUnits negative rank : ℚ) / (unitsOfOne : ℚ) := by
  cases negative with
  | true =>
    show -fieldsValue rank = ((-(unitsOfRank rank : ℤ) : ℤ) : ℚ) / unitsOfOne
    rw [fieldsValue_eq, Int.cast_neg, Int.cast_natCast, neg_div]
  | false =>
    show fieldsValue rank = (((unitsOfRank rank : ℤ) : ℤ) : ℚ) / unitsOfOne
    rw [fieldsValue_eq, Int.cast_natCast]

/-- The units of one can be divided by. -/
theorem unitsOfOne_ne_zero : (unitsOfOne : ℚ) ≠ 0 := by
  unfold unitsOfOne
  exact Nat.cast_ne_zero.2 (Nat.two_pow_pos 1074).ne'

/-- Two numbers denote the same exactly when they have the same units, so that the zeros do. -/
theorem signedValue_eq_iff {s t : Bool} {a b : ℕ} :
    signedValue s a = signedValue t b ↔ signedUnits s a = signedUnits t b := by
  rw [signedValue_eq, signedValue_eq, div_left_inj' unitsOfOne_ne_zero, Int.cast_inj]

/-- A number denotes an integer exactly when it has the units of that integer. -/
theorem signedValue_eq_intCast_iff {s : Bool} {a : ℕ} {n : ℤ} :
    signedValue s a = n ↔ signedUnits s a = n * unitsOfOne := by
  rw [signedValue_eq, div_eq_iff unitsOfOne_ne_zero]
  exact_mod_cast Iff.rfl

/-- No rank but the first has no units. -/
theorem unitsOfRank_eq_zero_iff {rank : ℕ} : unitsOfRank rank = 0 ↔ rank = 0 := by
  unfold unitsOfRank
  split
  · exact Iff.rfl
  · next hhigh =>
    have hpos : 0 < (2 ^ 52 + rank % 2 ^ 52) * 2 ^ (rank / 2 ^ 52 - 1) :=
      Nat.mul_pos (by omega) (Nat.two_pow_pos _)
    exact iff_of_false hpos.ne' (by rintro rfl; simp at hhigh)

/-! ### Floating-point numbers -/

variable {x y : Binary64}

/-- **Floating-point numbers are equal exactly when they denote the same.** -/
theorem same_iff : x.same y = true ↔ ∃ q, x.value? = some q ∧ y.value? = some q := by
  cases x with
  | nan => simp [same, value?]
  | infinite s =>
    cases y with
    | nan => simp [same, value?]
    | infinite t =>
      simp only [same, value?, beq_iff_eq, Option.some.injEq, exists_eq_left',
        Extended.infinite.injEq]
      exact eq_comm
    | finite t b => simp [same, value?]
  | finite s a =>
    cases y with
    | nan => simp [same, value?]
    | infinite t => simp [same, value?]
    | finite t b =>
      simp only [same, value?, beq_iff_eq, ← signedValue_eq_iff, Option.some.injEq,
        exists_eq_left', Extended.rational.injEq]
      exact eq_comm

theorem sameInt_iff_units? {n : ℤ} : x.sameInt n = true ↔ x.units? = some (n * unitsOfOne) :=
  beq_iff_eq

/-- **A floating-point number equals an integer exactly when it denotes it.** -/
theorem sameInt_iff {n : ℤ} : x.sameInt n = true ↔ x.value? = some (.rational n) := by
  rw [sameInt_iff_units?]
  cases x with
  | nan => exact iff_of_false nofun nofun
  | infinite s => exact iff_of_false nofun nofun
  | finite s a =>
    simp only [units?, value?, Option.some.injEq, Extended.rational.injEq,
      signedValue_eq_intCast_iff]

/-- To be zero is to be the same as the integer zero. -/
theorem isZero_eq (x : Binary64) : x.isZero = x.sameInt 0 := by
  cases x with
  | finite s a =>
    have hunits : signedUnits s a = 0 ↔ a.val = 0 := by
      cases s <;> simp [signedUnits, unitsOfRank_eq_zero_iff]
    rw [Bool.eq_iff_iff, sameInt_iff_units?, isZero, units?, zero_mul, beq_iff_eq,
      Option.some.injEq, hunits]
  | _ => rfl

end Binary64

namespace Number

variable {m n : Number}

/-- What a number denotes, if it is one. -/
def value? : Number → Option Extended
  | int n => some (.rational n)
  | float x => x.value?

/-- **Numbers are the same exactly when they denote the same.** -/
theorem same_iff : m.same n = true ↔ ∃ q, m.value? = some q ∧ n.value? = some q := by
  cases m with
  | int m =>
    cases n with
    | int n =>
      simp only [same, value?, beq_iff_eq, Option.some.injEq, exists_eq_left',
        Extended.rational.injEq, Int.cast_inj]
      exact eq_comm
    | float y =>
      simp only [same, value?, Binary64.sameInt_iff, Option.some.injEq, exists_eq_left']
  | float x =>
    cases n with
    | int n =>
      simp only [same, value?, Binary64.sameInt_iff, Option.some.injEq, exists_eq_right']
    | float y => exact Binary64.same_iff

/-- Equality of numbers is symmetric, since what they denote is compared. -/
theorem same_comm (m n : Number) : m.same n = n.same m := by
  rw [Bool.eq_iff_iff, same_iff, same_iff]
  exact exists_congr fun _ ↦ and_comm

/-- So it is transitive, also by way of a number of another kind. -/
theorem same_trans {k : Number} (hkm : k.same m = true) (hmn : m.same n = true) :
    k.same n = true := by
  obtain ⟨q, hk, hm⟩ := same_iff.1 hkm
  obtain ⟨q', hm', hn⟩ := same_iff.1 hmn
  obtain rfl : q = q' := Option.some.inj (hm.symm.trans hm')
  exact same_iff.2 ⟨q, hk, hn⟩

/-- Whatever is a number denotes something. -/
theorem isNaN_eq_false_iff : n.isNaN = false ↔ ∃ q, n.value? = some q := by
  cases n with
  | int n => simp [isNaN, value?]
  | float x => cases x <;> simp [isNaN, Binary64.isNaN, value?, Binary64.value?]

/-- A number is the same as itself, if it is one. -/
theorem same_self_iff : n.same n = true ↔ n.isNaN = false := by
  rw [same_iff, isNaN_eq_false_iff]
  exact exists_congr fun _ ↦ and_self_iff

theorem isZero_eq (n : Number) : n.isZero = n.same (.int 0) := by
  cases n with
  | int n => rfl
  | float x => exact x.isZero_eq

/-- The same numbers are zero alike. -/
theorem isZero_congr (h : m.same n = true) : m.isZero = n.isZero := by
  rw [isZero_eq, isZero_eq, Bool.eq_iff_iff]
  exact ⟨same_trans (same_comm m n ▸ h), same_trans h⟩

end Number

end ToolFlow

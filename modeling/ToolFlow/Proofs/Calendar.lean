import Mathlib.Data.List.Basic
import Mathlib.Order.Monotone.Basic
import ToolFlow.Calendar

/-!
# Years of the calendar

The year of a day is found among the few years that an average length allows: it is the last of them
that starts no later. So the day lies between the start of its year and that of the next
(`daysBeforeYear_year_ofDayNumber`), which determines the year.

A year has 365 or 366 days, so that its start is bounded on both sides (`daysBeforeYear_bounds`) and
with it the years that have to be looked at. The search itself is a fold over a range that remembers
the last hit, and is described once for any predicate that holds of the year that it starts from
(`foldl_range'_last`).

Nothing is said of months here. The records of the log need the year of a moment, by which it is
decided whether there is one.
-/

namespace ToolFlow.Calendar

/-! ### The starts of years -/

/-- Before the start of a year there are the days of the years before it, with those of leap years.
-/
theorem daysBeforeYear_succ (y : ℕ) :
    daysBeforeYear (y + 1) = 365 * y + y / 4 - y / 100 + y / 400 := rfl

/-- No year has fewer days than none. -/
theorem daysBeforeYear_le_succ (y : ℕ) : daysBeforeYear y ≤ daysBeforeYear (y + 1) := by
  cases y with
  | zero => exact Nat.le_refl _
  | succ y =>
    rw [daysBeforeYear_succ, daysBeforeYear_succ]
    omega

/-- Later years start later. -/
theorem daysBeforeYear_mono : Monotone daysBeforeYear :=
  monotone_nat_of_le_succ daysBeforeYear_le_succ

/-- A year has at least 365 days and at most 366. -/
theorem daysBeforeYear_bounds (y : ℕ) :
    365 * y ≤ daysBeforeYear (y + 1) ∧ daysBeforeYear (y + 1) ≤ 366 * y := by
  rw [daysBeforeYear_succ]
  omega

/-! ### The year of a day -/

/-- Of several numbers the last one with a property is found, if the first has it. -/
theorem foldl_range'_last {p : ℕ → Prop} [DecidablePred p] {best first length : ℕ} (hbest : p best)
    (hle : best ≤ first) :
    p ((List.range' first length).foldl (fun best y ↦ if p y then y else best) best) ∧
      best ≤ (List.range' first length).foldl (fun best y ↦ if p y then y else best) best ∧
      ∀ y, first ≤ y → y < first + length → p y →
        y ≤ (List.range' first length).foldl (fun best y ↦ if p y then y else best) best := by
  induction length generalizing best first with
  | zero => exact ⟨hbest, Nat.le_refl _, fun y hfirst hlast ↦ by omega⟩
  | succ length ih =>
    rw [List.range'_succ, List.foldl_cons]
    split
    · next hfirst =>
      obtain ⟨hp, hge, hlast⟩ := @ih first (first + 1) hfirst (Nat.le_succ _)
      refine ⟨hp, hle.trans hge, fun y hy hlt hpy ↦ ?_⟩
      rcases Nat.eq_or_lt_of_le hy with rfl | hy
      · exact hge
      · exact hlast y hy (by omega) hpy
    · next hfirst =>
      obtain ⟨hp, hge, hlast⟩ := @ih best (first + 1) hbest (by omega)
      refine ⟨hp, hge, fun y hy hlt hpy ↦ ?_⟩
      rcases Nat.eq_or_lt_of_le hy with rfl | hy
      · exact absurd hpy hfirst
      · exact hlast y hy (by omega) hpy

/-- **A day lies in its year**: between its start and that of the next. -/
theorem daysBeforeYear_year_ofDayNumber (n : ℕ) :
    0 < (ofDayNumber n).year ∧ daysBeforeYear (ofDayNumber n).year ≤ n ∧
      n < daysBeforeYear ((ofDayNumber n).year + 1) := by
  have hguess : daysBeforeYear (n / 366 + 1) ≤ n := by
    have := (daysBeforeYear_bounds (n / 366)).2
    omega
  have hbeyond : n < daysBeforeYear (n / 365 + 2) := by
    have : 365 * (n / 365 + 1) ≤ daysBeforeYear (n / 365 + 2) :=
      (daysBeforeYear_bounds (n / 365 + 1)).1
    omega
  obtain ⟨hstart, hge, hlast⟩ := @foldl_range'_last (daysBeforeYear · ≤ n) _ (n / 366 + 1)
    (n / 366 + 1) (n / 365 + 2 - (n / 366 + 1)) hguess (Nat.le_refl _)
  have hyear : (ofDayNumber n).year =
      (List.range' (n / 366 + 1) (n / 365 + 2 - (n / 366 + 1))).foldl
        (fun best y ↦ if daysBeforeYear y ≤ n then y else best) (n / 366 + 1) := rfl
  rw [← hyear] at hstart hge hlast
  refine ⟨by omega, hstart, Nat.lt_of_not_le fun hnext ↦ ?_⟩
  -- the next year would have been found
  have hbefore : (ofDayNumber n).year + 1 < n / 365 + 2 :=
    daysBeforeYear_mono.reflect_lt (Nat.lt_of_le_of_lt hnext hbeyond)
  have := hlast _ (by omega) (by omega) hnext
  omega

end ToolFlow.Calendar

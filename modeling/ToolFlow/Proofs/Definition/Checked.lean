import Mathlib.Data.List.Forall2
import ToolFlow.Workflow.Issue

/-!
# Checks that find nothing wrong

A check that is put together from checks of parts yields something exactly when each of them does.
This is all that the loader and the validation of definitions are opened by where they succeed: a
definition is made by `map`, `also` and `inside` over its fields, so that an inversion of a success
is a chain of these lemmas, one for each field.

What a check reports where it finds something wrong is not touched here. It collects the issues of
all parts, in their order, and no result on accepted definitions depends on it.
-/

namespace ToolFlow.Checked

variable {α β : Type} {x : Checked α} {a : α} {b : β}

/-- What is made of a part is valid when the part is. -/
theorem map_eq_valid_iff {f : α → β} : x.map f = .valid b ↔ ∃ a, x = .valid a ∧ f a = b := by
  cases x with
  | valid a => simp [map]
  | invalid issues => simp [map]

/-- Parts are checked side by side: each of them has to be valid, and no part is looked at less
because another one is not. -/
theorem also_eq_valid_iff {f : Checked (α → β)} :
    f.also x = .valid b ↔ ∃ g a, f = .valid g ∧ x = .valid a ∧ g a = b := by
  cases f <;> cases x <;> simp [also]

/-- Where a part stands makes a difference to its issues only. -/
theorem inside_eq_valid_iff {place : Place} : x.inside place = .valid a ↔ x = .valid a := by
  cases x <;> simp [inside]

theorem titled_eq_ok_iff {title : String} : x.titled title = .ok a ↔ x = .valid a := by
  cases x <;> simp [titled]

/-- A list is valid when all its items are, and then has nothing but what they yield. -/
theorem all_eq_valid_iff {l : List (Checked α)} {as : List α} :
    all l = .valid as ↔ l = as.map .valid := by
  induction l generalizing as with
  | nil => cases as <;> simp [all]
  | cons x l ih =>
    simp only [all, also_eq_valid_iff, map_eq_valid_iff, ih]
    cases as with
    | nil => simp
    | cons a as => simp

end ToolFlow.Checked

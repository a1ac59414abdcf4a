import ToolFlow.Condition
import ToolFlow.Proofs.Value.Equality

/-!
# Conditions on equal values

A condition holds of equal values alike, and compares with equal values alike (`holds_congr`). So
the outcome of a check does not depend on how a number was written, nor on the order of the fields
of an object.

Each condition looks at a value through one function, and each of these has its own lemma: equal
values are there or not, are true or not, have one type, and are equal to the same values.

Where a condition compares, symmetry and transitivity of strict equality are what carries it, and
these ask for values whose objects have each name once. Where it looks for a part, as in a text, a
list or an object, there are several kinds of parts, and an element of a list may be equal without
being the same (`any_strictEquals_congr`). Values that hold something that is not a number are no
exception: such a value is equal to none, so that the hypothesis never speaks of it.
-/

namespace ToolFlow

namespace Value

variable {a b c d : Value}

/-- Equal values are of one type. -/
theorem kind_congr (h : a.strictEquals b = true) : a.kind = b.kind := by
  cases strictEquals_iff.1 h <;> rfl

/-- What equals an absent value is absent. -/
theorem isMissing_congr (h : a.strictEquals b = true) : a.isMissing = b.isMissing := by
  cases strictEquals_iff.1 h <;> rfl

/-- What equals null is null. -/
theorem isNull_congr (h : a.strictEquals b = true) : a.isNull = b.isNull := by
  cases strictEquals_iff.1 h <;> rfl

/-- Equal values are true alike: equal numbers are numbers, and are zero or not. -/
theorem isTruthy_congr (h : a.strictEquals b = true) : a.isTruthy = b.isTruthy := by
  cases strictEquals_iff.1 h with
  | @number m n same =>
    obtain ⟨q, hm, hn⟩ := Number.same_iff.1 same
    simp only [isTruthy, Number.isZero_congr same, Number.isNaN_eq_false_iff.2 ⟨q, hm⟩,
      Number.isNaN_eq_false_iff.2 ⟨q, hn⟩]
  | _ => rfl

/-- Equal values answer to the same type names. -/
theorem hasKindNamed_congr (hab : a.strictEquals b = true) (hcd : c.strictEquals d = true) :
    a.hasKindNamed c = b.hasKindNamed d := by
  unfold hasKindNamed
  rw [kind_congr hab]
  cases strictEquals_iff.1 hcd <;> rfl

/-- **Equal values are equal to the same values.** -/
theorem strictEquals_congr (ha : a.IsSound) (hb : b.IsSound) (hc : c.IsSound) (hd : d.IsSound)
    (hab : a.strictEquals b = true) (hcd : c.strictEquals d = true) :
    a.strictEquals c = b.strictEquals d := by
  rw [Bool.eq_iff_iff]
  constructor
  · intro h
    exact strictEquals_trans hb (strictEquals_symm ha hb hab) (strictEquals_trans ha h hcd)
  · intro h
    exact strictEquals_trans ha hab (strictEquals_trans hb h (strictEquals_symm hc hd hcd))

end Value

namespace Condition

variable {actual actual' expected expected' : Value}

/-- Equal values are among equal items. -/
theorem any_strictEquals_congr {as bs : List Value} (has : ∀ v ∈ as, v.IsSound)
    (hbs : ∀ v ∈ bs, v.IsSound) (he : expected.IsSound) (he' : expected'.IsSound)
    (hitems : List.Forall₂ (fun a b ↦ a.strictEquals b = true) as bs)
    (hexpected : expected.strictEquals expected' = true) :
    (as.any fun item ↦ item.strictEquals expected) =
      bs.any fun item ↦ item.strictEquals expected' := by
  induction hitems with
  | nil => rfl
  | cons hab _ ih =>
    obtain ⟨ha, has⟩ := List.forall_mem_cons.1 has
    obtain ⟨hb, hbs⟩ := List.forall_mem_cons.1 hbs
    rw [List.any_cons, List.any_cons, Value.strictEquals_congr ha hb he he' hab hexpected,
      ih has hbs]

/-- Equal values are part of equal values. -/
theorem isPart_congr (ha : actual.IsSound) (ha' : actual'.IsSound) (he : expected.IsSound)
    (he' : expected'.IsSound) (hactual : actual.strictEquals actual' = true)
    (hexpected : expected.strictEquals expected' = true) :
    isPart expected actual = isPart expected' actual' := by
  cases Value.strictEquals_iff.1 hactual with
  | text s => cases Value.strictEquals_iff.1 hexpected <;> rfl
  | list items =>
    exact any_strictEquals_congr (Value.isSound_list_iff.1 ha) (Value.isSound_list_iff.1 ha') he he'
      items hexpected
  | _ => rfl

/-- **Equal values pass the same checks.** -/
theorem holds_congr (condition : Condition) (ha : actual.IsSound) (ha' : actual'.IsSound)
    (he : expected.IsSound) (he' : expected'.IsSound)
    (hactual : actual.strictEquals actual' = true)
    (hexpected : expected.strictEquals expected' = true) :
    condition.holds actual expected = condition.holds actual' expected' := by
  cases condition with
  | present =>
    rw [holds, holds, Value.isMissing_congr hactual, Value.isNull_congr hactual]
  | truthy => exact Value.isTruthy_congr hactual
  | equals => exact Value.strictEquals_congr ha ha' he he' hactual hexpected
  | contains => exact isPart_congr ha ha' he he' hactual hexpected
  | kind => exact Value.hasKindNamed_congr hactual hexpected

/-- The purchase is found in a list that has it in another order and with other numbers, and so is
its other form in a list that has the purchase. -/
theorem holds_contains_purchase :
    (Value.list [.purchase]).strictEquals (.list [.reorderedPurchase]) = true ∧
    Value.reorderedPurchase.strictEquals .purchase = true ∧
    contains.holds (.list [.purchase]) .reorderedPurchase =
      contains.holds (.list [.reorderedPurchase]) .purchase ∧
    contains.holds (.list [.purchase]) .reorderedPurchase = true := by
  have hleft : (Value.list [.purchase]).IsSound :=
    Value.isSound_list_iff.2 (by simpa using Value.isSound_purchase)
  have hright : (Value.list [.reorderedPurchase]).IsSound :=
    Value.isSound_list_iff.2 (by simpa using Value.isSound_reorderedPurchase)
  have hlists : (Value.list [.purchase]).strictEquals (.list [.reorderedPurchase]) = true :=
    Value.list_strictEquals_iff.2 (.cons Value.purchase_strictEquals .nil)
  have hback : Value.reorderedPurchase.strictEquals .purchase = true :=
    Value.strictEquals_symm Value.isSound_purchase Value.isSound_reorderedPurchase
      Value.purchase_strictEquals
  refine ⟨hlists, hback, ?_, ?_⟩
  · exact holds_congr .contains hleft hright Value.isSound_reorderedPurchase Value.isSound_purchase
      hlists hback
  · simp [holds, isPart, Value.purchase_strictEquals]

end Condition

end ToolFlow

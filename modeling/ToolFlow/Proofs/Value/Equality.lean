import Mathlib.Data.List.Forall2
import ToolFlow.Proofs.Number
import ToolFlow.Proofs.Value.Data
import ToolFlow.Value.Equality

/-!
# Strict equality

Strict equality is an equality in which what is not a number is left out
(`isStrictEquality_strictEquals`): it is symmetric and transitive, and everything equals itself but
for what holds something that is not a number. Numbers are compared by what they denote, lists item
by item, and objects name by name, in whatever order the names stand.

What equal values have in common is said once (`strictEquals_iff`); the laws follow from it by
induction on what a value is built from. Objects are taken to have each name once, as all objects do
that are read or put together field by field.

## Objects are where the work is

Two objects are compared by their names, which have to be the same, and then by looking up each name
of one of them in the other. This is not symmetric as it is written. It becomes so by
`object_strictEquals_iff`, in which the two objects play the same part: what one has under a name
equals what the other has. Without names that stand once this would be wrong, since a name that is
repeated is only ever looked up once.

## What is not a number

A value equals itself unless something in it is not a number, at whatever depth
(`strictEquals_self_iff`). Entities are compared by identity, so what they show is not looked into
and does not count. `Value.HasNaN` follows this.
-/

namespace ToolFlow

namespace Value

/-- A value that is put together from no others. -/
def IsAtomic : Value → Prop
  | list _ => False
  | object _ => False
  | _ => True

/-- A value whose objects have each name once. -/
abbrev IsSound : Value → Prop :=
  BuiltFrom IsAtomic

/-- Something in a value is not a number; what entities show is not in them. -/
inductive HasNaN : Value → Prop
  | number {n : Number} (isNaN : n.isNaN = true) : HasNaN (.number n)
  | item {items : List Value} {v : Value} (mem : v ∈ items) (inside : HasNaN v) :
      HasNaN (.list items)
  | field {fields : Fields} {field : String × Value} (mem : field ∈ fields)
      (inside : HasNaN field.2) : HasNaN (.object fields)

/-- What two equal values have in common. -/
inductive Alike : Value → Value → Prop
  | missing : Alike missing missing
  | null : Alike null null
  | bool (b : Bool) : Alike (bool b) (bool b)
  | number {m n : Number} (same : m.same n = true) : Alike (number m) (number n)
  | text (s : String) : Alike (text s) (text s)
  | list {as bs : List Value} (items : List.Forall₂ (fun a b ↦ a.strictEquals b = true) as bs) :
      Alike (list as) (list bs)
  | object {as bs : Fields} (names : ∀ name, Fields.has name as = Fields.has name bs)
      (values : ∀ field ∈ as, ∃ b, bs.lookup field.1 = some b ∧ field.2.strictEquals b = true) :
      Alike (object as) (object bs)
  | entity (id : ℕ) (attributes attributes' : Fields) :
      Alike (entity id attributes) (entity id attributes')

/-! ### What is in a value -/

/-- A list is sound when its items are. -/
theorem isSound_list_iff {items : List Value} :
    (list items).IsSound ↔ ∀ v ∈ items, v.IsSound :=
  builtFrom_list_iff id

/-- An object is sound when its values are and no name stands twice. -/
theorem isSound_object_iff {fields : Fields} :
    (object fields).IsSound ↔
      (fields.map Prod.fst).Nodup ∧ ∀ field ∈ fields, field.2.IsSound :=
  builtFrom_object_iff id

/-- A number holds what is not a number when it is none. -/
theorem hasNaN_number_iff {n : Number} : (number n).HasNaN ↔ n.isNaN = true := by
  constructor
  · rintro ⟨h⟩
    exact h
  · exact .number

/-- A list holds what one of its items holds. -/
theorem hasNaN_list_iff {items : List Value} : (list items).HasNaN ↔ ∃ v ∈ items, v.HasNaN := by
  constructor
  · rintro (_ | ⟨hmem, h⟩)
    exact ⟨_, hmem, h⟩
  · rintro ⟨v, hmem, h⟩
    exact .item hmem h

/-- An object holds what one of its values holds. -/
theorem hasNaN_object_iff {fields : Fields} :
    (object fields).HasNaN ↔ ∃ field ∈ fields, field.2.HasNaN := by
  constructor
  · rintro (_ | _ | ⟨hmem, h⟩)
    exact ⟨_, hmem, h⟩
  · rintro ⟨field, hmem, h⟩
    exact .field hmem h

end Value

namespace Fields

variable {as bs : Fields}

/-- Two objects have the same names when no name tells them apart. -/
theorem sameNames_iff : sameNames as bs = true ↔ ∀ name, as.has name = bs.has name := by
  simp only [sameNames, Bool.and_eq_true, List.all_eq_true]
  constructor
  · rintro ⟨hleft, hright⟩ name
    rw [Bool.eq_iff_iff]
    constructor
    · intro h
      obtain ⟨v, hmem⟩ := has_iff.1 h
      exact hleft _ hmem
    · intro h
      obtain ⟨v, hmem⟩ := has_iff.1 h
      exact hright _ hmem
  · intro h
    exact ⟨fun field hmem ↦ h _ ▸ has_iff.2 ⟨field.2, hmem⟩,
      fun field hmem ↦ (h _).symm ▸ has_iff.2 ⟨field.2, hmem⟩⟩

end Fields

namespace Value

variable {a b c v : Value} {as bs cs : List Value} {fields fields' : Fields}

/-! ### Equal values -/

/-- Lists are compared item by item, and have to be of one length. -/
theorem strictEqualsList_iff :
    strictEqualsList as bs = true ↔ List.Forall₂ (fun a b ↦ a.strictEquals b = true) as bs := by
  induction as generalizing bs with
  | nil => cases bs <;> simp [strictEqualsList]
  | cons a as ih => cases bs <;> simp [strictEqualsList, ih]

/-- The fields on the left are looked up on the right, one by one. -/
theorem strictEqualsFields_iff :
    strictEqualsFields fields fields' = true ↔
      ∀ field ∈ fields, ∃ b, fields'.lookup field.1 = some b ∧ field.2.strictEquals b = true := by
  induction fields with
  | nil => simp [strictEqualsFields]
  | cons field rest ih =>
    obtain ⟨name, a⟩ := field
    rw [strictEqualsFields, Bool.and_eq_true, ih, List.forall_mem_cons]
    refine and_congr_left fun _ ↦ ?_
    cases fields'.lookup name <;> simp

/-- **Values are equal exactly when they are alike**, and their parts are equal. -/
theorem strictEquals_iff : a.strictEquals b = true ↔ Alike a b := by
  constructor
  · intro h
    unfold strictEquals at h
    split at h
    · exact .missing
    · exact .null
    · exact beq_iff_eq.1 h ▸ .bool _
    · exact .number h
    · exact beq_iff_eq.1 h ▸ .text _
    · exact .list (strictEqualsList_iff.1 h)
    · rw [Bool.and_eq_true] at h
      exact .object (Fields.sameNames_iff.1 h.1) (strictEqualsFields_iff.1 h.2)
    · exact beq_iff_eq.1 h ▸ .entity _ _ _
    · simp at h
  · rintro (_ | _ | b | same | s | items | ⟨names, values⟩ | id)
    · rfl
    · rfl
    · simp [strictEquals]
    · simpa [strictEquals] using same
    · simp [strictEquals]
    · simpa [strictEquals] using strictEqualsList_iff.2 items
    · rw [strictEquals, Bool.and_eq_true]
      exact ⟨Fields.sameNames_iff.2 names, strictEqualsFields_iff.2 values⟩
    · simp [strictEquals]

/-- Lists are equal item by item. -/
theorem list_strictEquals_iff :
    (list as).strictEquals (list bs) = true ↔
      List.Forall₂ (fun a b ↦ a.strictEquals b = true) as bs := by
  rw [strictEquals, strictEqualsList_iff]

/-- **Objects are equal name by name**: either both have a name and equal values under it, or
neither has it. -/
theorem object_strictEquals_iff (hnames : (fields.map Prod.fst).Nodup) :
    (object fields).strictEquals (object fields') = true ↔
      ∀ name, Option.Rel (fun a b ↦ a.strictEquals b = true) (fields.lookup name)
        (fields'.lookup name) := by
  rw [strictEquals_iff]
  constructor
  · intro h name
    cases h with
    | object names values =>
      have hsame := names name
      unfold Fields.has Fields.get? at hsame
      rcases hleft : fields.lookup name with _ | a
      · have hright : fields'.lookup name = none := by simpa [hleft] using hsame.symm
        rw [hright]
        exact .none
      · obtain ⟨b, hright, hequal⟩ := values _ (Fields.mem_of_lookup hleft)
        rw [hright]
        exact .some hequal
  · intro h
    refine .object (fun name ↦ ?_) fun field hmem ↦ ?_
    · have hrel := h name
      unfold Fields.has Fields.get?
      generalize fields.lookup name = x, fields'.lookup name = y at hrel ⊢
      cases hrel <;> rfl
    · have hrel := h field.1
      rw [Fields.lookup_of_mem hnames hmem] at hrel
      generalize fields'.lookup field.1 = y at hrel ⊢
      cases hrel with
      | some hequal => exact ⟨_, rfl, hequal⟩

/-! ### The laws of equality -/

/-- **Strict equality is symmetric.** -/
theorem strictEquals_symm (ha : a.IsSound) (hb : b.IsSound) (h : a.strictEquals b = true) :
    b.strictEquals a = true := by
  induction ha generalizing b with
  | leaf hleaf =>
    cases strictEquals_iff.1 h with
    | number same => exact strictEquals_iff.2 (.number (Number.same_comm _ _ ▸ same))
    | entity id attributes attributes' =>
      exact strictEquals_iff.2 (.entity id attributes' attributes)
    | list => exact hleaf.elim
    | object => exact hleaf.elim
    | _ => exact h
  | list _ ih =>
    cases strictEquals_iff.1 h with
    | list items =>
      obtain ⟨hlength, hitems⟩ := List.forall₂_iff_get.1 items
      have hsound := isSound_list_iff.1 hb
      exact list_strictEquals_iff.2 (List.forall₂_iff_get.2 ⟨hlength.symm, fun i hi hi' ↦
        ih _ (List.get_mem _ _) (hsound _ (List.get_mem _ _)) (hitems i hi' hi)⟩)
  | @object fields _ _ ih =>
    cases strictEquals_iff.1 h with
    | @object _ fields' names values =>
      obtain ⟨hnames, hsound⟩ := isSound_object_iff.1 hb
      refine strictEquals_iff.2 (.object (fun name ↦ (names name).symm) fun field hmem ↦ ?_)
      -- the name stands on the other side too, and what it is equal to there is under it here
      have hhas : fields.has field.1 = true := (names _).trans (Fields.has_iff.2 ⟨field.2, hmem⟩)
      obtain ⟨a, hlookup⟩ := Option.isSome_iff_exists.1 hhas
      have ha := Fields.mem_of_lookup hlookup
      obtain ⟨b, hb, hequal⟩ := values _ ha
      obtain rfl : field.2 = b := Option.some.inj ((Fields.lookup_of_mem hnames hmem).symm.trans hb)
      exact ⟨a, hlookup, ih _ ha (hsound field hmem) hequal⟩

/-- So it does not matter which value is compared with which. -/
theorem strictEquals_comm (ha : a.IsSound) (hb : b.IsSound) :
    a.strictEquals b = b.strictEquals a := by
  rw [Bool.eq_iff_iff]
  exact ⟨strictEquals_symm ha hb, strictEquals_symm hb ha⟩

/-- **Strict equality is transitive**, also where it passes from an integer to a fraction. -/
theorem strictEquals_trans (ha : a.IsSound) (hab : a.strictEquals b = true)
    (hbc : b.strictEquals c = true) : a.strictEquals c = true := by
  induction ha generalizing b c with
  | leaf hleaf =>
    cases strictEquals_iff.1 hab with
    | number same =>
      cases strictEquals_iff.1 hbc with
      | number same' => exact strictEquals_iff.2 (.number (Number.same_trans same same'))
    | entity =>
      cases strictEquals_iff.1 hbc with
      | entity => exact strictEquals_iff.2 (.entity _ _ _)
    | list => exact hleaf.elim
    | object => exact hleaf.elim
    | _ => exact hbc
  | list _ ih =>
    cases strictEquals_iff.1 hab with
    | list items =>
      cases strictEquals_iff.1 hbc with
      | list items' =>
        obtain ⟨hlength, hitems⟩ := List.forall₂_iff_get.1 items
        obtain ⟨hlength', hitems'⟩ := List.forall₂_iff_get.1 items'
        exact list_strictEquals_iff.2 (List.forall₂_iff_get.2 ⟨hlength.trans hlength',
          fun i hi hi' ↦ ih _ (List.get_mem _ _) (hitems i hi (hlength ▸ hi))
            (hitems' i (hlength ▸ hi) hi')⟩)
  | object _ _ ih =>
    cases strictEquals_iff.1 hab with
    | object names values =>
      cases strictEquals_iff.1 hbc with
      | object names' values' =>
        refine strictEquals_iff.2 (.object (fun name ↦ (names name).trans (names' name))
          fun field hmem ↦ ?_)
        obtain ⟨b, hb, hequal⟩ := values field hmem
        obtain ⟨c, hc, hequal'⟩ := values' _ (Fields.mem_of_lookup hb)
        exact ⟨c, hc, ih field hmem hequal hequal'⟩

/-- **A value equals itself exactly when** nothing in it is not a number. -/
theorem strictEquals_self_iff (hv : v.IsSound) : v.strictEquals v = true ↔ ¬v.HasNaN := by
  induction hv with
  | @leaf v hleaf =>
    cases v with
    | number n => simp [strictEquals, hasNaN_number_iff, Number.same_self_iff]
    | list => exact hleaf.elim
    | object => exact hleaf.elim
    | _ => exact iff_of_true (by simp [strictEquals]) (by rintro ⟨⟩)
  | list _ ih =>
    rw [list_strictEquals_iff, List.forall₂_same, hasNaN_list_iff]
    simp only [not_exists, not_and]
    exact forall₂_congr ih
  | @object fields hnames _ ih =>
    rw [object_strictEquals_iff hnames, hasNaN_object_iff]
    simp only [not_exists, not_and]
    constructor
    · intro h field hmem
      have hrel := h field.1
      rw [Fields.lookup_of_mem hnames hmem] at hrel
      cases hrel with
      | some hequal => exact (ih field hmem).1 hequal
    · intro h name
      rcases hlookup : fields.lookup name with _ | v
      · exact .none
      · have hmem := Fields.mem_of_lookup hlookup
        exact .some ((ih _ hmem).2 (h _ hmem))

/-- What it is for a comparison to be an equality of value and type. -/
structure IsStrictEquality (eq : Value → Value → Bool) : Prop where
  comm : ∀ {a b : Value}, a.IsSound → b.IsSound → eq a b = eq b a
  trans : ∀ {a b c : Value}, a.IsSound → b.IsSound → c.IsSound →
    eq a b = true → eq b c = true → eq a c = true
  /-- Everything equals itself but what is not a number, and what holds such a thing. -/
  self_iff : ∀ {v : Value}, v.IsSound → (eq v v = true ↔ ¬v.HasNaN)
  /-- Numbers are equal when they denote the same, of whatever kind they are. -/
  number_iff : ∀ {m n : Number},
    eq (number m) (number n) = true ↔ ∃ q, m.value? = some q ∧ n.value? = some q
  /-- A truth value is no number. -/
  bool_number : ∀ (b : Bool) (n : Number),
    eq (bool b) (number n) = false ∧ eq (number n) (bool b) = false
  list_iff : ∀ {as bs : List Value},
    eq (list as) (list bs) = true ↔ List.Forall₂ (fun a b ↦ eq a b = true) as bs
  /-- Objects have the same names, and equal values under each; the order of names is nothing to
  them. -/
  object_iff : ∀ {fields fields' : Fields},
    (object fields).IsSound → (object fields').IsSound →
      (eq (object fields) (object fields') = true ↔
        ∀ name, Option.Rel (fun a b ↦ eq a b = true) (fields.lookup name) (fields'.lookup name))

/-- **Strict equality is an equality of value and type.** -/
theorem isStrictEquality_strictEquals : IsStrictEquality strictEquals where
  comm := strictEquals_comm
  trans ha _ _ := strictEquals_trans ha
  self_iff := strictEquals_self_iff
  number_iff {m n} := by
    rw [strictEquals, Number.same_iff]
  bool_number b n := by simp [strictEquals]
  list_iff := list_strictEquals_iff
  object_iff hfields _ := object_strictEquals_iff (isSound_object_iff.1 hfields).1

/-- A purchase, its numbers integers. -/
def purchase : Value :=
  object [("id", .int 4), ("discount", .int 0), ("items", list [text "pen", null])]

/-- The purchase with its fields the other way round, and its numbers as fractions: the discount is
the negative zero. -/
def reorderedPurchase : Value :=
  object [("items", list [text "pen", null]), ("discount", float Binary64.zero.neg),
    ("id", float (.ofInt 4))]

/-- The purchase has each name once. -/
theorem isSound_purchase : purchase.IsSound := by
  refine isSound_object_iff.2 ⟨by decide, ?_⟩
  simpa using ⟨.leaf trivial, .leaf trivial, .list (by simpa using ⟨.leaf trivial, .leaf trivial⟩)⟩

/-- So has the same with its fields the other way round. -/
theorem isSound_reorderedPurchase : reorderedPurchase.IsSound := by
  refine isSound_object_iff.2 ⟨by decide, ?_⟩
  simpa using ⟨.list (by simpa using ⟨.leaf trivial, .leaf trivial⟩), .leaf trivial, .leaf trivial⟩

/-- The two are equal, although neither their fields nor their numbers are written alike. -/
theorem purchase_strictEquals : purchase.strictEquals reorderedPurchase = true := by
  decide +kernel

/-- The two are equal, from either side. -/
theorem strictEquals_reorderedPurchase : purchase.IsSound ∧ reorderedPurchase.IsSound ∧
    purchase.strictEquals reorderedPurchase = true ∧
    reorderedPurchase.strictEquals purchase = true := by
  have hcomm := isStrictEquality_strictEquals.comm isSound_purchase isSound_reorderedPurchase
  exact ⟨isSound_purchase, isSound_reorderedPurchase, purchase_strictEquals,
    hcomm ▸ purchase_strictEquals⟩

end Value

end ToolFlow

import Mathlib.Data.List.Nodup
import ToolFlow.Value.Literal

/-!
# What values are built from

Values are put together from leaves by lists and by objects that have each name once
(`Value.BuiltFrom`). Which leaves there are tells one domain of values from another: data have null,
truth values, texts and some numbers (`Value.IsData`), and what a run comes upon has the absent
value and entities besides.

The predicate is inductive, so a fact on all values of a domain is an induction with one case for
leaves, one for lists and one for objects, in which the values inside are known to have it. Both
parameters may be widened (`BuiltFrom.mono`, `IsData.mono`). For the constructors there are
equivalences (`isData_list_iff`, `isData_object_iff`), by which a given document is shown to be data
with `simp`.

That names are not repeated is part of the predicate, since it cannot be recovered from the values.
It holds of whatever is put together by `Fields.put` (`nodup_ofPairs`), which is how readers make
objects, and of objects that are dictionaries to begin with.
-/

namespace ToolFlow

namespace Fields

variable {fields : Fields} {name : String} {v : Value}

/-! ### Fields and their names -/

/-- What is found under a name stands there. -/
theorem mem_of_lookup (h : fields.lookup name = some v) : (name, v) ∈ fields := by
  obtain ⟨before, after, rfl, -⟩ := List.lookup_eq_some_iff.1 h
  simp

/-- A field is found by its name, if no other has it. -/
theorem lookup_of_mem (hnames : (fields.map Prod.fst).Nodup) (h : (name, v) ∈ fields) :
    fields.lookup name = some v := by
  obtain ⟨before, after, rfl⟩ := List.append_of_mem h
  refine List.lookup_eq_some_iff.2 ⟨before, after, rfl, fun field hfield ↦ ?_⟩
  rw [List.map_append, List.map_cons, List.nodup_append] at hnames
  have hne := hnames.2.2 _ (List.mem_map_of_mem hfield) name List.mem_cons_self
  simpa using hne.symm

/-- A name is there when something stands under it. -/
theorem has_iff : fields.has name = true ↔ ∃ v, (name, v) ∈ fields := by
  rw [has, get?, List.lookup_isSome_iff]
  constructor
  · rintro ⟨⟨key, v⟩, hmem, hkey⟩
    obtain rfl : name = key := by simpa using hkey
    exact ⟨v, hmem⟩
  · rintro ⟨v, hmem⟩
    exact ⟨_, hmem, by simp⟩

end Fields

namespace Value

/-- A value put together from leaves by lists and by objects that have each name once. -/
inductive BuiltFrom (leaf : Value → Prop) : Value → Prop
  | leaf {v : Value} (h : leaf v) : BuiltFrom leaf v
  | list {items : List Value} (h : ∀ v ∈ items, BuiltFrom leaf v) : BuiltFrom leaf (.list items)
  | object {fields : Fields} (hnames : (fields.map Prod.fst).Nodup)
      (h : ∀ field ∈ fields, BuiltFrom leaf field.2) : BuiltFrom leaf (.object fields)

/-- Null, a truth value, a text, or one of some numbers. -/
def IsScalar (P : Number → Prop) : Value → Prop
  | null => True
  | bool _ => True
  | text _ => True
  | number n => P n
  | _ => False

/-- Data whose numbers are some numbers. -/
abbrev IsData (P : Number → Prop) : Value → Prop :=
  BuiltFrom (IsScalar P)

/-- The items of a list; nothing else has any. -/
def items : Value → List Value
  | list items => items
  | _ => []

/-- The fields of an object; nothing else has any. -/
def fields : Value → Fields
  | object fields => fields
  | _ => []

variable {P Q : Number → Prop} {leaf leaf' : Value → Prop} {v : Value}

/-! ### Parts of values -/

/-- More leaves make more values. -/
theorem BuiltFrom.mono (h : v.BuiltFrom leaf) (hleaf : ∀ v, leaf v → leaf' v) :
    v.BuiltFrom leaf' := by
  induction h with
  | leaf h => exact .leaf (hleaf _ h)
  | list _ ih => exact .list ih
  | object hnames _ ih => exact .object hnames ih

/-- A list is built from what its items are built from, unless it is a leaf. -/
theorem builtFrom_list_iff {items : List Value} (hleaf : ¬leaf (list items)) :
    (list items).BuiltFrom leaf ↔ ∀ v ∈ items, v.BuiltFrom leaf := by
  constructor
  · intro h
    cases h with
    | leaf h => exact absurd h hleaf
    | list h => exact h
  · exact .list

/-- The same holds of objects, which have each name once. -/
theorem builtFrom_object_iff {fields : Fields} (hleaf : ¬leaf (object fields)) :
    (object fields).BuiltFrom leaf ↔
      (fields.map Prod.fst).Nodup ∧ ∀ field ∈ fields, field.2.BuiltFrom leaf := by
  constructor
  · intro h
    cases h with
    | leaf h => exact absurd h hleaf
    | object hnames h => exact ⟨hnames, h⟩
  · rintro ⟨hnames, h⟩
    exact .object hnames h

/-- More numbers make more scalars. -/
theorem IsScalar.mono (hP : ∀ n, P n → Q n) (h : v.IsScalar P) : v.IsScalar Q := by
  cases v with
  | number n => exact hP n h
  | _ => exact h

/-- Data with numbers of a narrow kind are data with numbers of a wider one. -/
theorem IsData.mono (hP : ∀ n, P n → Q n) (h : v.IsData P) : v.IsData Q :=
  BuiltFrom.mono h fun _ ↦ IsScalar.mono hP

@[simp]
theorem isData_null : null.IsData P :=
  .leaf trivial

@[simp]
theorem isData_bool (b : Bool) : (bool b).IsData P :=
  .leaf trivial

@[simp]
theorem isData_text (s : String) : (text s).IsData P :=
  .leaf trivial

/-- What is absent is no data. -/
theorem not_isData_missing : ¬missing.IsData P := by
  rintro (h | _ | _)
  exact h

/-- An entity is no data, whatever it shows. -/
theorem not_isData_entity {id : ℕ} {attributes : Fields} : ¬(entity id attributes).IsData P := by
  rintro (h | _ | _)
  exact h

/-- A number is data when it is one of those allowed. -/
@[simp]
theorem isData_number_iff {n : Number} : (number n).IsData P ↔ P n := by
  constructor
  · intro h
    cases h with
    | leaf h => exact h
  · exact fun h ↦ .leaf h

/-- A text that may be lacking is data, for null stands in for it. -/
@[simp]
theorem isData_ofText? (s : Option String) : (ofText? s).IsData P := by
  cases s with
  | none => exact isData_null
  | some s => exact isData_text s

/-- So is a count that may be lacking. -/
theorem isData_ofNat? {n : Option ℕ} (h : ∀ i ∈ n, P (.int i)) : (ofNat? n).IsData P := by
  cases n with
  | none => exact isData_null
  | some i => exact isData_number_iff.2 (h i rfl)

/-- A list is data when its items are. -/
theorem isData_list_iff {items : List Value} :
    (list items).IsData P ↔ ∀ v ∈ items, v.IsData P :=
  builtFrom_list_iff id

/-- A list is data when all that is put into it is. -/
theorem isData_list_map_iff {α : Type} {f : α → Value} {l : List α} :
    (list (l.map f)).IsData P ↔ ∀ a ∈ l, (f a).IsData P := by
  rw [isData_list_iff, List.forall_mem_map]

/-- **An object is data when its values are and no name stands twice.** -/
theorem isData_object_iff {fields : Fields} :
    (object fields).IsData P ↔
      (fields.map Prod.fst).Nodup ∧ ∀ field ∈ fields, field.2.IsData P :=
  builtFrom_object_iff id

/-- Items of data are data. -/
theorem isData_of_mem_items {item : Value} (h : v.IsData P) (hitem : item ∈ v.items) :
    item.IsData P := by
  cases v with
  | list items => exact isData_list_iff.1 h item hitem
  | _ => simp [items] at hitem

/-- The fields of data are those of an object that is data; other values have none. -/
theorem isData_fields (h : v.IsData P) : (object v.fields).IsData P := by
  cases v with
  | object fields => exact h
  | _ => exact isData_object_iff.2 (by simp [fields])

/-- A field of data is data, for null stands in for one that is not there. -/
theorem isData_field (h : v.IsData P) (name : String) : (v.field name).IsData P := by
  cases v with
  | object fields =>
    rcases hfield : fields.lookup name with _ | w
    · simp [field, field?, hfield]
    · simpa [field, field?, hfield] using
        (isData_object_iff.1 h).2 _ (Fields.mem_of_lookup hfield)
  | entity => exact absurd h not_isData_entity
  | _ => exact isData_null

/-! ### Numbers that are too long -/

/-- A list can be written when each item can. -/
theorem anyOverlong_eq_false_iff {items : List Value} :
    anyOverlong items = false ↔ ∀ v ∈ items, v.isOverlong = false := by
  induction items with
  | nil => simp [anyOverlong]
  | cons v rest ih => simp [anyOverlong, ih]

/-- An object can be written when each value can, since names always can. -/
theorem anyOverlongField_eq_false_iff {fields : Fields} :
    anyOverlongField fields = false ↔ ∀ field ∈ fields, field.2.isOverlong = false := by
  induction fields with
  | nil => simp [anyOverlongField]
  | cons field rest ih =>
    obtain ⟨name, v⟩ := field
    simp [anyOverlongField, ih]

/-- A value is not too long when no leaf is. -/
theorem BuiltFrom.isOverlong_eq_false (h : v.BuiltFrom leaf)
    (hleaf : ∀ v, leaf v → v.isOverlong = false) : v.isOverlong = false := by
  induction h with
  | leaf h => exact hleaf _ h
  | list _ ih => exact anyOverlong_eq_false_iff.2 ih
  | object _ _ ih => exact anyOverlongField_eq_false_iff.2 ih

theorem IsScalar.isOverlong_eq_false (hP : ∀ n, P n → n.isOverlong = false)
    (h : v.IsScalar P) : v.isOverlong = false := by
  cases v with
  | number n => exact hP n h
  | missing => exact h.elim
  | list items => exact h.elim
  | object fields => exact h.elim
  | _ => rfl

/-- Data can be written when their numbers can. -/
theorem IsData.isOverlong_eq_false (hP : ∀ n, P n → n.isOverlong = false) (h : v.IsData P) :
    v.isOverlong = false :=
  BuiltFrom.isOverlong_eq_false h fun _ ↦ IsScalar.isOverlong_eq_false hP

end Value

namespace Fields

/-- A new name is put last. -/
theorem put_of_not_mem {name : String} {value : Value} {fields : Fields}
    (h : name ∉ fields.map Prod.fst) : put name value fields = fields ++ [(name, value)] := by
  induction fields with
  | nil => rfl
  | cons field rest ih =>
    rw [List.map_cons, List.mem_cons, not_or] at h
    have hother : (field.1 == name) = false := beq_false_of_ne (Ne.symm h.1)
    simp [put, hother, ih h.2]

/-- A name that gets a value keeps its place, or takes the last. -/
theorem names_put (name : String) (value : Value) (fields : Fields) :
    (put name value fields).names =
      if fields.has name then fields.names else fields.names ++ [name] := by
  induction fields with
  | nil => rfl
  | cons field rest ih =>
    obtain ⟨first, old⟩ := field
    by_cases hfirst : first = name
    · subst hfirst
      simp [put, names, has, get?]
    · have hhas : has name ((first, old) :: rest) = has name rest := by
        simp [has, get?, lookup_cons_eq_if, Ne.symm hfirst]
      have hput : put name value ((first, old) :: rest) = (first, old) :: put name value rest := by
        simp [put, hfirst]
      rw [hhas, hput]
      show first :: names (put name value rest) = _
      rw [ih]
      split <;> rfl

/-- Fields with new names are put one after the other as they are. -/
theorem foldl_put_of_nodup {before fields : Fields}
    (h : ((before ++ fields).map Prod.fst).Nodup) :
    fields.foldl (fun fields pair ↦ put pair.1 pair.2 fields) before = before ++ fields := by
  induction fields generalizing before with
  | nil => simp
  | cons field rest ih =>
    have hnew : field.1 ∉ before.map Prod.fst := by
      rw [List.map_append, List.map_cons] at h
      exact fun hmem ↦ (List.nodup_append.1 h).2.2 _ hmem _ List.mem_cons_self rfl
    rw [List.foldl_cons, put_of_not_mem hnew, ih (by simpa using h)]
    simp

/-- Fields that have each name once are taken as they are. -/
theorem ofPairs_of_nodup {fields : Fields} (h : (fields.map Prod.fst).Nodup) :
    ofPairs fields = fields :=
  @foldl_put_of_nodup [] fields h

end Fields

end ToolFlow

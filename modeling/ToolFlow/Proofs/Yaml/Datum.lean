import ToolFlow.Proofs.Value.Data
import ToolFlow.Yaml.Datum

/-!
# Values as data of documents

A document that is made of JSON data is a value in another dress (`Datum.ofValue`): it has the same
fields, is empty when the value is, reads the same and gives the value back.

Data of documents are more than values. There are bytes and dates, keys may be any scalar, and
collections may be shared and even contain themselves. What is read from a value uses none of this,
so it is opened by nothing (`opened_ofValue`), and each question that the loader asks of a datum has
the same answer as the corresponding question to the value. These are the lemmas by which the form
of documents can be stated for values alone.

The operations on data go through lists by functions of their own, as the recursion over nested data
requires. The first part shows each of them to be a `map` or a condition on all items, and nothing
after it unfolds them.
-/

namespace ToolFlow

namespace Value

theorem literals_eq_map (items : List Value) : literals items = items.map literal := by
  induction items with
  | nil => rfl
  | cons v rest ih => rw [literals, ih, List.map_cons]

theorem fieldLiterals_eq_map (fields : Fields) :
    fieldLiterals fields =
      fields.map fun field ↦ Text.quoted field.1 ++ ": " ++ field.2.literal := by
  induction fields with
  | nil => rfl
  | cons field rest ih => rw [fieldLiterals, ih, List.map_cons]

end Value

namespace Yaml.Datum

variable {P : Number → Prop} {v : Value}

/-! ### Collections part by part -/

/-- Items are dressed one by one. -/
theorem ofValues_eq_map (items : List Value) : ofValues items = items.map ofValue := by
  induction items with
  | nil => rfl
  | cons v rest ih => rw [ofValues, ih, List.map_cons]

/-- Fields keep their order and get texts for keys. -/
theorem ofFields_eq_map (fields : Fields) :
    ofFields fields = fields.map fun field ↦ (.text field.1, ofValue field.2) := by
  induction fields with
  | nil => rfl
  | cons field rest ih => rw [ofFields, ih, List.map_cons]

theorem values_eq_map (items : List Datum) : values items = items.map value := by
  induction items with
  | nil => rfl
  | cons d rest ih => rw [values, ih, List.map_cons]

theorem namedValues_eq_map (entries : List (Scalar × Datum)) :
    namedValues entries = entries.map fun entry ↦ (entry.1.keyName, value entry.2) := by
  induction entries with
  | nil => rfl
  | cons entry rest ih => rw [namedValues, ih, List.map_cons]

theorem literals_eq_map (items : List Datum) : literals items = items.map literal := by
  induction items with
  | nil => rfl
  | cons d rest ih => rw [literals, ih, List.map_cons]

theorem entryLiterals_eq_map (entries : List (Scalar × Datum)) :
    entryLiterals entries = entries.map fun entry ↦ entry.1.literal ++ ": " ++ entry.2.literal := by
  induction entries with
  | nil => rfl
  | cons entry rest ih => rw [entryLiterals, ih, List.map_cons]

/-- No item is too long exactly when each can be written. -/
theorem anyOverlong_eq_false_iff {items : List Datum} :
    anyOverlong items = false ↔ ∀ d ∈ items, d.isOverlong = false := by
  induction items with
  | nil => simp [anyOverlong]
  | cons d rest ih => simp [anyOverlong, ih]

theorem anyOverlongEntry_eq_false_iff {entries : List (Scalar × Datum)} :
    anyOverlongEntry entries = false ↔
      ∀ entry ∈ entries, entry.1.isOverlong = false ∧ entry.2.isOverlong = false := by
  induction entries with
  | nil => simp [anyOverlongEntry]
  | cons entry rest ih =>
    obtain ⟨key, d⟩ := entry
    simp [anyOverlongEntry, ih]

/-! ### What a value in the dress of a document is -/

/-- A value in the dress of a document contains nothing that has to be opened first. -/
theorem opened_ofValue (v : Value) : (ofValue v).opened = ofValue v := by
  cases v <;> rfl

/-- A field is found as in the value. -/
theorem get_ofFields (name : String) (fields : Fields) :
    get name (ofFields fields) = ofValue ((Value.object fields).field name) := by
  induction fields with
  | nil => rfl
  | cons field rest ih =>
    obtain ⟨first, w⟩ := field
    by_cases hname : name = first
    · simp [get, get?, ofFields, Value.field, Value.field?, Scalar.sameKey, Scalar.asNumber?, hname]
    · simpa [get, get?, ofFields, Value.field, Value.field?, Scalar.sameKey, Scalar.asNumber?,
        Fields.lookup_cons_eq_if, hname, Ne.symm hname] using ih

/-- It is empty when the value is. -/
theorem isVacant_ofValue (h : v.IsData P) : (ofValue v).isVacant = v.isVacant := by
  cases v with
  | entity => exact absurd h Value.not_isData_entity
  | list items => simp [ofValue, isVacant, Value.isVacant, ofValues_eq_map]
  | object fields => simp [ofValue, isVacant, Value.isVacant, ofFields_eq_map]
  | _ => rfl

/-- It has the same literal. -/
theorem literal_ofValue (h : v.IsData P) : (ofValue v).literal = v.literal := by
  induction h with
  | @leaf v h =>
    cases v with
    | bool b => cases b <;> rfl
    | missing | list | object | entity => exact h.elim
    | _ => rfl
  | @list items _ ih =>
    rw [ofValue, literal, Value.literal, ofValues_eq_map, literals_eq_map, Value.literals_eq_map,
      List.map_map]
    exact congrArg (fun parts ↦ "[" ++ commaSeparated parts ++ "]") (List.map_congr_left ih)
  | @object fields _ _ ih =>
    rw [ofValue, literal, Value.literal, ofFields_eq_map, entryLiterals_eq_map,
      Value.fieldLiterals_eq_map, List.map_map]
    refine congrArg (fun parts ↦ "\x7b" ++ commaSeparated parts ++ "\x7d")
      (List.map_congr_left fun field hfield ↦ ?_)
    exact congrArg (Text.quoted field.1 ++ ": " ++ ·) (ih field hfield)

/-- It is shown alike. -/
theorem display_ofValue (h : v.IsData P) : (ofValue v).display = v.display := by
  cases v with
  | text s => rfl
  | missing => exact absurd h Value.not_isData_missing
  | entity => exact absurd h Value.not_isData_entity
  | _ => exact literal_ofValue h

/-- It is too long when the value is. -/
theorem isOverlong_ofValue (h : v.IsData P) : (ofValue v).isOverlong = v.isOverlong := by
  rw [Bool.eq_iff_iff, ← not_iff_not, Bool.not_eq_true, Bool.not_eq_true]
  induction h with
  | @leaf v h =>
    cases v with
    | missing | list | object | entity => exact h.elim
    | _ => rfl
  | list _ ih =>
    rw [ofValue, isOverlong, Value.isOverlong, ofValues_eq_map, anyOverlong_eq_false_iff,
      Value.anyOverlong_eq_false_iff, List.forall_mem_map]
    exact forall₂_congr ih
  | object _ _ ih =>
    rw [ofValue, isOverlong, Value.isOverlong, ofFields_eq_map, anyOverlongEntry_eq_false_iff,
      Value.anyOverlongField_eq_false_iff, List.forall_mem_map]
    refine forall₂_congr fun field hfield ↦ ?_
    rw [← ih field hfield]
    simp [Scalar.isOverlong]

/-- It gives the value back. -/
theorem value_ofValue (h : v.IsData P) : (ofValue v).value = v := by
  induction h with
  | @leaf v h =>
    cases v with
    | missing | list | object | entity => exact h.elim
    | _ => rfl
  | @list items _ ih =>
    have hitems : (items.map fun v ↦ (ofValue v).value) = items := by
      simpa using List.map_congr_left ih
    simp [ofValue, value, ofValues_eq_map, values_eq_map, Function.comp_def, hitems]
  | @object fields hnames _ ih =>
    have hfields : (fields.map fun field ↦ (field.1, (ofValue field.2).value)) = fields := by
      have hpairs : ∀ field ∈ fields, (field.1, (ofValue field.2).value) = field :=
        fun field hfield ↦ by rw [ih field hfield]
      simpa using List.map_congr_left hpairs
    simp [ofValue, value, ofFields_eq_map, namedValues_eq_map, Function.comp_def, Scalar.keyName,
      hfields, Fields.ofPairs_of_nodup hnames]

end Yaml.Datum

end ToolFlow

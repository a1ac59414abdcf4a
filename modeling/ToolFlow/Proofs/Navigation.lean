import ToolFlow.Navigation
import ToolFlow.Proofs.Path.Printing

/-!
# Ways through values

A path that is followed to its end leads where it leads in two parts (`navigate_append`). This holds
wherever it is cut, also where the first part leads to null or to nothing: no segment leads on from
there, but a path can very well end at null. So following a path is the same as walking along it and
giving up as soon as there is no way on (`navigate_eq_walk`).

An index can stand in brackets or as a segment of its own. The two differ in objects and entities,
where digits are a name like others; everywhere else they lead to the same
(`navigate_indexed_eq_iff`).

Composition is a property of the definition as a fold and holds for that reason. What deserves a
proof is that the fold is the walk that a reader of the path would take, with its exit as soon as
there is nothing to go on from, since that is how navigation is commonly written: `walk` has the
exit, `navigate` has not. The absent value is not null. A path that leads to null has led somewhere,
and only a further segment makes it lead nowhere.

That an index can be spelled in two ways is a matter of both the grammar and of navigation. The
grammar reads the digits of a number as a segment that is that number's text (`parse_toString`), and
navigation turns such a text into an index where the value has items (`child_toString`).
-/

namespace ToolFlow.Value

open ToolFlow.Path (Segment)

/-- Whether what is in a value has names: it is an object or an entity. -/
def hasNames : Value → Bool
  | object _ => true
  | entity _ _ => true
  | _ => false

/-- Where a path leads when one walks along it and gives up as soon as there is no way on: at the
absent value, at null, and at an index that is not one of a list. -/
def walk : Value → List Segment → Value
  | v, [] => v
  | v, segment :: rest =>
    if v.isMissing || v.isNull then missing
    else
      match segment.index with
      | none => walk (v.child segment.name) rest
      | some index =>
        match v.child segment.name with
        | list items => if h : index < items.length then walk items[index] rest else missing
        | _ => missing

variable {v : Value} {name : String} {n : ℕ}

/-! ### Giving up -/

/-- There is no way on from where nothing is. -/
theorem navigate_missing (segments : List Segment) : navigate missing segments = missing := by
  induction segments with
  | nil => rfl
  | cons segment segments ih => rw [navigate_cons, follow_missing, ih]

/-- Neither null nor the absent value leads on. -/
theorem follow_of_isMissing_or_isNull (h : (v.isMissing || v.isNull) = true) (segment : Segment) :
    v.follow segment = missing := by
  cases v with
  | missing => exact follow_missing segment
  | null => exact follow_null segment
  | _ => simp [isMissing, isNull] at h

/-- **Following a path is walking along it** and giving up where there is no way on. -/
theorem navigate_eq_walk (v : Value) (segments : List Segment) :
    v.navigate segments = v.walk segments := by
  induction segments generalizing v with
  | nil => rfl
  | cons segment segments ih =>
    obtain ⟨name, index⟩ := segment
    rw [navigate_cons, walk]
    split
    · next hstop => rw [follow_of_isMissing_or_isNull hstop, navigate_missing]
    · cases index with
      | none => exact ih (v.child name)
      | some index =>
        rw [follow]
        cases v.child name with
        | list items =>
          by_cases h : index < items.length
          · simp [itemAt, h, ih]
          · simp [itemAt, h, navigate_missing]
        | _ => exact navigate_missing segments

/-! ### Two parts of a path -/

/-- **A path leads where its parts lead one after the other.** -/
theorem navigate_append (v : Value) (before later : List Segment) :
    v.navigate (before ++ later) = (v.navigate before).navigate later :=
  List.foldl_append

/-! ### Two spellings of an index -/

/-- Where nothing has a name, digits lead to the item of their number. -/
theorem child_toString (h : v.hasNames = false) (n : ℕ) : v.child (toString n) = v.itemAt n := by
  cases v with
  | list items =>
    rw [child, Text.toList_toString, if_pos (Text.isDecimal_toDigits n), Text.decimalValue_toDigits,
      itemAt]
  | object => cases h
  | entity => cases h
  | _ => rfl

/-- What has names has no items. -/
theorem itemAt_of_hasNames (h : v.hasNames = true) (n : ℕ) : v.itemAt n = missing := by
  cases v with
  | list => cases h
  | _ => rfl

/-- An index and its digits lead apart only by a name that is those digits. -/
theorem itemAt_eq_child_iff :
    v.itemAt n = v.child (toString n) ↔ (v.hasNames = true → v.child (toString n) = missing) := by
  cases h : v.hasNames with
  | false => exact ⟨fun _ hnames ↦ absurd hnames (by decide), fun _ ↦ (child_toString h n).symm⟩
  | true => rw [itemAt_of_hasNames h, eq_comm, forall_prop_of_true rfl]

/-- **The two spellings of an index lead to the same, unless** its digits are a name. -/
theorem navigate_indexed_eq_iff :
    v.navigate [⟨name, some n⟩] = v.navigate [⟨name, none⟩, ⟨toString n, none⟩] ↔
      ((v.navigate [⟨name, none⟩]).hasNames = true →
        (v.navigate [⟨name, none⟩]).child (toString n) = missing) :=
  itemAt_eq_child_iff

/-- The digits of a number that is not too long are read as a segment of their own. -/
theorem parse_toString (hn : (Nat.toDigits 10 n).length ≤ Text.digitLimit) :
    Path.parse (toString n) = .ok [⟨toString n, none⟩] := by
  have hdecimal : Text.isDecimal (toString n).toList = true := by
    rw [Text.toList_toString]
    exact Text.isDecimal_toDigits n
  have hreadable : (⟨toString n, none⟩ : Segment).IsReadable :=
    { isName := Path.isName_of_isDecimal hdecimal
      nameOf_eq := by
        rw [Path.nameOf, if_pos hdecimal, Text.toList_toString, Text.decimalValue_toDigits]
      isShort_name := by
        rw [Text.toList_toString]
        exact fun _ ↦ hn
      isShort_index := by simp }
  have htext : Path.joined [⟨toString n, none⟩] = toString n := String.intercalate_singleton
  have hread := Path.parse_joined (by simp) (List.forall_mem_singleton.2 hreadable)
  rwa [htext] at hread

/-! ### Navigation -/

/-- **Navigation composes, and both spellings of an index agree.** A path is walked along until
there is no way on, and it is followed by following its parts, wherever it is cut. Unless a name
leads to an object or an entity, a number leads on from there in brackets as it does by its
digits. -/
theorem navigates :
    (∀ (v : Value) (segments : List Segment), v.navigate segments = v.walk segments) ∧
    (∀ (v : Value) (before later : List Segment),
      v.navigate (before ++ later) = (v.navigate before).navigate later) ∧
    ∀ (v : Value) (name : String) (n : ℕ), (Nat.toDigits 10 n).length ≤ Text.digitLimit →
      (v.navigate [⟨name, none⟩]).hasNames = false →
        Path.parse (toString n) = .ok [⟨toString n, none⟩] ∧
          v.navigate [⟨name, some n⟩] = v.navigate [⟨name, none⟩, ⟨toString n, none⟩] := by
  refine ⟨navigate_eq_walk, navigate_append, fun v name n hn hnames ↦ ⟨parse_toString hn, ?_⟩⟩
  exact navigate_indexed_eq_iff.2 fun h ↦ absurd (hnames.symm.trans h) (by decide)

/-- In an order, a line is found by its index in both spellings; behind a line that is null there is
nothing. -/
theorem navigates_order :
    let order := object [("lines", list [null, object [("id", int 7)]])]
    (Nat.toDigits 10 1).length ≤ Text.digitLimit ∧
      (order.navigate [⟨"lines", none⟩]).hasNames = false ∧
      (Path.parse (toString 1) = .ok [⟨toString 1, none⟩] ∧
        order.navigate [⟨"lines", some 1⟩] =
          order.navigate [⟨"lines", none⟩, ⟨toString 1, none⟩]) ∧
      order.navigate ([⟨"lines", some 1⟩] ++ [⟨"id", none⟩]) = int 7 ∧
      order.navigate ([⟨"lines", some 0⟩] ++ []) = null ∧
      order.navigate ([⟨"lines", some 0⟩] ++ [⟨"id", none⟩]) = missing := by
  intro order
  have hn : (Nat.toDigits 10 1).length ≤ Text.digitLimit := by decide
  have hlines : order.navigate [⟨"lines", none⟩] = list [null, object [("id", int 7)]] := by
    simp [order, follow, child]
  have hnames : (order.navigate [⟨"lines", none⟩]).hasNames = false := by
    rw [hlines]
    rfl
  obtain ⟨-, happend, hspellings⟩ := navigates
  refine ⟨hn, hnames, hspellings order "lines" 1 hn hnames, ?_, ?_, ?_⟩
  all_goals
    rw [happend]
    simp [order, follow, child, itemAt]

end ToolFlow.Value

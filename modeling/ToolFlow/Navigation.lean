import ToolFlow.Path.Reference
import ToolFlow.Text.Digits
import ToolFlow.Value.Basic

/-!
# Navigation

Following a path through a value. A step that leads nowhere, and every step from an absent value or
null, yields the absent value.

Following is total, and the absent value is where it ends up whenever it cannot go on: there is no
error for a path that does not fit a value. A segment is a name with at most one index. The name of
a segment is looked up in an object or an entity, and in a list it is taken for an index when it has
digits only (`Value.child`); a bracketed index applies to lists alone (`Value.itemAt`).

A path is followed segment by segment from the left, so following a path is following its first part
and then the rest from there.
-/

namespace ToolFlow.Value

/-- The item of a list at an index. -/
def itemAt (index : Nat) : Value → Value
  | list items => items.getD index missing
  | _ => missing

/-- What a name leads to: the field of an object, the attribute of an entity, or the item of a list
whose index it spells. -/
def child (name : String) : Value → Value
  | object fields => (fields.lookup name).getD missing
  | entity _ attributes => (attributes.lookup name).getD missing
  | list items =>
    if Text.isDecimal name.toList then items.getD (Text.decimalValue name.toList) missing
    else missing
  | _ => missing

/-- What one segment leads to. -/
def follow (segment : Path.Segment) (v : Value) : Value :=
  match segment.index with
  | none => v.child segment.name
  | some index => (v.child segment.name).itemAt index

/-- What a path leads to. -/
def navigate (v : Value) (segments : List Path.Segment) : Value :=
  segments.foldl (fun v segment => v.follow segment) v

@[simp] theorem navigate_nil (v : Value) : v.navigate [] = v := rfl

@[simp] theorem navigate_cons (v : Value) (s : Path.Segment) (rest : List Path.Segment) :
    v.navigate (s :: rest) = (v.follow s).navigate rest := rfl

/-- From null no segment leads anywhere. -/
@[simp] theorem follow_null (s : Path.Segment) : follow s null = missing := by
  cases s with
  | mk name index => cases index <;> rfl

/-- From the absent value no segment leads anywhere. -/
@[simp] theorem follow_missing (s : Path.Segment) : follow s missing = missing := by
  cases s with
  | mk name index => cases index <;> rfl

end ToolFlow.Value

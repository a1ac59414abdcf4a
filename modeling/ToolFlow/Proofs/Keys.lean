import ToolFlow.Proofs.Extraction
import ToolFlow.Proofs.Navigation

/-!
# Which keys can be addressed

A value is reached in nested objects by the keys that lead to it, written one after the other with
dots between. This takes keys that are names, and it takes more: a key that is made of digits is
read as a number and looked up by the digits of that number. So the value under `"007"` is asked for
under `"7"`, and not found. The values under keys are reached by their path exactly when none of the
keys is a number with a spare zero (`addressable_iff`).

The grammar of paths has no place for texts, only for names and numbers, so this is not a slip of
the reader alone: there is no other way to write such a key either. What a key is as a segment is
`keySegment`, and the whole question is whether a segment leads where the key does
(`follow_keySegment`), for one key at a time. The path as a whole adds nothing to it: it is accepted
whatever the keys are (`parse_throughKeys`), also through the longer form by which a mapping asks
for it, and it is followed segment by segment (`navigate_keys`).

The keys are those that a path could name at all (`IsKey`): characters of a word, and not more
digits than can be read.
-/

namespace ToolFlow

/-- A key that can be a segment of a path: a name that is not too long to be read as a number. -/
structure IsKey (key : String) : Prop where
  isName : Path.IsName key.toList
  length_le : key.length ≤ Text.digitLimit

/-- The path that leads through keys. -/
def Path.throughKeys (keys : List String) : String :=
  ".".intercalate keys

namespace Value

/-- The value under keys in nested objects, one key for each of them. -/
def underKeys? : List String → Value → Option Value
  | [], v => some v
  | key :: keys, object fields => (fields.lookup key).bind (underKeys? keys)
  | _ :: _, _ => none

/-- Objects around a value, one for each key. -/
def nested (keys : List String) (v : Value) : Value :=
  keys.foldr (fun key inner ↦ object [(key, inner)]) v

end Value

/-- A path leads from one value to another: by itself, and as the mapping that asks for it in the
result of any earlier step. -/
structure LeadsTo (path : String) (v w : Value) : Prop where
  navigates : ∃ segments, Path.parse path = .ok segments ∧ v.navigate segments = w
  resolves : ∀ (results : List StepResult) (n : ℕ) (result : StepResult) (current : Int),
    (Nat.toDigits 10 n).length ≤ Text.digitLimit → (n : Int) < current →
      Resolution.resultFor? results n = some result → result.success = true →
      Response.result result.response = .ok (some v) →
      Resolution.resolve results (Path.resultPath n path) current = .ok w

namespace Path

/-- What a key is as a segment. -/
def keySegment (key : String) : Segment :=
  ⟨nameOf key.toList, none⟩

variable {key : String} {keys : List String}

/-! ### Keys as segments -/

/-- A key is read as itself unless it is a number with a spare zero. -/
theorem nameOf_toList_eq_iff : nameOf key.toList = key ↔ ¬Text.HasSpareZero key.toList := by
  unfold nameOf
  split
  · next hdecimal =>
    rw [← Text.toDigits_decimalValue_eq_iff hdecimal, Nat.toString_eq_ofList_toDigits,
      ← String.toList_inj, String.toList_ofList]
  · next hplain => simp [Text.HasSpareZero, hplain]

/-- Keys after dots continue a path. -/
theorem continued_keys (hkeys : ∀ key ∈ keys, IsKey key) :
    Continued (keys.map keySegment) (keys.flatMap fun key ↦ '.' :: key.toList) := by
  induction keys with
  | nil => exact .nil
  | cons key keys ih =>
    obtain ⟨hkey, hkeys⟩ := List.forall_mem_cons.1 hkeys
    exact .cons (.plain hkey.isName) (ih hkeys)

/-- A key is not too long, even if it is a number. -/
theorem isShort_of_isKey (hkey : IsKey key) : IsShort key.toList := by
  rw [IsShort, String.length_toList]
  exact fun _ ↦ hkey.length_le

/-- Keys after dots hold no number that is too long, when none of them is one. -/
theorem not_hasOverlongNumber_keys (hkeys : ∀ key ∈ keys, IsKey key) :
    ¬HasOverlongNumber (keys.flatMap fun key ↦ '.' :: key.toList) := by
  induction keys with
  | nil => exact not_hasOverlongNumber_nil
  | cons key keys ih =>
    obtain ⟨hkey, hkeys⟩ := List.forall_mem_cons.1 hkeys
    rw [List.flatMap_cons, List.cons_append, not_hasOverlongNumber_cons_iff punctuation?_dot,
      not_hasOverlongNumber_append_iff hkey.isName (continued_keys hkeys).endsName]
    exact ⟨isShort_of_isKey hkey, ih hkeys⟩

/-- **The path through keys has one segment for each**, known by the number of the key, if it is
one. -/
theorem parse_throughKeys (hne : keys ≠ []) (hkeys : ∀ key ∈ keys, IsKey key) :
    parse (throughKeys keys) = .ok (keys.map keySegment) := by
  cases keys with
  | nil => exact absurd rfl hne
  | cons key keys =>
    obtain ⟨hkey, hkeys⟩ := List.forall_mem_cons.1 hkeys
    have hrest := continued_keys hkeys
    have hshort : ¬HasOverlongNumber (throughKeys (key :: keys)).toList := by
      rw [throughKeys, toList_intercalate_cons,
        not_hasOverlongNumber_append_iff hkey.isName hrest.endsName]
      exact ⟨isShort_of_isKey hkey, not_hasOverlongNumber_keys hkeys⟩
    rw [parse_eq_ok_iff hshort, throughKeys, toList_intercalate_cons]
    exact .intro (.plain hkey.isName) hrest

end Path

/-! ### Navigation through keys -/

namespace Value

variable {key : String} {keys : List String} {v w : Value}

/-- **A segment leads where its key does**, if the key is read as itself. -/
theorem follow_keySegment (hkey : ¬Text.HasSpareZero key.toList) (v : Value) :
    v.follow (Path.keySegment key) = v.child key := by
  rw [Path.keySegment, follow, Path.nameOf_toList_eq_iff.2 hkey]

/-- Keys without spare zeros lead to what is under them. -/
theorem navigate_keys (hkeys : ∀ key ∈ keys, ¬Text.HasSpareZero key.toList)
    (hunder : v.underKeys? keys = some w) : v.navigate (keys.map Path.keySegment) = w := by
  induction keys generalizing v with
  | nil => exact Option.some.inj hunder
  | cons key keys ih =>
    obtain ⟨hkey, hkeys⟩ := List.forall_mem_cons.1 hkeys
    cases v with
    | object fields =>
      obtain ⟨inner, hinner, hunder⟩ := Option.bind_eq_some_iff.1 hunder
      rw [List.map_cons, navigate_cons, follow_keySegment hkey, child, hinner]
      exact ih hkeys hunder
    | _ => simp [underKeys?] at hunder

/-- Nested objects have their value under their keys. -/
theorem underKeys?_nested (keys : List String) (v : Value) :
    (nested keys v).underKeys? keys = some v := by
  induction keys with
  | nil => rfl
  | cons key keys ih => simpa [nested, underKeys?] using ih

/-- At a key with a spare zero the way is lost. -/
theorem navigate_nested (hkey : key ∈ keys) (hspare : Text.HasSpareZero key.toList) :
    (nested keys v).navigate (keys.map Path.keySegment) = missing := by
  induction keys with
  | nil => simp at hkey
  | cons first keys ih =>
    rw [List.map_cons, navigate_cons]
    by_cases hfirst : Text.HasSpareZero first.toList
    · have hlost : (nested (first :: keys) v).follow (Path.keySegment first) = missing := by
        have hother : Path.nameOf first.toList ≠ first := by
          simpa [Path.nameOf_toList_eq_iff] using hfirst
        simp [nested, Path.keySegment, follow, child, Fields.lookup_cons_eq_if, hother]
      rw [hlost, navigate_missing]
    · have hfound : (nested (first :: keys) v).follow (Path.keySegment first) = nested keys v := by
        rw [follow_keySegment hfirst]
        simp [nested, child]
      rw [hfound]
      refine ih ?_
      rcases List.mem_cons.1 hkey with rfl | hkey
      · exact absurd hspare hfirst
      · exact hkey

end Value

/-! ### The keys that can be addressed -/

variable {path : String} {keys : List String} {v w : Value}

/-- A mapping sees what its path leads to. -/
theorem LeadsTo.of_navigate {segments : List Path.Segment} (hpath : Path.parse path = .ok segments)
    (hleads : v.navigate segments = w) : LeadsTo path v w where
  navigates := ⟨segments, hpath, hleads⟩
  resolves := by
    intro results n result current hn hearlier hresult hsuccess hvalue
    have hpresent : result.response.isNull = false := by
      cases hresponse : result.response with
      | null =>
        have hnone : Response.result .null = .ok none := rfl
        simp [hresponse, hnone] at hvalue
      | _ => rfl
    rw [Resolution.resolve_resultPath hn hearlier hresult hsuccess hpresent hpath]
    simp [Resolution.target, hvalue, Except.map, hleads]

/-- **What is under keys is reached by the path through them exactly when** no key is a number with
a spare zero. -/
theorem addressable_iff (hne : keys ≠ []) (hkeys : ∀ key ∈ keys, IsKey key) :
    (∀ v w, Value.underKeys? keys v = some w → LeadsTo (Path.throughKeys keys) v w) ↔
      ∀ key ∈ keys, ¬Text.HasSpareZero key.toList := by
  have hpath := Path.parse_throughKeys hne hkeys
  constructor
  · intro h key hkey hspare
    obtain ⟨segments, hsegments, hleads⟩ :=
      (h _ _ (Value.underKeys?_nested keys .null)).navigates
    obtain rfl : keys.map Path.keySegment = segments := Except.ok.inj (hpath.symm.trans hsegments)
    rw [Value.navigate_nested hkey hspare] at hleads
    simp at hleads
  · intro hplain v w hunder
    exact .of_navigate hpath (Value.navigate_keys hplain hunder)

/-- Keys of an order: whatever is under them is reached. -/
theorem addressable_order : (∀ key ∈ ["order", "10", "items"], IsKey key) ∧
    ∀ v w, Value.underKeys? ["order", "10", "items"] v = some w →
      LeadsTo "order.10.items" v w := by
  have hkeys : ∀ key ∈ ["order", "10", "items"], IsKey key := by
    simp only [List.forall_mem_cons]
    exact ⟨⟨by decide +kernel, by decide +kernel⟩,
      ⟨by decide +kernel, by decide +kernel⟩,
      ⟨by decide +kernel, by decide +kernel⟩, by simp⟩
  exact ⟨hkeys, (addressable_iff (by simp) hkeys).2 (by decide +kernel)⟩

/-- What is under a number with spare zeros is not found. -/
theorem spare_zeros_not_addressable : IsKey "007" ∧
    Value.underKeys? ["007"] (.object [("007", .int 1)]) = some (.int 1) ∧
    ¬LeadsTo (Path.throughKeys ["007"]) (.object [("007", .int 1)]) (.int 1) := by
  refine ⟨⟨by decide +kernel, by decide +kernel⟩, rfl, ?_⟩
  rintro ⟨⟨segments, hsegments, hleads⟩, -⟩
  have hread : (Path.parse "007").toOption = some [⟨"7", none⟩] := by decide +kernel
  have hsegments : Path.parse "007" = .ok segments := hsegments
  rw [hsegments] at hread
  obtain rfl : segments = [⟨"7", none⟩] := Option.some.inj hread
  simp [Value.follow, Value.child, Fields.lookup_cons_eq_if, Value.int] at hleads

end ToolFlow

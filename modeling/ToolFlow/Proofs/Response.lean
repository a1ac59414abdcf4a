import Mathlib.Data.List.Basic
import ToolFlow.Proofs.Except
import ToolFlow.Response

/-!
# Legible responses

The text of a response cannot always be read: its content may be a value that has no items, and its
first text block may show an integer that has too many digits to be written. `Legible` says that
neither is so, and this is all that reading takes (`exists_firstText_eq_ok_iff`,
`exists_result_eq_ok_iff`). A response with a text block is never said to have no text
(`HasTextBlock.result_ne`), and one without is never said to have a result
(`hasTextBlock_of_result`).

The content of a response is looked through for its first block of text, and what has items counts
as content: a text is taken for its characters and an object for its names, none of which is a block
of text. A vacant content has no blocks. What is shown as text need not be
one, and is written out then; this is where an integer may be too long.

Whether a response reports an error is a matter of one of its fields and never of its text
(`isError_eq_true_iff`): the field has to be there, and its value must not be vacant. Which values
are vacant is listed in `Value.isVacant_eq_true_iff`.

## Main results

* `exists_firstTextOf_eq_ok_iff`: by induction on the blocks, the only loop that there is.
* `exists_firstText_eq_ok_iff`, `exists_result_eq_ok_iff`: when a text or a result can be had.
* `isError_eq_true_iff`: when a response reports an error.
-/

namespace ToolFlow

/-- **The vacant values, one for each kind that has any**: what is not there, null, false, the
zeros, and the empty text, list and object. No entity is vacant. -/
theorem Value.isVacant_eq_true_iff {v : Value} :
    v.isVacant = true ↔ v = missing ∨ v = null ∨ v = bool false ∨
      (∃ n, v = number n ∧ n.isZero = true) ∨ v = text "" ∨ v = list [] ∨ v = object [] := by
  cases v <;> simp [isVacant]

namespace Response

/-- The value that a content block shows as its text, if it is a text block that has one. -/
def shownValue? (block : Value) : Option Value :=
  match block.field "type", block.field "text" with
  | .text "text", .null => none
  | .text "text", v => some v
  | _, _ => none

/-- A response whose text can be read: the content is vacant or has items, and the first text block
among them shows no integer with too many digits. -/
def Legible (response : Value) : Prop :=
  match response.field "content" with
  | .list items => ∀ v, items.findSome? shownValue? = some v → v.isOverlong = false
  | .text _ => True
  | .object _ => True
  | content => content.isVacant = true

/-! ### Blocks -/

/-- The text of a block is what it shows, written out. -/
theorem blockText?_eq (block : Value) :
    blockText? block = match shownValue? block with
      | none => .ok none
      | some v => (plainText v).map some := by
  unfold blockText? shownValue?
  split <;> simp [*]

/-- **The text of blocks is read exactly when** the first that shows one can be. -/
theorem exists_firstTextOf_eq_ok_iff {blocks : List Value} :
    (∃ text, firstTextOf blocks = .ok text) ↔
      ∀ v, blocks.findSome? shownValue? = some v → v.isOverlong = false := by
  induction blocks with
  | nil => simp [firstTextOf]
  | cons block rest ih =>
    rw [firstTextOf, blockText?_eq, List.findSome?_cons]
    rcases shownValue? block with _ | v
    · exact ih
    · cases hlong : v.isOverlong <;> simp [plainText, hlong, Except.map]

/-- Texts among the items of a content are no text blocks. -/
theorem exists_firstTextOf_map_text_eq_ok (texts : List String) :
    ∃ text, firstTextOf (texts.map .text) = .ok text := by
  refine exists_firstTextOf_eq_ok_iff.2 fun v hv ↦ ?_
  obtain ⟨block, hmem, hshown⟩ := List.exists_of_findSome?_eq_some hv
  obtain ⟨s, -, rfl⟩ := List.mem_map.1 hmem
  simp [shownValue?, Value.field, Value.field?] at hshown

/-! ### Responses -/

/-- **The text of a response is read exactly when** the response is legible. -/
theorem exists_firstText_eq_ok_iff {response : Value} :
    (∃ text, firstText response = .ok text) ↔ Legible response := by
  have hfirst : ∀ items, blocks response = .ok items →
      ((∃ text, firstText response = .ok text) ↔ ∃ text, firstTextOf items = .ok text) :=
    fun items hitems ↦ by rw [firstText, hitems]; rfl
  unfold Legible
  split
  · next items hcontent =>
    have hitems : blocks response = .ok items := by
      cases items <;> simp [blocks, hcontent, Value.isVacant, itemsOf]
    rw [hfirst items hitems, exists_firstTextOf_eq_ok_iff]
  · next s hcontent =>
    have hitems : ∃ texts : List String, blocks response = .ok (texts.map .text) := by
      cases hempty : s.isEmpty with
      | true => exact ⟨[], by simp [blocks, hcontent, Value.isVacant, hempty]⟩
      | false =>
        refine ⟨s.toList.map fun c ↦ String.ofList [c], ?_⟩
        simp [blocks, hcontent, Value.isVacant, hempty, itemsOf]
    obtain ⟨texts, hitems⟩ := hitems
    exact iff_of_true ((hfirst _ hitems).2 (exists_firstTextOf_map_text_eq_ok texts)) trivial
  · next fields hcontent =>
    have hitems : blocks response = .ok ((Fields.names fields).map .text) := by
      cases fields <;> simp [blocks, hcontent, Value.isVacant, itemsOf, Fields.names]
    exact iff_of_true ((hfirst _ hitems).2 (exists_firstTextOf_map_text_eq_ok _)) trivial
  · next hlist htext hobject =>
    cases hvacant : (response.field "content").isVacant with
    | true =>
      have hitems : blocks response = .ok [] := by simp [blocks, hvacant]
      rw [hfirst [] hitems]
      simp [firstTextOf]
    | false =>
      -- nothing else has items
      have hitems : ∃ b, blocks response = .error b := by
        refine ⟨.notIterable (response.field "content").typeName, ?_⟩
        rw [blocks, hvacant]
        revert hlist htext hobject
        cases response.field "content" <;> simp [itemsOf]
      obtain ⟨b, hitems⟩ := hitems
      simp only [Bool.false_eq_true, iff_false, not_exists]
      intro text h
      obtain ⟨items, hok, -⟩ := Except.bind_eq_ok_iff.1 h
      simp [hitems] at hok

/-- **So is its result.** -/
theorem exists_result_eq_ok_iff {response : Value} :
    (∃ v, result response = .ok v) ↔ Legible response := by
  rw [← exists_firstText_eq_ok_iff]
  exact Except.exists_bind_pure_eq_ok_iff

/-! ### Responses that report an error -/

/-- **A response reports an error exactly when** it has the field of that name with something in
it. Whatever else it has, its text included, makes no difference. -/
theorem isError_eq_true_iff {response : Value} :
    isError response = true ↔
      ∃ v, response.field? "isError" = some v ∧ v.isVacant = false := by
  rw [isError]
  rcases response.field? "isError" with _ | v
  · simp [Value.isVacant]
  · simp

/-! ### Responses with a text block -/

/-- Among the content of the response there is a block of text. -/
def HasTextBlock (response : Value) : Prop :=
  ∃ items block, response.field "content" = .list items ∧ block ∈ items ∧
    block.field "type" = .text "text" ∧ block.field "text" ≠ .null

/-- Where a block shows something, a text is found. -/
theorem firstTextOf_ne_ok_none {items : List Value} {block : Value} (hmem : block ∈ items)
    (hshown : (shownValue? block).isSome) : firstTextOf items ≠ .ok none := by
  induction items with
  | nil => simp at hmem
  | cons first rest ih =>
    rw [firstTextOf, blockText?_eq]
    rcases hfirst : shownValue? first with _ | v
    · rcases List.mem_cons.1 hmem with rfl | hmem
      · simp [hfirst] at hshown
      · exact ih hmem
    · cases hlong : v.isOverlong <;> simp [plainText, hlong, Except.map]

/-- A response with a text block is there. -/
theorem HasTextBlock.not_isNull {response : Value} (h : HasTextBlock response) :
    response.isNull = false := by
  obtain ⟨items, block, hcontent, -⟩ := h
  cases response <;> simp_all [Value.field, Value.field?, Value.isNull]

/-- What is not there has no text block. -/
theorem not_hasTextBlock_null : ¬HasTextBlock .null :=
  fun h ↦ Bool.false_ne_true h.not_isNull.symm

/-- A block shows something exactly when it says that it is a text, and has one. -/
theorem shownValue?_isSome_iff {block : Value} :
    (shownValue? block).isSome = true ↔
      block.field "type" = .text "text" ∧ block.field "text" ≠ .null := by
  unfold shownValue?
  split
  · next htype htext => simp [htext]
  · next v htype hne => simpa [htype] using hne
  · next hnone _ =>
    simp only [Option.isSome_none, Bool.false_eq_true, false_iff, not_and]
    exact fun htype ↦ (hnone htype).elim

/-- A text that was found is that of a block. -/
theorem exists_isSome_of_firstTextOf {items : List Value} {text : String}
    (h : firstTextOf items = .ok (some text)) :
    ∃ block ∈ items, (shownValue? block).isSome = true := by
  induction items with
  | nil => simp [firstTextOf] at h
  | cons first rest ih =>
    rw [firstTextOf, blockText?_eq] at h
    rcases hfirst : shownValue? first with _ | v
    · rw [hfirst] at h
      obtain ⟨block, hmem, hshown⟩ := ih h
      exact ⟨block, List.mem_cons_of_mem _ hmem, hshown⟩
    · exact ⟨first, List.mem_cons_self, by simp [hfirst]⟩

/-- Only a list has blocks of text among its items. -/
theorem eq_list_of_itemsOf {content : Value} {items : List Value} {block : Value}
    (hitems : itemsOf content = .ok items) (hmem : block ∈ items)
    (hshown : (shownValue? block).isSome = true) : content = .list items := by
  have htext : ∀ s : String, block ≠ .text s := by
    rintro s rfl
    simp [shownValue?, Value.field, Value.field?] at hshown
  cases content with
  | list items' => rw [Except.ok.inj hitems]
  | text s =>
    obtain rfl := Except.ok.inj hitems
    obtain ⟨c, -, rfl⟩ := List.mem_map.1 hmem
    exact absurd rfl (htext _)
  | object fields =>
    obtain rfl := Except.ok.inj hitems
    obtain ⟨name, -, rfl⟩ := List.mem_map.1 hmem
    exact absurd rfl (htext _)
  | _ => simp [itemsOf] at hitems

/-- A response with a result has a text block. -/
theorem hasTextBlock_of_result {response v : Value} (h : result response = .ok (some v)) :
    HasTextBlock response := by
  obtain ⟨text?, hfirst, hdecode⟩ := Except.bind_eq_ok_iff.1 h
  obtain ⟨text, rfl, -⟩ : ∃ text, text? = some text ∧ decodeText text = v := by
    simpa [pure, Except.pure] using hdecode
  obtain ⟨items, hblocks, hfirst⟩ := Except.bind_eq_ok_iff.1 hfirst
  obtain ⟨block, hmem, hshown⟩ := exists_isSome_of_firstTextOf hfirst
  have hitems : itemsOf (response.field "content") = .ok items := by
    dsimp only [blocks] at hblocks
    split at hblocks
    · obtain rfl := Except.ok.inj hblocks
      simp at hmem
    · exact hblocks
  obtain ⟨htype, htext⟩ := shownValue?_isSome_iff.1 hshown
  exact ⟨items, block, eq_list_of_itemsOf hitems hmem hshown, hmem, htype, htext⟩

/-- A response with a text block has a result, if it can be read. -/
theorem HasTextBlock.result_ne {response : Value} (h : HasTextBlock response) :
    result response ≠ .ok none := by
  obtain ⟨items, block, hcontent, hmem, htype, htext⟩ := h
  have hblocks : blocks response = .ok items := by
    cases items with
    | nil => simp at hmem
    | cons => simp [blocks, hcontent, Value.isVacant, itemsOf]
  have hshown : (shownValue? block).isSome = true := shownValue?_isSome_iff.2 ⟨htype, htext⟩
  intro hnone
  obtain ⟨text, hfirst, hdecode⟩ := Except.bind_eq_ok_iff.1 hnone
  obtain rfl : text = none := by simpa [pure, Except.pure] using hdecode
  rw [firstText, hblocks] at hfirst
  exact firstTextOf_ne_ok_none hmem hshown hfirst

end Response

end ToolFlow

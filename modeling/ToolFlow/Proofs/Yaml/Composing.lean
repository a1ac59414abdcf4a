import ToolFlow.Proofs.State
import ToolFlow.Yaml.Node

/-!
# What stops the composition of nodes

Tokens that make no document are no YAML. Otherwise composition is stopped where the tokens end, by
the obstacle that ended them (`tokensOf_of_outlines`).

So the composition of nodes adds no way of failing to those of the tokens. It is stated for any
setting, which holds the obstacle after the last token, and `StopsAt` says of a piece of work that
it is stopped by this obstacle or by what is no YAML. The property is closed under sequencing and
holds of each primitive, of which only looking at the next token can meet the obstacle
(`stopsAt_peek`).

The functions that read nodes and their parts call each other, and all of them give up when the
bound on the nesting is used up. `NodesStop` bundles what is to be shown of all of them at one
bound. One lemma for each function takes it from a bound to the next, and `nodesStop` is the
induction. A function that is changed, or one that is added, is one lemma and one field.
-/

namespace ToolFlow.Yaml

namespace Composing

/-- Reading that is stopped by what is no YAML and by the obstacle after the last token only. -/
abbrev StopsAt {α : Type} (obstacle : Obstacle) (m : Composing α) : Prop :=
  m.Keeps (fun _ ↦ True) fun o ↦ o = .malformed ∨ o = obstacle

variable {setting : Composition.Setting} {obstacle : Obstacle} {α : Type} {fuel : ℕ}
  {inBlock indentless isFirst inMapping : Bool}

/-! ### Single steps -/

/-- What is no YAML is one of the two ways to stop. -/
theorem stopsAt_fail : StopsAt obstacle (fail : Composing α) :=
  StateT.obeys_throw (.inl rfl)

/-- **Looking at the next token is where the obstacle is met**, if there is no token left. -/
theorem stopsAt_peek : StopsAt setting.obstacle (peek setting) := by
  refine StateT.keeps_get_bind fun state _ ↦ ?_
  split
  · exact StateT.keeps_pure
  · exact StateT.obeys_throw (.inr rfl)

/-- Passing over a token stops nowhere. -/
theorem stopsAt_drop : StopsAt obstacle drop :=
  StateT.keeps_modify fun _ _ ↦ trivial

/-- A tag with a handle that was not declared is no YAML. -/
theorem stopsAt_wholeTag {handle : Option String} {suffix : String} :
    StopsAt obstacle (wholeTag setting handle suffix) := by
  unfold wholeTag
  split
  · exact StateT.keeps_pure
  · split
    · exact StateT.keeps_pure
    · exact stopsAt_fail

theorem stopsAt_properties : StopsAt setting.obstacle (properties setting) := by
  refine stopsAt_peek.bind fun _ ↦ ?_
  split
  · refine stopsAt_drop.bind fun _ ↦ stopsAt_peek.bind fun _ ↦ ?_
    split
    · exact stopsAt_drop.bind fun _ ↦ stopsAt_wholeTag.bind fun _ ↦ StateT.keeps_pure
    · exact StateT.keeps_pure
  · refine stopsAt_drop.bind fun _ ↦ stopsAt_peek.bind fun _ ↦ ?_
    split
    · exact stopsAt_drop.bind fun _ ↦ stopsAt_wholeTag.bind fun _ ↦ StateT.keeps_pure
    · exact stopsAt_wholeTag.bind fun _ ↦ StateT.keeps_pure
  · exact StateT.keeps_pure

theorem stopsAt_add {name : Option String} {node : Node} : StopsAt obstacle (add name node) := by
  refine StateT.keeps_get_bind fun state _ ↦ ?_
  extract_lets n number
  split
  · exact (StateT.keeps_set trivial).bind fun _ ↦ StateT.keeps_pure
  · refine StateT.keeps_ite ?_ ?_
    · exact stopsAt_fail.bind fun _ ↦ StateT.keeps_pure
    · exact (StateT.keeps_set trivial).bind fun _ ↦ StateT.keeps_pure

/-- A collection stops where its parts do. -/
theorem stopsAt_addAround {name : Option String} {parts : Composing Node}
    (h : StopsAt obstacle parts) : StopsAt obstacle (addAround name parts) :=
  stopsAt_add.bind fun _ ↦ h.bind fun _ ↦
    (StateT.keeps_modify fun _ _ ↦ trivial).bind fun _ ↦ StateT.keeps_pure

theorem stopsAt_absent : StopsAt obstacle absent :=
  stopsAt_add

/-- An alias without an anchor is no YAML. -/
theorem stopsAt_aliased {name : String} : StopsAt obstacle (aliased name) := by
  refine StateT.keeps_get_bind fun state _ ↦ ?_
  split
  · exact StateT.keeps_pure
  · exact stopsAt_fail

/-! ### Nodes -/

/-- Within a bound on the nesting, nodes and their parts are read until they are stopped in these
ways. -/
structure NodesStop (setting : Composition.Setting) (fuel : ℕ) : Prop where
  node : ∀ inBlock indentless, StopsAt setting.obstacle
    (Composing.node setting inBlock indentless fuel)
  blockItems : StopsAt setting.obstacle (Composing.blockItems setting fuel)
  indentlessItems : StopsAt setting.obstacle (Composing.indentlessItems setting fuel)
  blockEntries : StopsAt setting.obstacle (Composing.blockEntries setting fuel)
  blockValue : StopsAt setting.obstacle (Composing.blockValue setting fuel)
  flowItems : ∀ isFirst, StopsAt setting.obstacle (Composing.flowItems setting isFirst fuel)
  flowItem : StopsAt setting.obstacle (Composing.flowItem setting fuel)
  flowPairItem : StopsAt setting.obstacle (Composing.flowPairItem setting fuel)
  flowValue : ∀ inMapping, StopsAt setting.obstacle (Composing.flowValue setting inMapping fuel)
  flowEntries : ∀ isFirst, StopsAt setting.obstacle (Composing.flowEntries setting isFirst fuel)
  flowPair : StopsAt setting.obstacle (Composing.flowPair setting fuel)

section Step

variable (ih : NodesStop setting fuel)
include ih

/-- A node is an alias, or properties and then a collection or a scalar; its parts are within a
smaller bound. -/
theorem NodesStop.node_succ :
    StopsAt setting.obstacle (Composing.node setting inBlock indentless (fuel + 1)) := by
  unfold Composing.node
  refine stopsAt_peek.bind fun token ↦ ?_
  split
  · exact stopsAt_drop.bind fun _ ↦ stopsAt_aliased
  · refine stopsAt_properties.bind fun props ↦ stopsAt_peek.bind fun token ↦ ?_
    extract_lets sequence mapping
    have hsequence {items : Composing (List ℕ)} (h : StopsAt setting.obstacle items) :
        StopsAt setting.obstacle (sequence items) :=
      stopsAt_addAround h.map
    have hmapping {entries : Composing (List (ℕ × ℕ))} (h : StopsAt setting.obstacle entries) :
        StopsAt setting.obstacle (mapping entries) :=
      stopsAt_addAround h.map
    split
    · exact hsequence ih.indentlessItems
    · exact stopsAt_drop.bind fun _ ↦ stopsAt_add
    · exact stopsAt_drop.bind fun _ ↦ hsequence (ih.flowItems true)
    · exact stopsAt_drop.bind fun _ ↦ hmapping (ih.flowEntries true)
    · exact stopsAt_drop.bind fun _ ↦ hsequence ih.blockItems
    · exact stopsAt_drop.bind fun _ ↦ hmapping ih.blockEntries
    · exact StateT.keeps_ite stopsAt_fail stopsAt_add

theorem NodesStop.blockItems_succ :
    StopsAt setting.obstacle (Composing.blockItems setting (fuel + 1)) := by
  unfold Composing.blockItems
  refine stopsAt_peek.bind fun token ↦ ?_
  split
  · refine stopsAt_drop.bind fun _ ↦ stopsAt_peek.bind fun token ↦ ?_
    extract_lets goOn
    have hgoOn (item : ℕ) : StopsAt setting.obstacle (goOn item) :=
      ih.blockItems.bind fun _ ↦ StateT.keeps_pure
    split
    · exact stopsAt_absent.bind hgoOn
    · exact stopsAt_absent.bind hgoOn
    · exact (ih.node true false).bind hgoOn
  · exact stopsAt_drop.bind fun _ ↦ StateT.keeps_pure
  · exact stopsAt_fail

theorem NodesStop.indentlessItems_succ :
    StopsAt setting.obstacle (Composing.indentlessItems setting (fuel + 1)) := by
  unfold Composing.indentlessItems
  refine stopsAt_peek.bind fun token ↦ ?_
  split
  · refine stopsAt_drop.bind fun _ ↦ stopsAt_peek.bind fun token ↦ ?_
    extract_lets goOn
    have hgoOn (item : ℕ) : StopsAt setting.obstacle (goOn item) :=
      ih.indentlessItems.bind fun _ ↦ StateT.keeps_pure
    exact StateT.keeps_ite (stopsAt_absent.bind hgoOn) ((ih.node true false).bind hgoOn)
  · exact StateT.keeps_pure

theorem NodesStop.blockEntries_succ :
    StopsAt setting.obstacle (Composing.blockEntries setting (fuel + 1)) := by
  unfold Composing.blockEntries
  refine stopsAt_peek.bind fun token ↦ ?_
  split
  · refine stopsAt_drop.bind fun _ ↦ stopsAt_peek.bind fun token ↦ ?_
    extract_lets goOn
    have hgoOn (key : ℕ) : StopsAt setting.obstacle (goOn key) :=
      ih.blockValue.bind fun _ ↦ ih.blockEntries.bind fun _ ↦ StateT.keeps_pure
    exact StateT.keeps_ite (stopsAt_absent.bind hgoOn) ((ih.node true true).bind hgoOn)
  · exact stopsAt_drop.bind fun _ ↦ StateT.keeps_pure
  · exact stopsAt_fail

theorem NodesStop.blockValue_succ :
    StopsAt setting.obstacle (Composing.blockValue setting (fuel + 1)) := by
  unfold Composing.blockValue
  refine stopsAt_peek.bind fun token ↦ ?_
  split
  · exact stopsAt_drop.bind fun _ ↦ stopsAt_peek.bind fun _ ↦
      StateT.keeps_ite stopsAt_absent (ih.node true true)
  · exact stopsAt_absent

theorem NodesStop.flowItems_succ :
    StopsAt setting.obstacle (Composing.flowItems setting isFirst (fuel + 1)) := by
  unfold Composing.flowItems
  refine stopsAt_peek.bind fun token ↦ ?_
  split
  · exact stopsAt_drop.bind fun _ ↦ StateT.keeps_pure
  · exact stopsAt_drop.bind fun _ ↦ ih.flowItem
  · exact ih.flowItem
  · exact stopsAt_fail

theorem NodesStop.flowItem_succ :
    StopsAt setting.obstacle (Composing.flowItem setting (fuel + 1)) := by
  unfold Composing.flowItem
  refine stopsAt_peek.bind fun token ↦ ?_
  split
  · exact stopsAt_drop.bind fun _ ↦ StateT.keeps_pure
  · exact stopsAt_drop.bind fun _ ↦ (stopsAt_addAround ih.flowPairItem).bind fun _ ↦
      (ih.flowItems false).bind fun _ ↦ StateT.keeps_pure
  · exact (ih.node false false).bind fun _ ↦ (ih.flowItems false).bind fun _ ↦ StateT.keeps_pure

theorem NodesStop.flowPairItem_succ :
    StopsAt setting.obstacle (Composing.flowPairItem setting (fuel + 1)) := by
  unfold Composing.flowPairItem
  refine stopsAt_peek.bind fun token ↦ ?_
  extract_lets goOn
  have hgoOn (key : ℕ) : StopsAt setting.obstacle (goOn key) :=
    (ih.flowValue false).bind fun _ ↦ StateT.keeps_pure
  exact StateT.keeps_ite (stopsAt_absent.bind hgoOn) ((ih.node false false).bind hgoOn)

theorem NodesStop.flowValue_succ :
    StopsAt setting.obstacle (Composing.flowValue setting inMapping (fuel + 1)) := by
  unfold Composing.flowValue
  refine stopsAt_peek.bind fun token ↦ ?_
  split
  · exact stopsAt_drop.bind fun _ ↦ stopsAt_peek.bind fun _ ↦
      StateT.keeps_ite stopsAt_absent (ih.node false false)
  · exact stopsAt_absent

theorem NodesStop.flowEntries_succ :
    StopsAt setting.obstacle (Composing.flowEntries setting isFirst (fuel + 1)) := by
  unfold Composing.flowEntries
  refine stopsAt_peek.bind fun token ↦ ?_
  split
  · exact stopsAt_drop.bind fun _ ↦ StateT.keeps_pure
  · exact stopsAt_drop.bind fun _ ↦ ih.flowPair
  · exact ih.flowPair
  · exact stopsAt_fail

theorem NodesStop.flowPair_succ :
    StopsAt setting.obstacle (Composing.flowPair setting (fuel + 1)) := by
  unfold Composing.flowPair
  refine stopsAt_peek.bind fun token ↦ ?_
  split
  · exact stopsAt_drop.bind fun _ ↦ StateT.keeps_pure
  · refine stopsAt_drop.bind fun _ ↦ stopsAt_peek.bind fun token ↦ ?_
    extract_lets goOn
    have hgoOn (key : ℕ) : StopsAt setting.obstacle (goOn key) :=
      (ih.flowValue true).bind fun _ ↦ (ih.flowEntries false).bind fun _ ↦ StateT.keeps_pure
    exact StateT.keeps_ite (stopsAt_absent.bind hgoOn) ((ih.node false false).bind hgoOn)
  · exact (ih.node false false).bind fun _ ↦ stopsAt_absent.bind fun _ ↦
      (ih.flowEntries false).bind fun _ ↦ StateT.keeps_pure

end Step

/-- **Nodes stop at the obstacle, whatever the bound**, by induction on it. -/
theorem nodesStop (setting : Composition.Setting) (fuel : ℕ) : NodesStop setting fuel := by
  induction fuel with
  | zero => constructor <;> intros <;> exact stopsAt_fail
  | succ fuel ih =>
    exact
      { node := fun _ _ ↦ ih.node_succ
        blockItems := ih.blockItems_succ
        indentlessItems := ih.indentlessItems_succ
        blockEntries := ih.blockEntries_succ
        blockValue := ih.blockValue_succ
        flowItems := fun _ ↦ ih.flowItems_succ
        flowItem := ih.flowItem_succ
        flowPairItem := ih.flowPairItem_succ
        flowValue := fun _ ↦ ih.flowValue_succ
        flowEntries := fun _ ↦ ih.flowEntries_succ
        flowPair := ih.flowPair_succ }

/-! ### Documents -/

theorem stopsAt_directives {versioned : Bool} {handles : List (String × String)} :
    StopsAt setting.obstacle (directives setting versioned handles fuel) := by
  induction fuel generalizing versioned handles with
  | zero => exact stopsAt_fail
  | succ fuel ih =>
    unfold directives
    refine stopsAt_peek.bind fun token ↦ ?_
    split
    · exact stopsAt_drop.bind fun _ ↦ StateT.keeps_ite stopsAt_fail ih
    · exact stopsAt_drop.bind fun _ ↦ StateT.keeps_ite stopsAt_fail ih
    · exact stopsAt_drop.bind fun _ ↦ ih
    · exact StateT.keeps_pure

theorem stopsAt_dropEnds : StopsAt setting.obstacle (dropEnds setting fuel) := by
  induction fuel with
  | zero => exact stopsAt_fail
  | succ fuel ih =>
    unfold dropEnds
    refine stopsAt_peek.bind fun token ↦ ?_
    split
    · exact stopsAt_drop.bind fun _ ↦ ih
    · exact StateT.keeps_pure

theorem stopsAt_content : StopsAt setting.obstacle (content setting fuel) := by
  refine stopsAt_peek.bind fun token ↦ ?_
  split
  · exact stopsAt_absent
  · exact stopsAt_absent
  · exact stopsAt_absent
  · exact stopsAt_absent
  · exact (nodesStop setting fuel).node true false

theorem stopsAt_endDocument : StopsAt setting.obstacle (endDocument setting) := by
  refine stopsAt_peek.bind fun token ↦ ?_
  split
  · exact stopsAt_drop
  · exact StateT.keeps_pure

theorem stopsAt_bareDocument : StopsAt setting.obstacle (bareDocument setting fuel) :=
  ((nodesStop setting fuel).node true false).bind fun _ ↦
    stopsAt_endDocument.bind fun _ ↦ StateT.keeps_pure

theorem stopsAt_markedDocument? : StopsAt setting.obstacle (markedDocument? setting fuel) := by
  refine stopsAt_dropEnds.bind fun _ ↦ stopsAt_peek.bind fun token ↦ ?_
  split
  · exact StateT.keeps_pure
  · refine stopsAt_directives.bind fun handles ↦ stopsAt_peek.bind fun token ↦ ?_
    split
    · exact stopsAt_drop.bind fun _ ↦
        (@stopsAt_content { setting with handles := handles } fuel).bind fun _ ↦
          stopsAt_endDocument.bind fun _ ↦ StateT.keeps_pure
    · exact stopsAt_fail

/-- A document stops where its directives, its content or its end do. -/
theorem stopsAt_document? : StopsAt setting.obstacle (document? setting isFirst fuel) := by
  refine stopsAt_peek.bind fun token ↦ ?_
  split
  · exact stopsAt_markedDocument?
  · exact stopsAt_markedDocument?
  · exact stopsAt_markedDocument?
  · exact stopsAt_markedDocument?
  · exact stopsAt_bareDocument.map

end Composing

variable {o : Obstacle}

/-- What follows the last document that could be composed is one of the two ways to stop. -/
theorem eq_of_documentsFrom {setting : Composition.Setting} {size fuel : ℕ} {isFirst : Bool}
    {tokens : List Token} (h : (documentsFrom setting size isFirst fuel tokens).2 = some o) :
    o = .malformed ∨ o = setting.obstacle := by
  induction fuel generalizing isFirst tokens with
  | zero => exact .inl (Option.some.inj h).symm
  | succ fuel ih =>
    unfold documentsFrom at h
    split at h
    · next e he =>
      obtain rfl := Option.some.inj h
      exact (Composing.stopsAt_document? _ trivial).2 e he
    · cases h
    · exact ih h

/-- The obstacle that ends the documents of a text is one that ends its tokens, if it says more than
that the text is no YAML. -/
theorem tokensOf_of_outlines {text : String} (h : (outlines text).2 = some o) :
    o = .malformed ∨ (tokensOf text).2 = some o := by
  have hend : o = .malformed ∨ o = (tokensOf text).2.getD .malformed := eq_of_documentsFrom h
  cases htokens : (tokensOf text).2 with
  | none => exact .inl (by simpa [htokens] using hend)
  | some last => exact hend.imp_right fun ho ↦ by rw [ho, htokens, Option.getD_some]

end ToolFlow.Yaml

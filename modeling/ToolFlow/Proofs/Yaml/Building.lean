import ToolFlow.Proofs.Yaml.Composing
import ToolFlow.Proofs.Yaml.Scanning
import ToolFlow.Yaml.Document

/-!
# What stops the reading of documents

Beyond a text that is no YAML, reading is stopped by letters that are no tokens, or by a scalar
whose text does not convert under the tag of a node (`Nodes.Resist`). Mappings that take over
entries change the nodes of a document, but no text and no tag under which a text could fail to
convert (`Nodes.ComeFrom`).

## The invariant

Building is stateful work over the nodes of a document, and an obstacle has to be said of the nodes
as the text gives them, not of the ones that are left by then. So the invariant is a relation
between the two. It keeps the text of each scalar, and the tag of each node except that one may
become the tag of a plain text: a key that is the sign for a default value is made mere text
(`keeps_plainKey`). Under that tag every text converts (`scalarOf_text`), which is why the exception
does no harm.

`KeepsSource` says of a piece of work that it keeps the invariant, and that what stops it is either
no YAML or an obstacle of the nodes that there were at the start. It is stated twice, once for the
entries that mappings take over from others and once for building proper, since these work on
different states. Both are closed under sequencing, so there is one lemma for each function, in the
order in which the functions are defined, and each follows the function's own shape.

The bound on the depth of the work is a matter of termination only. Where it is used up the outcome
counts as no YAML, so that nothing need be said about whether it suffices.
-/

namespace ToolFlow.Yaml

/-- The nodes of a document resist being read: a text does not convert under a tag, or there is a
mapping in place of the text of a timestamp, or default values that lead on without end. -/
inductive Nodes.Resist (nodes : Nodes) : Obstacle → Prop
  | scalar {m n : ℕ} {tag s : String} {o : Obstacle} (htext : nodes.node n = .scalar tag s)
      (h : scalarOf (m + 1) (nodes.node m).tag s = .error o) : Resist nodes o
  | timestampMapping {n : ℕ} (h : (nodes.node n).tag = Tag.timestamp) :
      Resist nodes .timestampMapping
  | endlessDefault {n : ℕ} (h : (nodes.node n).tag = Tag.value) : Resist nodes .endlessDefault

/-- Nodes that come from others: scalars have kept their texts, and nodes their tags, if they have
not become mere text. -/
structure Nodes.ComeFrom (start nodes : Nodes) : Prop where
  text : ∀ n tag s, nodes.node n = .scalar tag s → ∃ tag, start.node n = .scalar tag s
  tag : ∀ n, (nodes.node n).tag = (start.node n).tag ∨ (nodes.node n).tag = Tag.text

variable {start nodes : Nodes} {n fuel : ℕ}

/-- Nodes come from themselves. -/
theorem Nodes.comeFrom_self : Nodes.ComeFrom start start :=
  { text := fun _ tag _ h ↦ ⟨tag, h⟩
    tag := fun _ ↦ .inl rfl }

/-- A tag that is not that of a plain text was there from the start. -/
theorem Nodes.ComeFrom.tag_eq (h : Nodes.ComeFrom start nodes) {tag : String}
    (htag : (nodes.node n).tag = tag) (hne : tag ≠ Tag.text) : (start.node n).tag = tag := by
  rcases h.tag n with hsame | htext
  · rw [← hsame, htag]
  · exact absurd (htag.symm.trans htext) hne

/-- Putting a node in one place leaves the others, and outside of the bounds it leaves all. -/
theorem Nodes.node_setIfInBounds {m : ℕ} {node : Node} :
    Nodes.node (nodes.setIfInBounds n node) m = node ∧ m = n ∨
      Nodes.node (nodes.setIfInBounds n node) m = nodes.node m := by
  unfold Nodes.node
  rw [Array.getElem?_setIfInBounds]
  split
  · next h =>
    split
    · exact .inl ⟨rfl, h.symm⟩
    · next hsize => exact .inr (by rw [← h, Array.getElem?_eq_none (Nat.not_lt.1 hsize)])
  · exact .inr rfl

/-- A node may give way to one whose text and tag it has had. -/
theorem Nodes.ComeFrom.replace (h : Nodes.ComeFrom start nodes) {node : Node}
    (htext : ∀ tag s, node = .scalar tag s → ∃ tag, start.node n = .scalar tag s)
    (htag : node.tag = (start.node n).tag ∨ node.tag = Tag.text) :
    Nodes.ComeFrom start (nodes.setIfInBounds n node) := by
  constructor
  · intro m tag s hm
    rcases @Nodes.node_setIfInBounds nodes n m node with ⟨hnode, rfl⟩ | hnode
    · exact htext tag s (hnode.symm.trans hm)
    · exact h.text m tag s (hnode.symm.trans hm)
  · intro m
    rcases @Nodes.node_setIfInBounds nodes n m node with ⟨hnode, rfl⟩ | hnode
    · rw [hnode]
      exact htag
    · rw [hnode]
      exact h.tag m

/-! ### Taking over entries -/

namespace Settling

/-- Work on nodes that keeps to where they come from and is stopped by what is no YAML only. -/
abbrev KeepsSource {α : Type} (start : Nodes) (m : Settling α) : Prop :=
  StateT.Keeps (Nodes.ComeFrom start) (· = .malformed) m

theorem keeps_malformed {α : Type} : KeepsSource start (liftM malformed : Settling α) :=
  StateT.obeys_throw rfl

theorem keeps_entries : KeepsSource start (entries n) := by
  refine StateT.keeps_get_bind fun nodes _ ↦ ?_
  split
  · exact StateT.keeps_pure
  · exact StateT.keeps_pure

/-- Other entries are no text, and the tag stays. -/
theorem keeps_replaceEntries {entries : List (ℕ × ℕ)} :
    KeepsSource start (replaceEntries n entries) :=
  StateT.keeps_get_bind fun _ hnodes ↦ StateT.keeps_modify fun _ h ↦
    h.replace (fun _ _ hscalar ↦ nomatch hscalar) (hnodes.tag n)

/-- Striking out a merge sign takes an entry from a mapping, and leaves texts and tags alone. -/
theorem keeps_strike : KeepsSource start (strike n) := by
  refine StateT.keeps_get_bind fun nodes _ ↦ keeps_entries.bind fun entries ↦ ?_
  split
  · exact StateT.keeps_pure
  · exact keeps_replaceEntries.bind fun _ ↦ StateT.keeps_pure

/-- What becomes mere text keeps the text. -/
theorem keeps_plainKey {key : ℕ} : KeepsSource start (plainKey key) := by
  refine StateT.keeps_get_bind fun nodes hnodes ↦ ?_
  split
  · next tag s hkey =>
    split
    · refine StateT.keeps_modify fun _ h ↦ h.replace (fun _ _ hscalar ↦ ?_) (.inr rfl)
      obtain ⟨-, rfl⟩ := Node.scalar.inj hscalar
      exact hnodes.text key tag s hkey
    · exact StateT.keeps_pure
  · exact StateT.keeps_pure

/-- Within a bound on how far signs lead on, entries are settled and taken over in this way. -/
theorem keeps_settle_takeOver (fuel : ℕ) :
    (∀ n, KeepsSource start (settle fuel n)) ∧ ∀ n, KeepsSource start (takeOver fuel n) := by
  induction fuel with
  | zero => exact ⟨fun _ ↦ keeps_malformed, fun _ ↦ keeps_malformed⟩
  | succ fuel ih =>
    obtain ⟨hsettle, htakeOver⟩ := ih
    refine ⟨fun n ↦ ?_, fun n ↦ ?_⟩
    · unfold settle
      refine (htakeOver n).bind fun taken ↦ keeps_entries.bind fun entries ↦ ?_
      exact (StateT.keeps_forM fun _ ↦ keeps_plainKey).bind fun _ ↦
        keeps_replaceEntries.bind fun _ ↦ StateT.keeps_pure
    · unfold takeOver
      refine keeps_strike.bind fun found ↦ ?_
      split
      · exact StateT.keeps_pure
      · refine StateT.keeps_get_bind fun nodes _ ↦ ?_
        extract_lets goOn
        have hgoOn (first : List (ℕ × ℕ)) : KeepsSource start (goOn first) :=
          (htakeOver n).bind fun _ ↦ StateT.keeps_pure
        split
        · exact (hsettle _).bind hgoOn
        · refine (StateT.keeps_mapM fun item ↦ ?_).bind fun lists ↦ StateT.keeps_pure.bind hgoOn
          refine StateT.keeps_get_bind fun nodes _ ↦ ?_
          split
          · exact hsettle item
          · exact keeps_malformed
        · exact keeps_malformed.bind hgoOn

/-- **The entries of a mapping, with those it takes over, keep to where they come from.** -/
theorem keeps_settledEntries (n : ℕ) : KeepsSource start (settledEntries n) :=
  StateT.keeps_get_bind fun _ _ ↦ (keeps_settle_takeOver _).1 n

end Settling

/-! ### Building data -/

namespace Build

/-- Building that keeps to where the nodes come from and is stopped by what is no YAML, or by nodes
that resist. -/
abbrev KeepsSource {α : Type} (start : Nodes) (m : Build α) : Prop :=
  StateT.Keeps (fun b ↦ Nodes.ComeFrom start b.nodes)
    (fun o ↦ o = .malformed ∨ start.Resist o) m

theorem keeps_malformed {α : Type} : KeepsSource start (liftM malformed : Build α) :=
  StateT.obeys_throw (.inl rfl)

/-- The text of a node is one that the document has. Without end it leads on only through the signs
for default values. -/
theorem obeys_textOf (h : 0 < fuel ∨ ∃ key, (start.node key).tag = Tag.value) :
    (textOf fuel n).Obeys (fun b ↦ Nodes.ComeFrom start b.nodes)
      (fun o ↦ o = .malformed ∨ start.Resist o)
      fun s ↦ ∃ m tag, start.node m = .scalar tag s := by
  induction fuel generalizing n with
  | zero =>
    obtain ⟨key, hkey⟩ := h.resolve_left (Nat.lt_irrefl 0)
    exact StateT.obeys_throw (.inr (.endlessDefault hkey))
  | succ fuel ih =>
    unfold textOf
    refine StateT.obeys_get.bind fun b hb ↦ ?_
    split
    · next tag s hnode => exact StateT.obeys_pure ⟨n, hb.text n tag s hnode⟩
    · exact StateT.obeys_throw (.inl rfl)
    · split
      · next key value hfind =>
        have htag : (b.nodes.node key).tag = Tag.value := by simpa using List.find?_some hfind
        exact ih (.inr ⟨key, hb.tag_eq htag (by decide)⟩)
      · exact StateT.obeys_throw (.inl rfl)

/-- Every text converts under the tag of a plain text. -/
theorem scalarOf_text {payload : ℕ} {s : String} : scalarOf payload Tag.text s = .ok (.text s) :=
  rfl

/-- A text fails to convert only under a tag that the document has. -/
theorem keeps_scalarOf {m : ℕ} {tag s : String} (h : Nodes.ComeFrom start nodes)
    (htext : start.node m = .scalar tag s) :
    KeepsSource start (liftM (scalarOf (n + 1) (nodes.node n).tag s) : Build Scalar) := by
  refine StateT.keeps_liftM fun o ho ↦ ?_
  rcases h.tag n with htag | htag
  · exact .inr (.scalar htext (htag ▸ ho))
  · rw [htag, scalarOf_text] at ho
    cases ho

/-- **A scalar converts, or it is an obstacle of the nodes at the start.** -/
theorem keeps_scalar : KeepsSource start (scalar n) := by
  refine StateT.keeps_get_bind fun b hb ↦ ?_
  -- there is fuel for one node more than the document has, so the first one is looked at
  refine (obeys_textOf (.inl (Nat.succ_pos _))).bind fun s hs ↦ ?_
  obtain ⟨m, tag, htext⟩ := hs
  split
  · exact keeps_scalarOf hb htext
  · split
    · next htag =>
      exact StateT.obeys_throw (.inr (.timestampMapping
        (hb.tag_eq (beq_iff_eq.1 htag) (by decide))))
    · exact keeps_scalarOf hb htext

theorem keeps_remember {part : Part} : KeepsSource start (remember n part) :=
  StateT.Keeps.bind (StateT.keeps_modify fun _ h ↦ h) fun _ ↦ StateT.keeps_pure

theorem keeps_meet : KeepsSource start (meet n) :=
  StateT.keeps_get_bind fun _ _ ↦
    StateT.Keeps.bind (StateT.keeps_modify fun _ h ↦ h) fun _ ↦ StateT.keeps_pure

theorem keeps_part : KeepsSource start (part n) := by
  refine StateT.keeps_get_bind fun b _ ↦ ?_
  split
  · exact StateT.keeps_pure
  · exact StateT.keeps_ite (keeps_meet.bind fun _ ↦ keeps_remember)
      (StateT.keeps_ite (keeps_scalar.bind fun _ ↦ keeps_remember) keeps_malformed)

theorem keeps_entries {found : List (Scalar × Part)} {new : List (ℕ × ℕ)} :
    KeepsSource start (entries found new) := by
  induction new generalizing found with
  | nil => exact StateT.keeps_pure
  | cons entry rest ih =>
    unfold entries
    refine keeps_part.bind fun key ↦ ?_
    split
    · exact keeps_part.bind fun _ ↦ ih
    · exact keeps_malformed

theorem keeps_mappingEntries : KeepsSource start (mappingEntries n) := by
  refine StateT.keeps_get_bind fun b hb ↦ ?_
  split
  · have hsettled := @Settling.keeps_settledEntries start n b.nodes hb
    refine (StateT.obeys_liftM fun o ho ↦ .inl (hsettled.2 o ho)).bind fun ⟨all, nodes⟩ hok ↦ ?_
    exact StateT.Keeps.bind (StateT.keeps_set (hsettled.1 all nodes hok).2) fun _ ↦ keeps_entries
  · exact keeps_malformed

theorem keeps_node : KeepsSource start (node n) :=
  StateT.keeps_get_bind fun _ _ ↦ StateT.keeps_pure

theorem keeps_items : KeepsSource start (items n) := by
  refine keeps_node.bind fun node ↦ ?_
  split
  · exact StateT.keeps_pure
  · exact keeps_malformed

theorem keeps_pair : KeepsSource start (pair n) := by
  refine keeps_node.bind fun node ↦ ?_
  split
  · exact keeps_part.bind fun _ ↦ keeps_part.bind fun _ ↦ StateT.keeps_pure
  · exact keeps_malformed

theorem keeps_collection : KeepsSource start (collection n) := by
  refine keeps_node.bind fun _ ↦
    StateT.keeps_ite ?_ (StateT.keeps_ite ?_ (StateT.keeps_ite ?_ ?_))
  · exact keeps_mappingEntries.bind fun _ ↦ StateT.keeps_pure
  · exact keeps_mappingEntries.bind fun _ ↦ StateT.keeps_pure
  · exact keeps_items.bind fun _ ↦
      (StateT.keeps_mapM fun _ ↦ keeps_part).bind fun _ ↦ StateT.keeps_pure
  · exact keeps_items.bind fun _ ↦
      (StateT.keeps_mapM fun _ ↦ keeps_pair).bind fun _ ↦ StateT.keeps_pure

/-- Finding the parts of all collections keeps to the nodes, whatever the bound. -/
theorem keeps_fill : KeepsSource start (fill fuel) := by
  induction fuel with
  | zero => exact keeps_malformed
  | succ fuel ih =>
    unfold fill
    refine StateT.keeps_get_bind fun b _ ↦ ?_
    split
    · exact StateT.keeps_pure
    · exact keeps_collection.bind fun _ ↦
        StateT.Keeps.bind (StateT.keeps_modify fun _ h ↦ h) fun _ ↦ ih

end Build

/-- **What stops the building of a document is an obstacle of its nodes.** -/
theorem Outline.failsOnly_datum {outline : Outline} :
    outline.datum.FailsOnly fun o ↦ o = .malformed ∨ outline.nodes.Resist o := by
  unfold datum
  dsimp only
  refine Except.FailsOnly.bind ?_ fun _ _ ↦ Except.failsOnly_pure
  have hbuild : Build.KeepsSource outline.nodes (do
      let root ← Build.part outline.root
      Build.fill (outline.nodes.size + 1)
      return root : Build Part) :=
    Build.keeps_part.bind fun _ ↦ Build.keeps_fill.bind fun _ ↦ StateT.keeps_pure
  exact (hbuild _ Nodes.comeFrom_self).2

/-- A text resists being read: its letters are no tokens, or the nodes of a document resist. -/
def TextResists (text : String) (o : Obstacle) : Prop :=
  (tokensOf text).2 = some o ∧ o.IsLexical ∨ ∃ outline ∈ (outlines text).1, outline.nodes.Resist o

/-- **What stops the reading of documents**: the text is no YAML, or it resists. -/
theorem failsOnly_documents {text : String} :
    (documents text).FailsOnly fun o ↦ o = .malformed ∨ TextResists text o := by
  unfold documents
  refine Except.FailsOnly.bind (Except.FailsOnly.mapM fun outline hmem o ho ↦ ?_) fun _ _ ↦ ?_
  · exact (Outline.failsOnly_datum o ho).imp_right fun h ↦ .inr ⟨outline, hmem, h⟩
  · split
    · next o ho =>
      refine Except.failsOnly_error_iff.2 ((tokensOf_of_outlines ho).imp_right fun h ↦ ?_)
      exact .inl ⟨h, isLexical_of_tokensOf h⟩
    · exact Except.failsOnly_pure

end ToolFlow.Yaml

import Mathlib.Data.List.Forall2
import Mathlib.Data.List.Nodup
import ToolFlow.DataFlow
import ToolFlow.Proofs.Path.Printing
import ToolFlow.Proofs.Resolution

/-!
# The edges of a data flow

All mapped arguments of a workflow stand in one list (`Workflow.slots`), each with the index of its
step. The data flow has one edge for each of them whose expression is a reference, in the same order
(`edges_eq_filterMap`). Whether it can be drawn up depends on the expressions alone
(`exists_edges_eq_ok_iff`), and so do the edges but for their samples (`fixedByDefinition`).

Since a step maps an argument once, an edge is known by the argument that it fills
(`exists_filter_edges_eq`). The path that an edge shows is printed from what was read; it is read as
the same again (`readsBack`).

## What an edge takes from a run

Nothing but its sample. The results of a run enter through `resolve` alone, whose value is shown
when there is one that is present, and null in all other cases (`shown`). So the edges of a run that
broke off early are those of the run that went on, with fewer samples, and no hypothesis on the
results is needed: they may be incomplete, out of order or repeated.

An edge may also point at a step that does not exist, at its own step or at a later one. Such an
expression is a reference like others, as it is read. That it has no value is found out by
resolution, and the sample is null.
-/

namespace ToolFlow

/-- The mapped arguments of a workflow with their expressions, each after the index of its step. -/
def Workflow.slots (workflow : Workflow) : List (ℕ × String × String) :=
  workflow.steps.zipIdx.flatMap fun place ↦ place.1.mapped.map fun entry ↦ (place.2, entry)

/-- The argument that an edge fills: the index of the step and the name. -/
def Edge.slot (edge : Edge) : ℕ × String :=
  (edge.target, edge.parameter)

/-- Every step maps an argument once: mappings are dictionaries. -/
def Workflow.MapsOnce (workflow : Workflow) : Prop :=
  ∀ step ∈ workflow.steps, (step.mapped.map Prod.fst).Nodup

variable {workflow : Workflow} {results : List StepResult}

/-! ### Mapped arguments -/

/-- A mapped argument stands under the index of its step. -/
theorem Workflow.mem_slots_iff {index : ℕ} {entry : String × String} :
    (index, entry) ∈ workflow.slots ↔
      ∃ step, workflow.steps[index]? = some step ∧ entry ∈ step.mapped := by
  rw [slots, List.mem_flatMap]
  constructor
  · rintro ⟨⟨step, i⟩, hstep, hmem⟩
    obtain ⟨entry', hentry, heq⟩ := List.mem_map.1 hmem
    obtain ⟨rfl, rfl⟩ := Prod.mk.inj heq
    exact ⟨step, List.mem_zipIdx_iff_getElem?.1 hstep, hentry⟩
  · rintro ⟨step, hstep, hentry⟩
    exact ⟨(step, index), List.mem_zipIdx_iff_getElem?.2 hstep, List.mem_map_of_mem hentry⟩

/-- Mapped arguments differ in their names or in the index of their step. -/
theorem Workflow.MapsOnce.nodup_slots (h : workflow.MapsOnce) :
    (workflow.slots.map fun slot ↦ (slot.1, slot.2.1)).Nodup := by
  rw [slots, List.map_flatMap, List.nodup_flatMap]
  constructor
  · rintro ⟨step, index⟩ hmem
    have hnames := h step (List.fst_mem_of_mem_zipIdx hmem)
    have hslots := hnames.map (f := fun name ↦ (index, name)) fun _ _ h ↦ (Prod.mk.inj h).2
    rw [List.map_map] at hslots ⊢
    exact hslots
  · have hindices : workflow.steps.zipIdx.Pairwise fun a b ↦ a.2 ≠ b.2 := by
      have hnodup : (workflow.steps.zipIdx.map Prod.snd).Nodup := by
        rw [List.zipIdx_map_snd]
        exact List.nodup_range' ..
      exact List.pairwise_map.1 hnodup
    refine hindices.imp fun hne ↦ ?_
    intro slot hslot hslot'
    obtain ⟨_, hmem, rfl⟩ := List.mem_map.1 hslot
    obtain ⟨entry, -, rfl⟩ := List.mem_map.1 hmem
    obtain ⟨_, hmem', heq⟩ := List.mem_map.1 hslot'
    obtain ⟨entry', -, rfl⟩ := List.mem_map.1 hmem'
    exact hne (Prod.mk.inj heq).1.symm

namespace DataFlow

/-! ### When there are edges -/

/-- **An edge can be drawn up unless its expression holds a number with too many digits.** All else
that may be wrong with it is passed over. -/
theorem exists_edge?_eq_ok_iff {index : ℕ} {entry : String × String} :
    (∃ edge, edge? results index entry = .ok edge) ↔ ¬Path.HasOverlongNumber entry.2.toList := by
  unfold edge?
  split
  · next failure hparse =>
    rw [← Path.forReference_breaks_iff hparse]
    rcases failure.forReference (.text entry.2) with fault | b <;> simp
  · next ref hparse =>
    exact iff_of_true ⟨_, rfl⟩ (Path.Reference.not_hasOverlongNumber_of_parse hparse)

/-- **The data flow is drawn up exactly when** no mapped expression holds a number of too many
digits. -/
theorem exists_edges_eq_ok_iff :
    (∃ flow, edges workflow results = .ok flow) ↔
      ∀ step ∈ workflow.steps, ∀ entry ∈ step.mapped, ¬Path.HasOverlongNumber entry.2.toList := by
  have hinto : ∀ (index : ℕ) (step : Step),
      (∃ flow, edgesInto results index step = .ok flow) ↔
        ∀ entry ∈ step.mapped, ¬Path.HasOverlongNumber entry.2.toList := by
    intro index step
    rw [edgesInto, Except.exists_bind_pure_eq_ok_iff, Except.exists_mapM_eq_ok_iff]
    exact forall₂_congr fun _ _ ↦ exists_edge?_eq_ok_iff
  suffices hfrom : ∀ (steps : List Step) (index : ℕ),
      (∃ flow, edgesFrom results index steps = .ok flow) ↔
        ∀ step ∈ steps, ∀ entry ∈ step.mapped, ¬Path.HasOverlongNumber entry.2.toList from
    hfrom workflow.steps 0
  intro steps
  induction steps with
  | nil => exact fun index ↦ iff_of_true ⟨[], rfl⟩ (by simp)
  | cons step rest ih =>
    intro index
    rw [List.forall_mem_cons, ← hinto index step, ← ih (index + 1)]
    constructor
    · rintro ⟨flow, h⟩
      obtain ⟨here, hhere, h⟩ := Except.bind_eq_ok_iff.1 h
      obtain ⟨later, hlater, -⟩ := Except.bind_eq_ok_iff.1 h
      exact ⟨⟨here, hhere⟩, later, hlater⟩
    · rintro ⟨⟨here, hhere⟩, later, hlater⟩
      exact ⟨here ++ later, Except.bind_eq_ok_iff.2 ⟨here, hhere,
        Except.bind_eq_ok_iff.2 ⟨later, hlater, rfl⟩⟩⟩

/-! ### Edges -/

/-- The value shown for what a reference comes to: null, unless it is there. -/
def shown : Except Resolution.Failure Value → Value
  | .ok v => if v.isMissing then .null else v
  | .error _ => .null

/-- The edge that a mapped argument draws, if its expression is a reference. -/
def edgeOf? (results : List StepResult) (slot : ℕ × String × String) : Option Edge :=
  (Path.Reference.parse slot.2.2).toOption.map fun ref ↦
    { source := ref.step, target := slot.1, sourcePath := ref.sourcePath, parameter := slot.2.1
      sample := shown (Resolution.resolveReference results ref slot.1) }

/-- Where an edge can be drawn up it is the one that the argument draws. -/
theorem eq_edgeOf?_of_edge?_eq_ok {index : ℕ} {entry : String × String} {edge : Option Edge}
    (h : edge? results index entry = .ok edge) : edge = edgeOf? results (index, entry) := by
  unfold edge? at h
  split at h
  · next failure hparse =>
    split at h
    · rw [edgeOf?, hparse]
      exact (Except.ok.inj h).symm
    · simp at h
  · next ref hparse =>
    rw [edgeOf?, hparse]
    exact (Except.ok.inj h).symm

/-- **The data flow has one edge for each mapped argument whose expression is a reference.** -/
theorem edges_eq_filterMap {flow : List Edge} (h : edges workflow results = .ok flow) :
    flow = workflow.slots.filterMap (edgeOf? results) := by
  suffices hfrom : ∀ (steps : List Step) (index : ℕ) (flow : List Edge),
      edgesFrom results index steps = .ok flow →
        flow = ((steps.zipIdx index).flatMap fun place ↦
          place.1.mapped.map fun entry ↦ (place.2, entry)).filterMap (edgeOf? results) from
    hfrom workflow.steps 0 flow h
  intro steps
  induction steps with
  | nil => exact fun index flow h ↦ (Except.ok.inj h).symm
  | cons step rest ih =>
    intro index flow h
    obtain ⟨here, hhere, h⟩ := Except.bind_eq_ok_iff.1 h
    obtain ⟨later, hlater, h⟩ := Except.bind_eq_ok_iff.1 h
    obtain ⟨found, hfound, hhere⟩ := Except.bind_eq_ok_iff.1 hhere
    obtain rfl := Except.ok.inj h
    obtain rfl := Except.ok.inj hhere
    rw [Except.eq_map_of_mapM_eq_ok (fun _ _ ↦ eq_edgeOf?_of_edge?_eq_ok) hfound,
      ih (index + 1) later hlater, List.zipIdx_cons, List.flatMap_cons, List.filterMap_append,
      List.filterMap_map, List.filterMap_map]
    rfl

/-- What an edge shows is what its expression comes to. -/
theorem edgeOf?_eq_some_iff {index : ℕ} {entry : String × String} {edge : Edge} :
    edgeOf? results (index, entry) = some edge ↔
      ∃ ref, Path.Reference.parse entry.2 = .ok ref ∧
        edge =
          { source := ref.step, target := index, sourcePath := ref.sourcePath, parameter := entry.1
            sample := shown (Resolution.resolve results entry.2 index) } := by
  rcases hparse : Path.Reference.parse entry.2 with failure | ref
  · simp [edgeOf?, hparse, Except.toOption]
  · simp [edgeOf?, hparse, Except.toOption, Resolution.resolve, eq_comm]

/-- What is made of the items of a list is found again by their keys. -/
theorem filter_filterMap_eq_singleton {α β κ : Type} [DecidableEq κ] {f : α → Option β}
    {key : α → κ} {key' : β → κ} (hkey : ∀ a b, f a = some b → key' b = key a) {l : List α}
    (hnodup : (l.map key).Nodup) {a : α} {b : β} (hmem : a ∈ l) (hb : f a = some b) :
    (l.filterMap f).filter (fun b ↦ key' b = key a) = [b] := by
  induction l with
  | nil => simp at hmem
  | cons first rest ih =>
    rw [List.map_cons, List.nodup_cons] at hnodup
    obtain ⟨hfirst, hnodup⟩ := hnodup
    rcases List.mem_cons.1 hmem with rfl | hmem
    · have hothers : (rest.filterMap f).filter (fun b ↦ key' b = key a) = [] := by
        rw [List.filter_eq_nil_iff]
        intro c hc
        obtain ⟨x, hx, hxc⟩ := List.mem_filterMap.1 hc
        rw [decide_eq_true_eq, hkey x c hxc]
        exact fun heq ↦ hfirst (heq ▸ List.mem_map_of_mem hx)
      rw [List.filterMap_cons_some hb, List.filter_cons_of_pos (by simp [hkey a b hb]), hothers]
    · have hne : key first ≠ key a := fun heq ↦ hfirst (heq ▸ List.mem_map_of_mem hmem)
      rcases hc : f first with _ | c
      · rw [List.filterMap_cons_none hc]
        exact ih hnodup hmem
      · rw [List.filterMap_cons_some hc, List.filter_cons_of_neg (by simp [hkey first c hc, hne])]
        exact ih hnodup hmem

/-- **Results supply samples only**: the edges drawn up from two records are in the same places, and
are related if those of each reference are. -/
theorem forall₂_edges {results' : List StepResult} {flow flow' : List Edge}
    {rel : Edge → Edge → Prop} (h : edges workflow results = .ok flow)
    (h' : edges workflow results' = .ok flow')
    (hrel : ∀ (edge : Edge) (expression : String),
      rel { edge with sample := shown (Resolution.resolve results expression edge.target) }
        { edge with sample := shown (Resolution.resolve results' expression edge.target) }) :
    List.Forall₂ rel flow flow' := by
  have hedge : ∀ slot, Option.Rel rel (edgeOf? results slot) (edgeOf? results' slot) := by
    rintro ⟨index, entry⟩
    rcases hparse : Path.Reference.parse entry.2 with failure | ref
    · simp only [edgeOf?, hparse]
      exact .none
    · rw [edgeOf?_eq_some_iff.2 ⟨ref, hparse, rfl⟩, edgeOf?_eq_some_iff.2 ⟨ref, hparse, rfl⟩]
      exact .some (hrel
        { source := ref.step, target := index, sourcePath := ref.sourcePath, parameter := entry.1 }
        entry.2)
  rw [edges_eq_filterMap h, edges_eq_filterMap h']
  have hslots : List.Forall₂ Eq workflow.slots workflow.slots := List.forall₂_refl _
  refine List.rel_filterMap (fun slot slot' heq ↦ ?_) hslots
  exact heq ▸ hedge slot

/-! ### Edges and the definition -/

/-- An expression is a reference: it is accepted as one. -/
def isReference (expression : String) : Bool :=
  (Path.Reference.parse expression).toOption.isSome

/-- An edge is drawn for a mapped argument: it starts at the step to which the expression refers,
shows the path there, and fills the argument. -/
def DrawnFor (slot : ℕ × String × String) (edge : Edge) : Prop :=
  ∃ ref, Path.Reference.parse slot.2.2 = .ok ref ∧ edge.source = ref.step ∧
    edge.sourcePath = ref.sourcePath ∧ edge.target = slot.1 ∧ edge.parameter = slot.2.1

/-- Two edges differ in their samples at most. -/
def SameButSample (edge edge' : Edge) : Prop :=
  ∃ v, edge' = { edge with sample := v }

/-- The data flow is fixed by the definition of the workflow: whatever is on record, it can be drawn
up and has one edge for each mapped argument whose expression is a reference, in the order of the
definition; another record changes samples only. -/
structure FixedByDefinition (workflow : Workflow) : Prop where
  drawn : ∀ results, ∃ flow, edges workflow results = .ok flow ∧
    List.Forall₂ DrawnFor (workflow.slots.filter fun slot ↦ isReference slot.2.2) flow
  same : ∀ results results' flow flow', edges workflow results = .ok flow →
    edges workflow results' = .ok flow' → List.Forall₂ SameButSample flow flow'

/-- The edge of an argument is drawn for it, whatever is on record. -/
theorem drawnFor_of_edgeOf? {slot : ℕ × String × String} {edge : Edge}
    (h : edgeOf? results slot = some edge) : DrawnFor slot edge := by
  obtain ⟨ref, hparse, rfl⟩ := edgeOf?_eq_some_iff.1 h
  exact ⟨ref, hparse, rfl, rfl, rfl, rfl⟩

/-- Each reference draws its edge, and nothing else does. -/
theorem forall₂_drawnFor (slots : List (ℕ × String × String)) :
    List.Forall₂ DrawnFor (slots.filter fun slot ↦ isReference slot.2.2)
      (slots.filterMap (edgeOf? results)) := by
  have hsame : List.Forall₂ Eq slots slots := List.forall₂_refl _
  rw [← List.filterMap_eq_filter]
  refine List.rel_filterMap (fun slot slot' heq ↦ ?_) hsame
  obtain rfl := heq
  rcases hparse : Path.Reference.parse slot.2.2 with failure | ref
  · simp only [Option.guard, isReference, edgeOf?, hparse]
    exact .none
  · obtain ⟨edge, hedge⟩ : ∃ edge, edgeOf? results slot = some edge :=
      ⟨_, edgeOf?_eq_some_iff.2 ⟨ref, hparse, rfl⟩⟩
    have hguard : Option.guard (fun slot ↦ isReference slot.2.2) slot = some slot := by
      simp [Option.guard, isReference, hparse, Except.toOption]
    rw [hguard, hedge]
    exact .some (drawnFor_of_edgeOf? hedge)

/-- **The data flow is fixed by the definition**, as long as no mapped expression holds a number of
too many digits. -/
theorem fixedByDefinition
    (hshort : ∀ step ∈ workflow.steps, ∀ entry ∈ step.mapped,
      ¬Path.HasOverlongNumber entry.2.toList) : FixedByDefinition workflow where
  drawn results := by
    obtain ⟨flow, hflow⟩ := exists_edges_eq_ok_iff.2 hshort
    refine ⟨flow, hflow, ?_⟩
    rw [edges_eq_filterMap hflow]
    exact forall₂_drawnFor workflow.slots
  same results results' flow flow' hflow hflow' :=
    forall₂_edges hflow hflow' fun _ _ ↦ ⟨_, rfl⟩

/-- Steps that refer to themselves and to each other, and an expression that is no reference. -/
def tangle : Workflow where
  id := "tangle"
  name := "Tangle"
  steps := [
    { tool := "find", mapping := some
        [("self", "$steps[0].result"), ("later", "$steps[1].response.content[0]"),
          ("stray", "steps[0]")] },
    { tool := "send", mapping := some [("to", "$steps[0].result.name")] }]

/-- A result of the first step, whose response cannot be read. -/
def illegible : StepResult where
  step := { tool := "find" }
  index := 0
  success := true
  response := .object [("content", .int 5)]

/-- Neither what is recorded of a step, nor that it is recorded twice, makes a difference. -/
theorem fixedByDefinition_tangle :
    (∀ step ∈ tangle.steps, ∀ entry ∈ step.mapped, ¬Path.HasOverlongNumber entry.2.toList) ∧
      FixedByDefinition tangle ∧
      ((edges tangle [illegible, illegible]).toOption.map fun flow ↦ flow.map fun edge ↦
          (edge.source, edge.sourcePath, edge.slot)) =
        some [(0, "result", 0, "self"), (1, "response.content[0]", 0, "later"),
          (0, "result.name", 1, "to")] := by
  have hshort : ∀ step ∈ tangle.steps, ∀ entry ∈ step.mapped,
      ¬Path.HasOverlongNumber entry.2.toList := by
    decide +kernel
  exact ⟨hshort, fixedByDefinition hshort, by decide +kernel⟩

variable {flow : List Edge}

/-- Every edge belongs to a mapped argument. -/
theorem exists_of_mem_edges (h : edges workflow results = .ok flow) {edge : Edge}
    (hmem : edge ∈ flow) :
    ∃ step entry ref, workflow.steps[edge.target]? = some step ∧ entry ∈ step.mapped ∧
      edge.parameter = entry.1 ∧ Path.Reference.parse entry.2 = .ok ref ∧ edge.source = ref.step ∧
      edge.sample = shown (Resolution.resolve results entry.2 edge.target) := by
  rw [edges_eq_filterMap h] at hmem
  obtain ⟨⟨index, entry⟩, hslot, hedge⟩ := List.mem_filterMap.1 hmem
  obtain ⟨step, hstep, hentry⟩ := Workflow.mem_slots_iff.1 hslot
  obtain ⟨ref, hparse, rfl⟩ := edgeOf?_eq_some_iff.1 hedge
  exact ⟨step, entry, ref, hstep, hentry, rfl, hparse, rfl, rfl⟩

/-- **An edge is known by the argument that it fills.** -/
theorem exists_filter_edges_eq (honce : workflow.MapsOnce) (h : edges workflow results = .ok flow)
    {index : ℕ} {step : Step} {entry : String × String} {ref : Path.Reference}
    (hstep : workflow.steps[index]? = some step) (hentry : entry ∈ step.mapped)
    (hparse : Path.Reference.parse entry.2 = .ok ref) :
    ∃ edge, flow.filter (fun edge ↦ edge.slot = (index, entry.1)) = [edge] ∧
      edge.sample = shown (Resolution.resolve results entry.2 index) := by
  have hslot : (index, entry) ∈ workflow.slots := Workflow.mem_slots_iff.2 ⟨step, hstep, hentry⟩
  obtain ⟨edge, hedge⟩ : ∃ edge, edgeOf? results (index, entry) = some edge :=
    ⟨_, edgeOf?_eq_some_iff.2 ⟨ref, hparse, rfl⟩⟩
  obtain ⟨_, -, hedge_eq⟩ := edgeOf?_eq_some_iff.1 hedge
  refine ⟨edge, ?_, by rw [hedge_eq]⟩
  rw [edges_eq_filterMap h]
  refine filter_filterMap_eq_singleton ?_ honce.nodup_slots hslot hedge
  rintro ⟨i, e⟩ other hother
  obtain ⟨ref, -, rfl⟩ := edgeOf?_eq_some_iff.1 hother
  rfl

/-! ### The paths that are shown -/

/-- What is accepted is printed as something that is read as the same. -/
structure ReadsBack (text : String) : Prop where
  path : ∀ segments, Path.parse text = .ok segments →
    Path.parse (Path.joined segments) = .ok segments
  reference : ∀ ref, Path.Reference.parse text = .ok ref → Path.Reference.parse ref.text = .ok ref
  sourcePath : ∀ ref, Path.Reference.parse text = .ok ref →
    Path.parse ref.sourcePath = .ok (ref.root.segment :: ref.segments)

/-- An edge shows the path that was followed for it: what is shown is read as a root and segments,
and these are the root and the segments to which the expression of the argument refers, and to which
the value belongs. -/
def ShowsPath (workflow : Workflow) (results : List StepResult) (edge : Edge) : Prop :=
  ∃ step entry root segments, workflow.steps[edge.target]? = some step ∧ entry ∈ step.mapped ∧
    edge.parameter = entry.1 ∧ Path.parse edge.sourcePath = .ok (root.segment :: segments) ∧
    Path.Reference.parse entry.2 = .ok ⟨edge.source, root, segments⟩ ∧
    edge.sample =
      shown (Resolution.resolveReference results ⟨edge.source, root, segments⟩ edge.target)

/-- **What is printed of a path or a reference is read as the same**, and so an edge shows the path
that was followed. -/
theorem readsBack (workflow : Workflow) (results : List StepResult) :
    (∀ text, ReadsBack text) ∧
      ∀ flow, edges workflow results = .ok flow →
        ∀ edge ∈ flow, ShowsPath workflow results edge := by
  refine ⟨fun text ↦ ⟨fun segments h ↦ ?_, fun ref h ↦ ?_, fun ref h ↦ ?_⟩,
    fun flow hflow edge hmem ↦ ?_⟩
  · obtain ⟨hne, hreadable⟩ := Path.isReadable_of_parse h
    exact Path.parse_joined hne hreadable
  · obtain ⟨hstep, hreadable⟩ := Path.Reference.isReadable_of_parse h
    exact Path.Reference.parse_text hstep hreadable
  · exact Path.Reference.parse_sourcePath (Path.Reference.isReadable_of_parse h).2
  · rw [edges_eq_filterMap hflow] at hmem
    obtain ⟨⟨index, entry⟩, hslot, hedge⟩ := List.mem_filterMap.1 hmem
    obtain ⟨step, hstep, hentry⟩ := Workflow.mem_slots_iff.1 hslot
    obtain ⟨ref, hparse, rfl⟩ := edgeOf?_eq_some_iff.1 hedge
    have hpath := Path.Reference.parse_sourcePath (Path.Reference.isReadable_of_parse hparse).2
    exact ⟨step, entry, ref.root, ref.segments, hstep, hentry, rfl, hpath, hparse,
      by rw [Resolution.resolve, hparse]⟩

/-- A reply to what a lookup found, asked for with spare zeros. -/
def reply : Workflow where
  id := "reply"
  name := "Reply"
  steps := [{ tool := "find" },
    { tool := "send", mapping := some [("to", "$steps[00].response.content[00].007")] }]

/-- The spare zeros are not printed, and make no difference. -/
theorem readsBack_reply : ∃ flow, edges reply [] = .ok flow ∧
    (flow.map fun edge ↦ edge.sourcePath) = ["response.content[0].7"] ∧
    ReadsBack "$steps[00].response.content[00].007" ∧ ∀ edge ∈ flow, ShowsPath reply [] edge := by
  have hflow : ((edges reply []).toOption.map fun flow ↦ flow.map fun edge ↦ edge.sourcePath) =
      some ["response.content[0].7"] := by
    decide +kernel
  rcases h : edges reply [] with b | flow
  · simp [h, Except.toOption] at hflow
  · rw [h] at hflow
    exact ⟨flow, rfl, Option.some.inj hflow, (readsBack reply []).1 _,
      (readsBack reply []).2 flow h⟩

end DataFlow

end ToolFlow

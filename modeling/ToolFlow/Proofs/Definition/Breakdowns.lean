import ToolFlow.Definition.Files
import ToolFlow.Proofs.Definition.Loader
import ToolFlow.Proofs.Yaml.Building

/-!
# What escapes the loader

A problem of documents is reported, and the loader breaks down only where the report cannot be made:
the text is met by an obstacle that says more than that it is no YAML, or an integer that is too
long would have to be written, in the message of an assertion or as the name of a mapped argument.
Since the first problem ends the loading, this happens only where everything before is in order
(`StopsAt`). The obstacles are escapes, and scalars that do not convert (`TextResists`).

## How the condition is found

Each function of the loader has one lemma that says when it fails with something of a given kind
(`Except.FailsWith`). The kind is the problems that cannot be reported, so a problem that is
reported counts as little as a success. For a list that is loaded item by item this asks for the
first item that fails (`failsWith_numbered_iff`): it has to break, and the items before it have to
be in order. The conditions so obtained (`AssertionBreaks`, `StepBreaks`, `WorkflowBreaks`,
`DocumentsBreak`, `TextBreaks`) are about the data, and no report is mentioned in them.

## The default file

The file that is looked for by itself is read by the same functions. A problem of it is noted in the
log and there are no workflows, but what escapes the loader escapes here as well
(`readDefault_eq_error_iff`). `leavesLoader` puts both together, for any decoder of texts: the parts
on the loader hold whatever obstacles there are, and which ones YAML has is said apart.
-/

namespace ToolFlow.Definition

open Yaml (Datum Scalar Obstacle)

variable {d : Datum} {b : Breakdown}

/-! ### Where loading stops -/

/-- The items before one are loaded, and this one stops the loading. -/
def StopsAt (Loads Stops : Datum → Prop) (items : List Datum) : Prop :=
  ∃ before d after, items = before ++ d :: after ∧ (∀ d ∈ before, Loads d) ∧ Stops d

/-- **Loading one by one fails in some way exactly where its first failure is of that kind**: the
items before it are in order, and whatever comes after it is not looked at. -/
theorem failsWith_numbered_iff {ε α : Type} {load : ℕ → Datum → Except ε α}
    {R : Datum → α → Prop} {Q : ε → Prop} {Stops : Datum → Prop}
    (hR : ∀ n d a, load n d = .ok a ↔ R d a) (hQ : ∀ n d, (load n d).FailsWith Q ↔ Stops d)
    {number : ℕ} {items : List Datum} :
    (numbered load number items).FailsWith Q ↔ StopsAt (fun d ↦ ∃ a, R d a) Stops items := by
  simp only [Except.FailsWith, numbered_eq_error_iff, numbered_eq_ok_iff hR, exists_forall₂_iff]
  constructor
  · rintro ⟨e, ⟨before, d, after, hitems, hbefore, hd⟩, he⟩
    exact ⟨before, d, after, hitems, hbefore, (hQ _ _).1 ⟨e, hd, he⟩⟩
  · rintro ⟨before, d, after, hitems, hbefore, hd⟩
    obtain ⟨e, hd, he⟩ := (hQ (number + before.length) d).2 hd
    exact ⟨e, ⟨before, d, after, hitems, hbefore, hd⟩, he⟩

/-- What is absent fails with its problem. -/
theorem failsWith_orFail_iff {ε α : Type} {Q : ε → Prop} {problem : ε} {x : Option α} :
    (orFail problem x).FailsWith Q ↔ x = none ∧ Q problem := by
  cases x <;> simp [orFail]

/-! ### Assertions -/

/-- An assertion with an integer in its message that is too long, and nothing else wrong with it. -/
def AssertionBreaks (d : Datum) : Prop :=
  ∃ entries, mapping? d = some entries ∧
    (∃ path, solidText? (Datum.get "path" entries) = some path) ∧
    (∃ condition, condition? (Datum.get "condition" entries) = some condition) ∧
    (Datum.get "message" entries).isOverlong = true

/-- A message fails in one way only, when it cannot be written. -/
theorem failsWith_messageText_iff {Q : AssertionProblem → Prop} :
    (messageText d).FailsWith Q ↔ d.isOverlong = true ∧ Q .overlongMessage := by
  unfold messageText Datum.display?
  split
  · simp [Datum.isOverlong, Scalar.isOverlong]
  · cases d.isOverlong <;> simp

/-- A problem of a step that cannot be reported. -/
def StepProblem.Breaks (problem : StepProblem) : Prop :=
  problem.breakdown? ≠ none

/-- Of the problems of an assertion one cannot be reported. -/
theorem breaks_assertion_iff {number : ℕ} {problem : AssertionProblem} :
    (StepProblem.assertion number problem).Breaks ↔ problem = .overlongMessage := by
  cases problem <;> simp [StepProblem.Breaks, StepProblem.breakdown?]

/-- A bad expression cannot be reported when the name of its argument cannot be written. -/
theorem breaks_badExpression_iff {parameter : Scalar} :
    (StepProblem.badExpression parameter).Breaks ↔ parameter.isOverlong = true := by
  simp [StepProblem.Breaks, StepProblem.breakdown?]

/-- **An assertion breaks the loader** by a message that cannot be written, once its path and its
condition are in order. -/
theorem failsWith_loadAssertion_iff {number : ℕ} :
    ((loadAssertion d).mapError (StepProblem.assertion number)).FailsWith StepProblem.Breaks ↔
      AssertionBreaks d := by
  simp only [loadAssertion, Except.failsWith_mapError_iff, breaks_assertion_iff,
    Except.failsWith_bind_iff, failsWith_orFail_iff, orFail_eq_ok_iff, failsWith_messageText_iff,
    pure, Except.pure, Except.not_failsWith_ok, reduceCtorEq, and_false, false_or, exists_false,
    or_false, and_true, AssertionBreaks]
  constructor
  · rintro ⟨entries, hd, path, hpath, condition, hcondition, hmessage⟩
    exact ⟨entries, hd, ⟨path, hpath⟩, ⟨condition, hcondition⟩, hmessage⟩
  · rintro ⟨entries, hd, ⟨path, hpath⟩, ⟨condition, hcondition⟩, hmessage⟩
    exact ⟨entries, hd, path, hpath, condition, hcondition, hmessage⟩

/-! ### Steps -/

/-- Mapped arguments of which the first that is mapped to no expression has a name that is too
long. -/
def MappingBreaks (d : Datum) : Prop :=
  ∃ parameter, mappingEntries d = .error (.badExpression parameter) ∧ parameter.isOverlong = true

/-- Assertions of which the first that cannot be loaded has a message that is too long. -/
def AssertionsBreak (d : Datum) : Prop :=
  ∃ items, d.opened = .list items ∧
    StopsAt (fun d ↦ ∃ assertion, loadAssertion d = .ok assertion) AssertionBreaks items

/-- A step whose first problem shows an integer that is too long: as the name of an argument that is
mapped to no expression, or in the message of an assertion. -/
def StepBreaks (d : Datum) : Prop :=
  ∃ entries, mapping? d = some entries ∧
    (∃ tool, solidText? (Datum.get "tool" entries) = some tool) ∧
    (∃ args, argEntries (Datum.get "args" entries) = .ok args) ∧
    (MappingBreaks (Datum.get "argMapping" entries) ∨
      (∃ mapping, mappingEntries (Datum.get "argMapping" entries) = .ok mapping) ∧
      (∃ isOptional, optionalFlag (Datum.get "optional" entries) = .ok isOptional) ∧
      AssertionsBreak (Datum.get "assertions" entries))

/-- Arguments are either taken or refused in a way that can be reported. -/
theorem not_failsWith_argEntries : ¬(argEntries d).FailsWith StepProblem.Breaks := by
  unfold argEntries
  split
  · simp
  · split <;> simp [StepProblem.Breaks, StepProblem.breakdown?]

/-- So is the flag of an optional step. -/
theorem not_failsWith_optionalFlag : ¬(optionalFlag d).FailsWith StepProblem.Breaks := by
  unfold optionalFlag
  split <;> simp [StepProblem.Breaks, StepProblem.breakdown?]

/-- Mapped arguments break the loader by the first of them that is mapped to no expression. -/
theorem failsWith_mappingEntries_iff :
    (mappingEntries d).FailsWith StepProblem.Breaks ↔ MappingBreaks d := by
  unfold MappingBreaks mappingEntries
  split
  · simp
  · split
    · simp [breaks_badExpression_iff]
    · simp
  · simp [StepProblem.Breaks, StepProblem.breakdown?]

/-- A list of assertions breaks the loader by the first of them that cannot be loaded. -/
theorem failsWith_assertionList_iff :
    (assertionList d).FailsWith StepProblem.Breaks ↔ AssertionsBreak d := by
  have hloads {items : List Datum} : (loadAssertions items).FailsWith StepProblem.Breaks ↔
      StopsAt (fun d ↦ ∃ assertion, loadAssertion d = .ok assertion) AssertionBreaks items :=
    failsWith_numbered_iff (fun _ _ _ ↦ Except.mapError_eq_ok_iff)
      fun number d ↦ @failsWith_loadAssertion_iff d number
  unfold AssertionsBreak assertionList
  split
  · next h => simp [h]
  · next items h => simp [h, Except.failsWith_map_iff, hloads]
  · next hnull hlist =>
    simp only [Except.failsWith_error_iff, StepProblem.Breaks, StepProblem.breakdown?, ne_eq,
      not_true_eq_false, false_iff, not_exists, not_and]
    exact fun items h ↦ absurd h (hlist items)

/-- **A step breaks the loader** by its mapped arguments or by its assertions, when all that is
looked at before them is in order. -/
theorem failsWith_loadStep_iff :
    (loadStep d).FailsWith StepProblem.Breaks ↔ StepBreaks d := by
  have hreported : ¬StepProblem.notMapping.Breaks ∧ ¬StepProblem.lacksTool.Breaks ∧
      ∀ data, ¬(StepProblem.invalid data).Breaks := by
    simp [StepProblem.Breaks, StepProblem.breakdown?]
  have hmade {made : Checked Step} :
      ¬(made.titled "WorkflowStep").FailsWith fun data ↦ (StepProblem.invalid data).Breaks := by
    rintro ⟨data, -, hdata⟩
    exact hreported.2.2 data hdata
  simp only [loadStep, Except.failsWith_mapError_iff, hmade, hreported.1, hreported.2.1,
    Except.failsWith_bind_iff, failsWith_orFail_iff, orFail_eq_ok_iff, failsWith_mappingEntries_iff,
    failsWith_assertionList_iff, not_failsWith_argEntries, not_failsWith_optionalFlag,
    and_false, false_or, exists_false, or_false, StepBreaks]
  constructor
  · rintro ⟨entries, hd, tool, htool, args, hargs, hmapping | ⟨mapping, hmapping, isOptional,
      hoptional, hassertions⟩⟩
    · exact ⟨entries, hd, ⟨tool, htool⟩, ⟨args, hargs⟩, .inl hmapping⟩
    · exact ⟨entries, hd, ⟨tool, htool⟩, ⟨args, hargs⟩,
        .inr ⟨⟨mapping, hmapping⟩, ⟨isOptional, hoptional⟩, hassertions⟩⟩
  · rintro ⟨entries, hd, ⟨tool, htool⟩, ⟨args, hargs⟩, hmapping | ⟨⟨mapping, hmapping⟩,
      ⟨isOptional, hoptional⟩, hassertions⟩⟩
    · exact ⟨entries, hd, tool, htool, args, hargs, .inl hmapping⟩
    · exact ⟨entries, hd, tool, htool, args, hargs, .inr ⟨mapping, hmapping, isOptional, hoptional,
        hassertions⟩⟩

/-! ### Workflows -/

/-- A problem of documents that cannot be reported. -/
def Problem.Breaks (problem : Problem) : Prop :=
  problem.breakdown? ≠ none

/-- A workflow of which the first step that cannot be loaded shows an integer that is too long. -/
def WorkflowBreaks (d : Datum) : Prop :=
  ∃ entries, mapping? d = some entries ∧
    (∃ id, solidText? (Datum.get "id" entries) = some id) ∧
    (∃ name, solidText? (Datum.get "name" entries) = some name) ∧
    ∃ items, someItems? (Datum.get "steps" entries) = some items ∧
      StopsAt (fun d ↦ ∃ step, loadStep d = .ok step) StepBreaks items

/-- **A workflow breaks the loader** by the first of its steps that cannot be loaded. Its
descriptions are looked at after the steps and never do. -/
theorem failsWith_loadWorkflow_iff {place : WorkflowPlace} :
    (loadWorkflow place d).FailsWith Problem.Breaks ↔ WorkflowBreaks d := by
  have hloads {id : String} {items : List Datum} : (loadSteps id items).FailsWith Problem.Breaks ↔
      StopsAt (fun d ↦ ∃ step, loadStep d = .ok step) StepBreaks items :=
    failsWith_numbered_iff (fun _ _ _ ↦ Except.mapError_eq_ok_iff) fun _ _ ↦ by
      rw [Except.failsWith_mapError_iff]
      exact failsWith_loadStep_iff
  have hplace : ¬(Problem.notMapping place).Breaks ∧ ¬(Problem.lacksId place).Breaks ∧
      (∀ id, ¬(Problem.lacksName place id).Breaks) ∧
      ∀ id, ¬(Problem.lacksSteps place id).Breaks := by
    simp [Problem.Breaks, Problem.breakdown?]
  have hmade {id : String} {made : Checked Workflow} : ¬(made.titled "Workflow").FailsWith
      fun data ↦ (Problem.invalid id place.source data).Breaks := by
    rintro ⟨data, -, hdata⟩
    exact hdata rfl
  simp only [loadWorkflow, Except.failsWith_mapError_iff, hmade, hplace.1, hplace.2.1,
    hplace.2.2.1, hplace.2.2.2, Except.failsWith_bind_iff, failsWith_orFail_iff, orFail_eq_ok_iff,
    hloads, and_false, false_or, exists_false, or_false, WorkflowBreaks]
  constructor
  · rintro ⟨entries, hd, id, hid, name, hname, items, hitems, hsteps⟩
    exact ⟨entries, hd, ⟨id, hid⟩, ⟨name, hname⟩, items, hitems, hsteps⟩
  · rintro ⟨entries, hd, ⟨id, hid⟩, ⟨name, hname⟩, items, hitems, hsteps⟩
    exact ⟨entries, hd, id, hid, name, hname, items, hitems, hsteps⟩

/-- Documents of which the first definition that cannot be loaded shows an integer that is too
long. -/
def DocumentsBreak (documents : List Datum) : Prop :=
  StopsAt (fun d ↦ ∃ workflow : Workflow, workflow.DefinedBy d) WorkflowBreaks
    (documents.flatMap candidates)

/-- Documents break the loader by the first definition that cannot be loaded. -/
theorem failsWith_loadDocuments_iff {source : String} {documents : List Datum} :
    (loadDocuments source documents).FailsWith Problem.Breaks ↔ DocumentsBreak documents := by
  unfold loadDocuments DocumentsBreak
  split
  · next h => simp [h, StopsAt, Problem.Breaks, Problem.breakdown?]
  · exact failsWith_numbered_iff
      (fun number d workflow ↦ @loadWorkflow_eq_ok_iff d { source, number } workflow)
      fun number d ↦ @failsWith_loadWorkflow_iff d { source, number }

/-! ### Texts -/

/-- The loader breaks down over a text. -/
def TextBreaks (text : String) : Prop :=
  (∃ obstacle, Yaml.documents text = .error obstacle ∧ obstacle ≠ .malformed) ∨
    ∃ documents, Yaml.documents text = .ok documents ∧ DocumentsBreak documents

/-- Reporting a problem breaks down exactly when the problem cannot be reported. -/
theorem ofProblem_eq_breakdown_iff {problem : Problem} :
    (∃ b, Failure.ofProblem problem = .breakdown b) ↔ problem.Breaks := by
  unfold Failure.ofProblem Problem.Breaks
  split
  · next h => simp [h]
  · next h => simp [h]

/-- The one obstacle that is reported is that a text is no YAML. -/
theorem ofObstacle_eq_breakdown_iff {source : String} {obstacle : Obstacle} :
    (∃ b, Failure.ofObstacle source obstacle = .breakdown b) ↔ obstacle ≠ .malformed := by
  cases obstacle with
  | noCharacter code =>
    unfold Failure.ofObstacle Obstacle.breakdown?
    by_cases hcode : code < 2 ^ 31 <;> simp [hcode]
  | _ => simp [Failure.ofObstacle, Obstacle.breakdown?]

/-- **The loader breaks down over a text exactly when** the text breaks it. -/
theorem parse_breaks_iff {source text : String} :
    (∃ b, parse source text = .error (.breakdown b)) ↔ TextBreaks text := by
  unfold parse TextBreaks
  cases Yaml.documents text with
  | error obstacle => simp [loadDecoded, ofObstacle_eq_breakdown_iff]
  | ok documents =>
    simp only [reduceCtorEq, false_and, exists_false, false_or, Except.ok.injEq, exists_eq_left',
      ← @failsWith_loadDocuments_iff source documents, loadDecoded, Except.mapError_eq_error_iff,
      Except.FailsWith, ← ofProblem_eq_breakdown_iff]
    constructor
    · rintro ⟨b, problem, hload, hb⟩
      exact ⟨problem, hload, b, hb⟩
    · rintro ⟨problem, hload, b, hb⟩
      exact ⟨b, problem, hload, hb⟩

/-- A text without workflows is a problem, so that none are never the outcome of a loading. -/
theorem ne_nil_of_parse {source text : String} {workflows : List Workflow}
    (h : parse source text = .ok workflows) : workflows ≠ [] := by
  unfold parse at h
  cases hdocuments : Yaml.documents text with
  | error obstacle => simp [hdocuments, loadDecoded] at h
  | ok documents =>
    rw [hdocuments, loadDecoded, Except.mapError_eq_ok_iff, loadDocuments_eq_ok_iff] at h
    rintro rfl
    exact h.1 (List.forall₂_nil_right_iff.1 h.2)

/-! ### The default file -/

section DefaultFile

variable {reading : Reading} {disk : Disk} {directory : String} {entry : Entry}

/-- A file that is there is read as its text, unless it has none. -/
theorem readFile_of_find? {path : String} (hentry : find? disk path = .ok (some entry)) :
    readFile reading disk path =
      ((fileText? entry).elim (.error (.problem (.fileUnreadable (pathText path)))))
        (reading (pathText path)) := by
  simp only [readFile, hentry]
  cases fileText? entry <;> rfl

/-- **What leaves the reading of the default file** is what leaves the loader over its text. -/
theorem readDefault_eq_error_iff
    (hentry : find? disk (below directory defaultFile) = .ok (some entry)) :
    readDefault reading disk directory = .error b ↔ ∃ text, fileText? entry = some text ∧
      reading (pathText (below directory defaultFile)) text = .error (.breakdown b) := by
  unfold readDefault
  generalize below directory defaultFile = path at hentry ⊢
  simp only [hentry, readFile_of_find? hentry]
  cases fileText? entry with
  | none => simp
  | some text => rcases hread : reading (pathText path) text with (_ | _) | _ <;> simp [hread]

/-- Workflows are found in the default file exactly when they are loaded from its text. -/
theorem readDefault_eq_ok_some_iff {workflows : List Workflow}
    (hentry : find? disk (below directory defaultFile) = .ok (some entry)) :
    (∃ notices, readDefault reading disk directory = .ok (some workflows, notices)) ↔
      ∃ text, fileText? entry = some text ∧
        reading (pathText (below directory defaultFile)) text = .ok workflows := by
  unfold readDefault
  generalize below directory defaultFile = path at hentry ⊢
  simp only [hentry, readFile_of_find? hentry]
  cases fileText? entry with
  | none => simp
  | some text => rcases hread : reading (pathText path) text with (_ | _) | _ <;> simp [hread]

end DefaultFile

/-- **What leaves the loader**: some workflows, or a problem, unless the text breaks it, which it
does before its documents are looked at only if it resists being read. The default file is loaded or
passed over, unless its text breaks the loader. -/
theorem leavesLoader (source text : String) :
    (∀ workflows, parse source text = .ok workflows → workflows ≠ []) ∧
    ((∃ b, parse source text = .error (.breakdown b)) ↔ TextBreaks text) ∧
    (∀ obstacle, Yaml.documents text = .error obstacle → obstacle ≠ .malformed →
      Yaml.TextResists text obstacle) ∧
    ∀ disk directory entry, find? disk (below directory defaultFile) = .ok (some entry) →
      ((∃ b, readDefault parse disk directory = .error b) ↔
        ∃ text, fileText? entry = some text ∧ TextBreaks text) ∧
      ∀ workflows notices, readDefault parse disk directory = .ok (some workflows, notices) →
        workflows ≠ [] ∧ ∃ text, fileText? entry = some text ∧
          parse (pathText (below directory defaultFile)) text = .ok workflows := by
  refine ⟨fun _ ↦ ne_nil_of_parse, parse_breaks_iff,
    fun obstacle h hne ↦ (Yaml.failsOnly_documents obstacle h).resolve_left hne,
    fun disk directory entry hentry ↦ ⟨?_, ?_⟩⟩
  · simp only [readDefault_eq_error_iff hentry, ← @parse_breaks_iff
      (pathText (below directory defaultFile))]
    constructor
    · rintro ⟨b, text, htext, hb⟩
      exact ⟨text, htext, b, hb⟩
    · rintro ⟨text, htext, b, hb⟩
      exact ⟨b, text, htext, hb⟩
  · intro workflows notices hread
    obtain ⟨text, htext, hparse⟩ := (readDefault_eq_ok_some_iff hentry).1 ⟨notices, hread⟩
    exact ⟨ne_nil_of_parse hparse, text, htext, hparse⟩

/-- The breakdown that a loading ends with, if it does. -/
def brokenBy? : Except Failure (List Workflow) → Option Breakdown
  | .error (.breakdown b) => some b
  | _ => none

/-- The breakdown that evaluation shows is the one that the loading ends with. -/
theorem eq_breakdown_of_brokenBy? {loaded : Except Failure (List Workflow)}
    (h : brokenBy? loaded = some b) : loaded = .error (.breakdown b) := by
  unfold brokenBy? at h
  split at h
  · rw [Option.some.inj h]
  · cases h

/-- A day that there is not breaks the loader. -/
theorem parse_thirtieth_of_february : parse "<string>" "2023-02-30" =
    .error (.breakdown (.raised "ValueError" "day is out of range for month")) :=
  eq_breakdown_of_brokenBy? (by decide +kernel)

end ToolFlow.Definition

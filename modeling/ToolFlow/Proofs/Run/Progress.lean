import Mathlib.Data.List.Basic
import ToolFlow.Proofs.Run.Calls

/-!
# The progress of a run

Whoever is subscribed throughout a run is told of the same events, which can be read off the results
of the run (`eventsFor_of_execute`): that it starts; of each recorded step that it is attempted and,
where comments are wanted, that it is commented on; that the run is summed up; that it is complete.
Who else is subscribed, and who fails at an event, makes no difference.

`Told` says what a subscriber is told between two moments. It composes (`Told.trans`), and each part
of a run has one lemma: an announcement tells of its event (`told_announce`), and everything else
that a run does tells of none (`told_of_growsBy`). The counters of an event are those of the results
on record when it is announced, which at a boundary are those of the steps before it.

## The events as they are to be

`Progress.eventsOf` writes the events down field by field. It does not use the function by which a
run makes its events, nor the counter of failures that this function uses: an event counts the
results before it whose success is `false`. That the counter of the run, which is also that of its
result, is this number is `failedCount_eq`.

## Several registrations

One may be subscribed more than once, and is then told of each event as often. So the statement is
made for a number of registrations that is the same throughout the run, which is also the way to say
that nobody subscribes or leaves on the way. For one registration it is the list of events itself.
-/

namespace ToolFlow

namespace Trace

/-! ### Entries that no subscriber sees -/

variable {name : String} {entry : Entry}

/-- No call of a tool is an event. -/
theorem Entry.IsCall.eventFor?_eq_none (h : entry.IsCall) : entry.eventFor? name = none := by
  cases entry <;> first | rfl | exact h.elim

/-- Nothing that has to do with tracking is an event. -/
theorem Entry.IsTracking.eventFor?_eq_none (h : entry.IsTracking) :
    entry.eventFor? name = none := by
  cases entry <;> first | rfl | exact h.elim

/-- Nor is a request for a comment. -/
theorem Entry.IsQuestion.eventFor?_eq_none (h : entry.IsQuestion) :
    entry.eventFor? name = none := by
  cases entry <;> first | rfl | exact h.elim

end Trace

/-! ### The events of a run -/

/-- The counter of a run is the number of results without success. -/
theorem failedCount_eq (results : List StepResult) :
    failedCount results = results.countP fun result ↦ result.success = false := by
  rw [failedCount]
  exact congrArg (results.countP ·) (funext fun result ↦ by cases result.success <;> rfl)

namespace Progress

/-- The events of a step: it is attempted, after the results before it, and if comments are wanted
it is commented on, when its own result is on record as well. The failures among these results are
counted here, and not by the counter of the run. -/
def stepEvents (options : RunOptions) (workflow : Workflow) (results : List StepResult) (i : ℕ) :
    List Event :=
  { phase := .executing, current := i, total := workflow.steps.length, completed := i
    failed := (results.take i).countP fun result ↦ result.success = false
    step := workflow.steps[i]? } ::
  if options.analyzeSteps then
    [{ phase := .analyzing, current := i, total := workflow.steps.length, completed := i + 1
       failed := (results.take (i + 1)).countP fun result ↦ result.success = false
       step := workflow.steps[i]? }]
  else []

/-- An event after the last step, with all results on record. -/
def finalEvent (workflow : Workflow) (results : List StepResult) (phase : Phase) : Event :=
  { phase, current := workflow.steps.length, total := workflow.steps.length
    completed := results.length
    failed := results.countP fun result ↦ result.success = false }

/-- The events of a run that records these results. -/
def eventsOf (options : RunOptions) (workflow : Workflow) (results : List StepResult) :
    List Event :=
  { phase := .starting, current := 0, total := workflow.steps.length, completed := 0, failed := 0 }
    :: (List.range results.length).flatMap (stepEvents options workflow results) ++
    (if options.generateSummary then [finalEvent workflow results .summarizing] else []) ++
    [finalEvent workflow results .complete]

/-- The conclusion of a run announces final events. -/
theorem finalEvent_eq (workflow : Workflow) (results : List StepResult) (phase : Phase) :
    Event.of workflow phase workflow.steps.length none results =
      finalEvent workflow results phase := by
  rw [Event.of, finalEvent, failedCount_eq]

/-- The events of a step do not depend on later results. -/
theorem stepEvents_append {options : RunOptions} {workflow : Workflow}
    {results later : List StepResult} {i : ℕ} (h : i < results.length) :
    stepEvents options workflow (results ++ later) i = stepEvents options workflow results i := by
  rw [stepEvents, List.take_append_of_le_length (Nat.le_of_lt h),
    List.take_append_of_le_length h, stepEvents]

/-- They are announced with the results before the step, and then with its own. -/
theorem stepEvents_length {options : RunOptions} {workflow : Workflow} {results : List StepResult}
    {result : StepResult} {step : Step} (hstep : workflow.steps[results.length]? = some step) :
    stepEvents options workflow (results ++ [result]) results.length =
      .of workflow .executing results.length (some step) results ::
      if options.analyzeSteps then
        [.of workflow .analyzing results.length (some step) (results ++ [result])]
      else [] := by
  have hall : (results ++ [result]).take (results.length + 1) = results ++ [result] :=
    List.take_of_length_le (by simp)
  rw [stepEvents, hall, List.take_left, hstep]
  simp [Event.of, failedCount_eq]

/-- One more result adds the events of one more step. -/
theorem flatMap_stepEvents_append_singleton (options : RunOptions) (workflow : Workflow)
    (results : List StepResult) (result : StepResult) :
    (List.range (results ++ [result]).length).flatMap
        (stepEvents options workflow (results ++ [result])) =
      (List.range results.length).flatMap (stepEvents options workflow results) ++
        stepEvents options workflow (results ++ [result]) results.length := by
  rw [List.length_append, List.length_singleton, List.range_succ, List.flatMap_append,
    List.flatMap_singleton]
  congr 1
  exact List.flatMap_congr fun i hi ↦ stepEvents_append (List.mem_range.1 hi)

end Progress

namespace Environment

variable {env : Environment} {workflow : Workflow} {t₀ t t' t'' : Trace} {name : String} {m : ℕ}

/-! ### What a subscriber is told -/

variable (env) in
/-- How many registrations there are under a name at a moment. -/
def registrations (name : String) (t : Trace) : ℕ :=
  (env.subscribers t).countP fun subscriber ↦ subscriber.name == name

variable (env name m) in
/-- From one moment to another, who is registered throughout, `m` times, is told of the events in
their order, `m` times of each. -/
structure Told (t t' : Trace) (events : List Progress.Event) : Prop where
  isPrefix : t <+: t'
  eventsFor_eq : (∀ u, t <+: u → u <+: t' → env.registrations name u = m) →
    t'.eventsFor name = t.eventsFor name ++ events.flatMap (List.replicate m)

/-- Where nothing happens nobody is told of anything. -/
theorem Told.refl (t : Trace) : Told env name m t t [] :=
  ⟨List.prefix_rfl, fun _ ↦ by simp⟩

/-- **What is told from one moment to another and from there on is told from first to last.** Who is
registered throughout is so in either part. -/
theorem Told.trans {events events' : List Progress.Event} (h : Told env name m t t' events)
    (h' : Told env name m t' t'' events') : Told env name m t t'' (events ++ events') where
  isPrefix := h.isPrefix.trans h'.isPrefix
  eventsFor_eq := by
    intro hregistered
    rw [h'.eventsFor_eq fun u hu hu' ↦ hregistered u (h.isPrefix.trans hu) hu',
      h.eventsFor_eq fun u hu hu' ↦ hregistered u hu (hu'.trans h'.isPrefix),
      List.append_assoc, List.flatMap_append]

/-- Entries that no subscriber sees tell of nothing. -/
theorem told_of_growsBy {sort : Trace.Entry → Prop} (h : Trace.GrowsBy sort t t')
    (hsort : ∀ entry, sort entry → entry.eventFor? name = none) : Told env name m t t' [] :=
  ⟨h.isPrefix, fun _ ↦ by
    rw [List.flatMap_nil, List.append_nil]
    exact h.filterMap_eq hsort⟩

/-- One who is told of an event has it on record, failing at it or not. -/
theorem eventsFor_tell (event : Progress.Event) (t : Trace) (subscriber : Subscriber) :
    (tell event t subscriber).eventsFor name =
      t.eventsFor name ++ if subscriber.name == name then [event] else [] := by
  have htold : Trace.eventsFor name [.told subscriber.name event] =
      if subscriber.name == name then [event] else [] := by
    by_cases h : subscriber.name = name <;> simp [Trace.eventsFor, Trace.Entry.eventFor?, h]
  dsimp only [tell]
  -- the line of the log about a subscriber that fails is no event
  split
  · rw [Trace.eventsFor_append, Trace.eventsFor_append, htold, List.append_assoc]
    exact congrArg _ (List.append_nil _)
  · rw [Trace.eventsFor_append, htold]

/-- **An announcement tells each registration of its event once**, whoever fails at it. -/
theorem eventsFor_announce (event : Progress.Event) (t : Trace) :
    (env.announce event t).eventsFor name =
      t.eventsFor name ++ List.replicate (env.registrations name t) event := by
  -- the registrations are those at the start, while the trace grows from one to the next
  suffices h : ∀ (subscribers : List Subscriber) (t : Trace),
      (subscribers.foldl (tell event) t).eventsFor name = t.eventsFor name ++
        List.replicate (subscribers.countP fun s ↦ s.name == name) event from
    h (env.subscribers t) t
  intro subscribers
  induction subscribers with
  | nil => simp
  | cons subscriber rest ih =>
    intro t
    rw [List.foldl_cons, ih, eventsFor_tell, List.countP_cons, List.append_assoc]
    by_cases h : (subscriber.name == name) = true <;> simp [h, List.replicate_succ]

/-- An announcement tells of its event, and nobody subscribes or leaves meanwhile. -/
theorem told_announce (event : Progress.Event) (t : Trace) :
    Told env name m t (env.announce event t) [event] := by
  refine ⟨(env.announce_growsBy event t).isPrefix, fun hregistered ↦ ?_⟩
  rw [eventsFor_announce, hregistered t List.prefix_rfl (env.announce_growsBy event t).isPrefix,
    List.flatMap_singleton]

/-- After the last step, the announcement of a phase tells of its final event. -/
theorem told_announcePhase_final (workflow : Workflow) (results : List StepResult)
    (phase : Progress.Phase) (t : Trace) :
    Told env name m t (env.announcePhase workflow phase workflow.steps.length none results t)
      [Progress.finalEvent workflow results phase] := by
  rw [← Progress.finalEvent_eq]
  exact told_announce _ t

/-! ### What a run tells of -/

/-- The start of a run tells of itself alone. -/
theorem told_start (workflow : Workflow) (t : Trace) :
    Told env name m t (env.start workflow t).1 [.of workflow .starting 0 none []] :=
  (told_announce _ t).trans (told_of_growsBy
    (env.withSession_growsBy (fun session ↦ session.beforeRun_growsBy) {} _)
    fun _ ↦ Trace.Entry.IsTracking.eventFor?_eq_none)

/-- What a comment tells of: that it is asked for. -/
theorem told_analyze {earlier : List StepResult} {result : StepResult}
    {outcome : Except Breakdown StepResult}
    (h : env.analyze workflow earlier result t = (t', outcome)) :
    Told env name m t t' (if env.options.analyzeSteps then
      [.of workflow .analyzing result.index (some result.step) (earlier ++ [result])] else []) := by
  dsimp only [analyze] at h
  cases hwanted : env.options.analyzeSteps with
  | false =>
    rw [hwanted] at h
    obtain ⟨rfl, -⟩ := Prod.mk.inj h
    exact .refl t
  | true =>
    simp only [hwanted, Bool.not_true, Bool.false_eq_true, if_false, if_true] at h ⊢
    split at h
    · obtain ⟨rfl, -⟩ := Prod.mk.inj h
      exact told_announce _ t
    · obtain ⟨rfl, -⟩ := Prod.mk.inj h
      exact (told_announce _ t).trans (told_of_growsBy (env.comment_growsBy _ _ _ _ _)
        fun _ ↦ Trace.Entry.IsQuestion.eventFor?_eq_none)

/-- **The step lemma**: a step that comes to a result tells of its own events. -/
theorem told_advance {i : ℕ} {step : Step} {standing : Standing} {result : StepResult}
    {captured : Tracking.Captured} (hstep : workflow.steps[i]? = some step)
    (hlength : standing.results.length = i)
    (h : env.advance workflow i step standing t = (t', .ok (result, captured))) :
    Told env name m t t'
      (Progress.stepEvents env.options workflow (standing.results ++ [result]) i) := by
  obtain ⟨t₁, t₂, attempted, hattempt, hsession, hanalyze⟩ := advance_eq_ok h
  have hsound := sound_of_attempt hattempt
  obtain ⟨analysis, rfl⟩ := analyze_eq_ok hanalyze
  -- neither the attempt nor the snapshot tells of anything
  have hquiet : Told env name m
      (env.announcePhase workflow .executing i (some step) standing.results t) t₂ [] := by
    have hcall := env.attempt_growsBy standing.results i step
      (env.announcePhase workflow .executing i (some step) standing.results t)
    have hsnapshot := env.withSession_growsBy (fun session ↦ session.afterStep_growsBy i)
      standing.captured t₁
    rw [hattempt] at hcall
    rw [hsession] at hsnapshot
    exact (told_of_growsBy hcall fun _ ↦ Trace.Entry.IsCall.eventFor?_eq_none).trans
      (told_of_growsBy hsnapshot fun _ ↦ Trace.Entry.IsTracking.eventFor?_eq_none)
  subst hlength
  rw [Progress.stepEvents_length hstep]
  have hanalyzed : Told env name m t₂ t' _ := told_analyze hanalyze
  -- the comment comes later and changes no counter
  have hcounters : Progress.Event.of workflow .analyzing standing.results.length (some step)
      (standing.results ++ [attempted]) = .of workflow .analyzing standing.results.length
        (some step) (standing.results ++ [{ attempted with analysis }]) := by
    simp [Progress.Event.of, failedCount]
  rw [hsound.step_eq, hsound.index_eq, hcounters] at hanalyzed
  exact ((told_announce _ t).trans hquiet).trans hanalyzed

/-- **Where the attempts end the events are those of the start and of the steps on record.** -/
theorem told_of_ends {standing : Standing} (h : Ends env workflow t₀ standing t) :
    Told env name m t₀ t (.of workflow .starting 0 none [] ::
      (List.range standing.results.length).flatMap
        (Progress.stepEvents env.options workflow standing.results)) := by
  refine h.of_kept (motive := fun results _ t ↦ Told env name m t₀ t
    (.of workflow .starting 0 none [] :: (List.range results.length).flatMap
      (Progress.stepEvents env.options workflow results))) (told_start workflow t₀) ?_
  intro standing t t' step result captured htold hstep hadvance
  rw [Progress.flatMap_stepEvents_append_singleton]
  exact htold.trans (told_advance hstep rfl hadvance)

/-- A summary tells of itself, where one is wanted. -/
theorem told_summarize {results : List StepResult} {success : Bool}
    {outcome : Except Breakdown (Option String)}
    (h : env.summarize workflow results success t = (t', outcome)) :
    Told env name m t t' (if env.options.generateSummary then
      [Progress.finalEvent workflow results .summarizing] else []) := by
  dsimp only [summarize] at h
  cases hwanted : env.options.generateSummary with
  | false =>
    rw [hwanted] at h
    obtain ⟨rfl, -⟩ := Prod.mk.inj h
    exact .refl t
  | true =>
    simp only [hwanted, Bool.not_true, Bool.false_eq_true, if_false, if_true] at h ⊢
    have hgrows := env.comment_growsBy (Commentary.summaryPrompt workflow results success)
      Commentary.summaryOptions env.options.timeouts.summary
      (Commentary.fallbackSummary workflow results success)
      (env.announcePhase workflow .summarizing workflow.steps.length none results t)
    rw [h] at hgrows
    exact (told_announcePhase_final workflow results .summarizing t).trans
      (told_of_growsBy hgrows fun _ ↦ Trace.Entry.IsQuestion.eventFor?_eq_none)

/-- The conclusion of a run tells of the summary and of itself. -/
theorem told_complete {standing : Standing} {result : WorkflowResult}
    (h : env.complete workflow standing t = (t', .ok result)) :
    Told env name m t t' ((if env.options.generateSummary then
      [Progress.finalEvent workflow standing.results .summarizing] else []) ++
      [Progress.finalEvent workflow standing.results .complete]) := by
  obtain ⟨t₁, t₂, t₃, captured, hsession, hfinish, hsummary, rfl⟩ := conclusion_of_complete h
  have hsnapshot := env.withSession_growsBy
    (fun session ↦ session.afterRun_growsBy ((standing.results.length : Int) - 1))
    standing.captured t
  have htracked := env.finishTracking_growsBy standing.results captured t₁
  rw [hsession] at hsnapshot
  rw [hfinish] at htracked
  have hquiet : Told env name m t t₂ [] :=
    (told_of_growsBy hsnapshot fun _ ↦ Trace.Entry.IsTracking.eventFor?_eq_none).trans
      (told_of_growsBy htracked fun _ h ↦ h.isTracking.eventFor?_eq_none)
  exact (hquiet.trans (told_summarize hsummary)).trans
    (told_announcePhase_final workflow standing.results .complete t₃)

/-! ### The progress of a run -/

/-- **Who is subscribed throughout a run is told of the events that its results call for**, in their
order: each of them once for every registration, so exactly of these if there is one. The failures
that the last events count are those that the result of the run counts. -/
theorem eventsFor_of_execute {result : WorkflowResult}
    (h : env.execute workflow t₀ = (t', .ok result))
    (hthroughout : ∀ t, t₀ <+: t → t <+: t' → env.registrations name t = m) :
    t'.eventsFor name = t₀.eventsFor name ++
        (Progress.eventsOf env.options workflow result.steps).flatMap (List.replicate m) ∧
      (m = 1 → t'.eventsFor name =
        t₀.eventsFor name ++ Progress.eventsOf env.options workflow result.steps) ∧
      result.stepsFailed = result.steps.countP fun result ↦ result.success = false := by
  obtain ⟨standing, t, hends, hcomplete⟩ := ends_of_execute h
  obtain ⟨-, hsteps, -⟩ := complete_eq_ok hcomplete
  have htold : Told env name m t₀ t' (Progress.eventsOf env.options workflow result.steps) := by
    rw [hsteps, Progress.eventsOf, List.append_assoc]
    exact (told_of_ends hends).trans (told_complete hcomplete)
  refine ⟨htold.eventsFor_eq hthroughout, ?_, failedCount_eq result.steps⟩
  rintro rfl
  rw [htold.eventsFor_eq hthroughout]
  exact congrArg _ (List.flatMap_singleton' _)

/-! ### The progress of an errand -/

/-- The errand is followed by one who fails at every event, and by a listener after that. -/
def followedErrandPlan : Rehearsal.Plan :=
  { errandPlan with audience := .brokenFirst }

/-- The listener is told of all that the results of the errand call for. Of its five steps four are
attempted, and the second and the fourth of them fail: the counters of each event are those of the
results before it. -/
theorem eventsFor_of_errand :
    (∀ t, followedErrandPlan.environment.registrations Rehearsal.listenerName t = 1) ∧
      ∃ t' result, followedErrandPlan.environment.execute errand [] = (t', .ok result) ∧
        result.steps.map (·.success) = [true, false, true, false] ∧ result.stepsFailed = 2 ∧
        t'.eventsFor Rehearsal.listenerName =
          Progress.eventsOf followedErrandPlan.options errand result.steps ∧
        (t'.eventsFor Rehearsal.listenerName).map (fun event ↦
            (event.phase, event.current, event.total, event.completed, event.failed)) =
          [(.starting, 0, 5, 0, 0), (.executing, 0, 5, 0, 0), (.analyzing, 0, 5, 1, 0),
            (.executing, 1, 5, 1, 0), (.analyzing, 1, 5, 2, 1), (.executing, 2, 5, 2, 1),
            (.analyzing, 2, 5, 3, 1), (.executing, 3, 5, 3, 1), (.analyzing, 3, 5, 4, 2),
            (.summarizing, 5, 5, 4, 2), (.complete, 5, 5, 4, 2)] := by
  have hthroughout : ∀ t,
      followedErrandPlan.environment.registrations Rehearsal.listenerName t = 1 := fun t ↦ by
    show [Rehearsal.brokenSubscriber, Rehearsal.listener].countP
      (fun subscriber ↦ subscriber.name == Rehearsal.listenerName) = 1
    decide
  have hrun : ((followedErrandPlan.environment.execute errand []).2.toOption.map fun result ↦
      (result.steps.map (·.success), result.stepsFailed)) =
        some ([true, false, true, false], 2) := by
    decide +kernel
  obtain ⟨t', result, h, hshown⟩ := Except.exists_eq_ok_of_shows hrun
  obtain ⟨hsuccesses, hfailed⟩ := Prod.mk.inj hshown
  obtain ⟨-, htold, -⟩ := eventsFor_of_execute h fun t _ _ ↦ hthroughout t
  refine ⟨hthroughout, t', result, h, hsuccesses, hfailed, htold rfl, ?_⟩
  rw [show t' = (followedErrandPlan.environment.execute errand []).1 by rw [h]]
  decide +kernel

end Environment

end ToolFlow

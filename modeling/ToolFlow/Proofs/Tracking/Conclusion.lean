import ToolFlow.Proofs.Tracking.Changes

/-!
# The end of a tracking session

At the end of a run a tracker is asked for the parts that tools play, for the dependencies between
steps, for their verification when there is something to verify them with, and for a summary. It may
fail at any of these questions. `Session.ConcludesWith` says what is made of its answers and which
questions are put: each part of the bundle is governed by its own question, with something to stand
in for it, and the dependencies by two of them, where a failure of the second leaves the answer to
the first in place.

Failures stay where they are (`concludes_finish`). The trackers that fail at some of the questions
and otherwise answer like a given one (`Tracker.beset`) give rise to the same roles when they fail
alike at that question, and to the same dependencies when they fail alike at those two. This takes a
tracker that does not read the log, since failures are noted there.

## Main definitions

* `Session.Depends`: the four ways in which dependencies come about, each with the question of
  verification if it is put.
* `Session.ConcludesWith`: the bundle and the questions, part by part.
* `Setbacks`, `Tracker.beset`: the errors that a tracker meets at the four questions.

## Main results

* `concludesWith_finish`: every session ends as `ConcludesWith` says, put together from one lemma
  for each question (`roles_eq`, `depends_dependencies`, `withSummary_eq`).
* `concludes_finish`: the same, with the independence of the parts from failures elsewhere. A
  summary is written with all the rest in view, so of it only what stands in for it is independent.
-/

namespace ToolFlow

/-- What happened, without the lines of the log. -/
def Trace.unlogged (t : Trace) : Trace :=
  t.filter fun entry ↦ entry.notice?.isNone

namespace Tracking

variable {α : Type}

/-! ### Trackers that fail -/

/-- The questions at the end of a run at which a tracker fails, each with its error. -/
structure Setbacks where
  toolInfo : Option String := none
  infer : Option String := none
  verify : Option String := none
  summarize : Option String := none

/-- An answer, or the error in its place if there is one. -/
def orFailing (answer : Except String α) (error : Option String) : Except String α :=
  match error with
  | some error => .error error
  | none => answer

/-- The tracker that fails at some questions and answers the others as before. -/
def Tracker.beset (tracker : Tracker) (setbacks : Setbacks) : Tracker :=
  { tracker with
    toolInfo := fun t ↦ orFailing (tracker.toolInfo t) setbacks.toolInfo
    infer := fun t results ↦ orFailing (tracker.infer t results) setbacks.infer
    verify := fun t dependencies captured ↦
      orFailing (tracker.verify t dependencies captured) setbacks.verify
    summarize := fun t bundle ↦ orFailing (tracker.summarize t bundle) setbacks.summarize }

/-- A tracker whose dependencies do not hang on the lines of the log. -/
structure Tracker.IgnoresLog (tracker : Tracker) : Prop where
  infer : ∀ t t', t.unlogged = t'.unlogged → tracker.infer t = tracker.infer t'
  verify : ∀ t t', t.unlogged = t'.unlogged → tracker.verify t = tracker.verify t'

namespace Session

/-- The session with a tracker that fails at some questions. -/
def beset (session : Session) (setbacks : Setbacks) : Session :=
  { session with tracker := session.tracker.beset setbacks }

variable (session : Session) (results : List StepResult) (captured : Captured) (t : Trace)

/-! ### What is made of the answers -/

/-- The moment at which dependencies are asked for. -/
def afterRoles : Trace :=
  (session.roles t).1

/-- The moment at which they are to be verified. -/
def afterInference : Trace :=
  session.afterRoles t ++ [.tracked (.infer results.length)]

/-- The moment at which a summary is asked for. -/
def afterDependencies : Trace :=
  (session.dependencies results captured (session.afterRoles t)).1

/-- The dependencies that come of the answers to two questions, and the second question, if it is
put. -/
inductive Depends : List Dependency → List Request → Prop
  | notInferred {error : String}
      (hinfer : session.tracker.infer (session.afterRoles t) results = .error error) :
      Depends [] []
  | unverified {inferred : List Dependency}
      (hinfer : session.tracker.infer (session.afterRoles t) results = .ok inferred)
      (hnothing : captured.snapshots = [] ∨ captured.changes = []) :
      Depends inferred []
  | notVerified {inferred : List Dependency} {error : String}
      (hinfer : session.tracker.infer (session.afterRoles t) results = .ok inferred)
      (hsnapshots : captured.snapshots ≠ []) (hchanges : captured.changes ≠ [])
      (hverify : session.tracker.verify (session.afterInference results t) inferred captured =
        .error error) :
      Depends inferred
        [.verify inferred.length captured.snapshots.length captured.changes.length]
  | verified {inferred verified : List Dependency}
      (hinfer : session.tracker.infer (session.afterRoles t) results = .ok inferred)
      (hsnapshots : captured.snapshots ≠ []) (hchanges : captured.changes ≠ [])
      (hverify : session.tracker.verify (session.afterInference results t) inferred captured =
        .ok verified) :
      Depends verified
        [.verify inferred.length captured.snapshots.length captured.changes.length]

/-- What a session ends with: a bundle, and the questions that were put for it. -/
structure ConcludesWith (later : Trace) (bundle : Bundle) : Prop where
  kept : bundle.toCaptured = captured
  roles : bundle.roles = (session.tracker.toolInfo t).toOption.getD []
  dependencies : ∃ verification,
    session.Depends results captured t bundle.dependencies verification ∧
      later.requests = t.requests ++ [.toolInfo, .infer results.length] ++ verification ++
        [.summarize bundle.dependencies.length bundle.roles.length]
  /-- The summary is written with all the rest in view. -/
  summary : bundle.summary =
    match session.tracker.summarize (session.afterDependencies results captured t)
      { bundle with summary := none } with
    | .ok summary => summary
    | .error _ =>
      some ("Captured " ++ toString captured.snapshots.length ++ " state snapshots and detected " ++
        toString captured.changes.length ++ " state changes.")

/-! ### The questions one by one -/

/-- A line of the log is no question. -/
theorem requests_noticed (t : Trace) (error : String) :
    Trace.requests (t ++ [failure error]) = t.requests := by
  rw [Trace.requests_append]
  exact List.append_nil _

/-- A question is one question. -/
theorem requests_tracked (t : Trace) (request : Request) :
    Trace.requests (t ++ [.tracked request]) = t.requests ++ [request] :=
  Trace.requests_append t _

/-- The parts that tools play are the answer to the first question, and none when it fails. -/
theorem roles_eq :
    (session.roles t).2 = (session.tracker.toolInfo t).toOption.getD [] ∧
      (session.afterRoles t).requests = t.requests ++ [.toolInfo] := by
  rw [afterRoles, roles]
  split
  · next h => exact ⟨by rw [h]; rfl, requests_tracked t _⟩
  · next h => exact ⟨by rw [h]; rfl, (requests_noticed _ _).trans (requests_tracked t _)⟩

/-- The dependencies come about in one of the four ways, and the questions are those of that way. -/
theorem depends_dependencies : ∃ verification,
    session.Depends results captured t
        (session.dependencies results captured (session.afterRoles t)).2 verification ∧
      (session.afterDependencies results captured t).requests =
        (session.afterRoles t).requests ++ .infer results.length :: verification := by
  rw [afterDependencies, dependencies]
  split
  · next h =>
    exact ⟨[], .notInferred h, (requests_noticed _ _).trans (requests_tracked _ _)⟩
  · next inferred hinfer =>
    split
    · next hnothing =>
      refine ⟨[], .unverified hinfer ?_, requests_tracked _ _⟩
      simpa using hnothing
    · next hsome =>
      obtain ⟨hsnapshots, hchanges⟩ : captured.snapshots ≠ [] ∧ captured.changes ≠ [] := by
        simpa using hsome
      dsimp only
      split
      · next hverify =>
        refine ⟨_, .verified hinfer hsnapshots hchanges hverify, ?_⟩
        rw [requests_tracked, requests_tracked, List.append_assoc]
        rfl
      · next hverify =>
        refine ⟨_, .notVerified hinfer hsnapshots hchanges hverify,
          (requests_noticed _ _).trans ?_⟩
        rw [requests_tracked, requests_tracked, List.append_assoc]
        rfl

/-- What stands in for a summary counts snapshots and changes. -/
theorem fallbackSummary_eq : fallbackSummary captured =
    "Captured " ++ toString captured.snapshots.length ++ " state snapshots and detected " ++
      toString captured.changes.length ++ " state changes." := by
  have hjoined : " state snapshots and detected " = " state snapshots and " ++ "detected " := rfl
  rw [hjoined]
  simp only [fallbackSummary, String.append_assoc]
  rfl

/-- A summary is asked for once. When the question fails the summary is what stands in for it. -/
theorem withSummary_eq (bundle : Bundle) :
    (session.withSummary bundle t).2 =
        { bundle with
          summary := match session.tracker.summarize t bundle with
            | .ok summary => summary
            | .error _ => some (fallbackSummary bundle.toCaptured) } ∧
      (session.withSummary bundle t).1.requests =
        t.requests ++ [.summarize bundle.dependencies.length bundle.roles.length] := by
  unfold withSummary
  cases session.tracker.summarize t bundle with
  | ok summary => exact ⟨rfl, requests_tracked t _⟩
  | error error => exact ⟨rfl, (requests_noticed _ _).trans (requests_tracked t _)⟩

/-- The bundle, put together from the answers. -/
theorem finish_eq : (session.finish results captured t).2 =
    { toCaptured := captured
      dependencies := (session.dependencies results captured (session.afterRoles t)).2
      roles := (session.roles t).2
      summary :=
        match session.tracker.summarize (session.afterDependencies results captured t)
          { toCaptured := captured
            dependencies := (session.dependencies results captured (session.afterRoles t)).2
            roles := (session.roles t).2 } with
        | .ok summary => summary
        | .error _ => some (fallbackSummary captured) } :=
  (session.withSummary_eq _ _).1

/-- The last question is the one for a summary. -/
theorem requests_finish : (session.finish results captured t).1.requests =
    (session.afterDependencies results captured t).requests ++
      [.summarize (session.finish results captured t).2.dependencies.length
        (session.finish results captured t).2.roles.length] := by
  rw [finish_eq]
  exact (session.withSummary_eq _ _).2

/-- **Each part of the bundle is made of the answer to its own question**, or of what stands in for
it. -/
theorem concludesWith_finish :
    session.ConcludesWith results captured t (session.finish results captured t).1
      (session.finish results captured t).2 := by
  obtain ⟨hroles, hasked⟩ := session.roles_eq t
  obtain ⟨verification, hdepends, hverification⟩ :=
    session.depends_dependencies results captured t
  constructor
  · rw [finish_eq]
  · rw [finish_eq, hroles]
  · refine ⟨verification, by rwa [finish_eq], ?_⟩
    rw [requests_finish, hverification, hasked]
    simp
  · rw [finish_eq, ← fallbackSummary_eq]

/-! ### Failures that stay where they are -/

variable {session results captured t} {setbacks setbacks' : Setbacks} {t' : Trace}

/-- Of a failure only matters that there is one. -/
theorem toOption_orFailing {answer : Except String α} {error error' : Option String}
    (h : error.isSome = error'.isSome) :
    (orFailing answer error).toOption = (orFailing answer error').toOption := by
  cases error <;> cases error' <;> first | rfl | cases h

/-- Log lines apart, a moment passes in the same way whether or not the first question fails. -/
theorem unlogged_roles (session : Session) (t : Trace) :
    Trace.unlogged (session.roles t).1 = t.unlogged ++ [.tracked .toolInfo] := by
  rw [roles]
  split <;> simp [Trace.unlogged, Trace.Entry.notice?, failure]

/-- The dependencies are what the two questions come to, whatever the errors are. -/
theorem dependencies_eq : (session.dependencies results captured t).2 =
    match (session.tracker.infer t results).toOption with
    | none => []
    | some inferred =>
      if captured.snapshots.isEmpty || captured.changes.isEmpty then inferred
      else (session.tracker.verify (t ++ [.tracked (.infer results.length)]) inferred
        captured).toOption.getD inferred := by
  rw [dependencies]
  cases session.tracker.infer t results with
  | error error => rfl
  | ok inferred =>
    dsimp only [Except.toOption]
    split
    · rfl
    · cases session.tracker.verify (t ++ [.tracked (.infer results.length)]) inferred captured <;>
        rfl

/-- Trackers that fail alike at the questions about dependencies give rise to the same ones. -/
theorem dependencies_beset_congr (hlog : session.tracker.IgnoresLog)
    (hinfer : setbacks.infer.isSome = setbacks'.infer.isSome)
    (hverify : setbacks.verify.isSome = setbacks'.verify.isSome)
    (ht : t.unlogged = t'.unlogged) :
    ((session.beset setbacks).dependencies results captured t).2 =
      ((session.beset setbacks').dependencies results captured t').2 := by
  have hanswer : ((session.beset setbacks).tracker.infer t results).toOption =
      ((session.beset setbacks').tracker.infer t' results).toOption := by
    show (orFailing (session.tracker.infer t results) _).toOption = _
    rw [hlog.infer t t' ht]
    exact toOption_orFailing hinfer
  have hlater : Trace.unlogged (t ++ [.tracked (.infer results.length)]) =
      Trace.unlogged (t' ++ [.tracked (.infer results.length)]) := by
    simpa [Trace.unlogged] using ht
  have hanswer' (inferred : List Dependency) :
      ((session.beset setbacks).tracker.verify (t ++ [.tracked (.infer results.length)]) inferred
        captured).toOption =
      ((session.beset setbacks').tracker.verify (t' ++ [.tracked (.infer results.length)]) inferred
        captured).toOption := by
    show (orFailing (session.tracker.verify _ inferred captured) _).toOption = _
    rw [hlog.verify _ _ hlater]
    exact toOption_orFailing hverify
  rw [dependencies_eq, dependencies_eq, hanswer]
  simp only [hanswer']

/-- Trackers that fail alike at the question about tools give rise to the same roles. -/
theorem roles_beset_congr (h : setbacks.toolInfo.isSome = setbacks'.toolInfo.isSome) :
    ((session.beset setbacks).roles t).2 = ((session.beset setbacks').roles t).2 := by
  rw [(roles_eq _ t).1, (roles_eq _ t).1]
  exact congrArg (Option.getD · []) (toOption_orFailing h)

/-- When a summary cannot be had the same text stands in for it, whatever the error is. -/
theorem summary_beset {error : String} (h : setbacks.summarize = some error) :
    ((session.beset setbacks).finish results captured t).2.summary =
      some (fallbackSummary captured) := by
  rw [finish_eq]
  simp [beset, Tracker.beset, orFailing, h]

/-- **What a session ends with, and that failures stay with their questions.** Each part of the
bundle is made of the answer to its own question, or of what stands in for it. Trackers that fail
alike at the question about tools, or at those about dependencies, and otherwise answer alike, give
rise to the same roles, or dependencies; what was captured is kept in any case, and a summary that
cannot be had is made up for by the same text whatever else fails. -/
theorem concludes_finish (session : Session) (results : List StepResult) (captured : Captured)
    (t : Trace) :
    session.ConcludesWith results captured t (session.finish results captured t).1
        (session.finish results captured t).2 ∧
      (session.tracker.IgnoresLog → ∀ setbacks setbacks' : Setbacks,
        let bundle := ((session.beset setbacks).finish results captured t).2
        let bundle' := ((session.beset setbacks').finish results captured t).2
        bundle.toCaptured = bundle'.toCaptured ∧
          (setbacks.toolInfo.isSome = setbacks'.toolInfo.isSome → bundle.roles = bundle'.roles) ∧
          (setbacks.infer.isSome = setbacks'.infer.isSome →
            setbacks.verify.isSome = setbacks'.verify.isSome →
              bundle.dependencies = bundle'.dependencies) ∧
          (setbacks.summarize.isSome = true → setbacks'.summarize.isSome = true →
            bundle.summary = bundle'.summary)) := by
  refine ⟨concludesWith_finish session results captured t, fun hlog setbacks setbacks' ↦ ?_⟩
  refine ⟨?_, fun htools ↦ ?_, fun hinfer hverify ↦ ?_, fun hsummary hsummary' ↦ ?_⟩
  · rw [toCaptured_finish, toCaptured_finish]
  · rw [finish_eq, finish_eq]
    exact roles_beset_congr htools
  · have htrace : ((session.beset setbacks).afterRoles t).unlogged =
        ((session.beset setbacks').afterRoles t).unlogged := by
      rw [afterRoles, afterRoles, unlogged_roles, unlogged_roles]
    rw [finish_eq, finish_eq]
    exact dependencies_beset_congr hlog hinfer hverify htrace
  · obtain ⟨_, herror⟩ := Option.isSome_iff_exists.1 hsummary
    obtain ⟨_, herror'⟩ := Option.isSome_iff_exists.1 hsummary'
    rw [summary_beset herror, summary_beset herror']

end Session

/-! ### A session that fails at its end -/

/-- An order that was placed between two steps. -/
def placed : Captured where
  snapshots := [{ moment := Rehearsal.snapshotMoment, afterStep := -1 }]
  changes := [{ kind := .created, path := "order", causedBy := 0 }]

/-- The results of the two steps. -/
def placedBy : List StepResult :=
  List.replicate 2 { step := { tool := "place" }, index := 0, success := true }

/-- When verification fails the dependency that was inferred stays, whether or not the other two
questions fail as well. -/
theorem concludes_order :
    let session := orderSession {}
    let bundle := ((session.beset { verify := some "lost" }).finish placedBy placed []).2
    let bundle' := ((session.beset { toolInfo := some "down", verify := some "gone"
                                     summarize := some "mute" }).finish placedBy placed []).2
    session.ConcludesWith placedBy placed [] (session.finish placedBy placed []).1
        (session.finish placedBy placed []).2 ∧
      session.tracker.IgnoresLog ∧ bundle.dependencies = bundle'.dependencies ∧
      bundle.dependencies.map (·.verified) = [false] ∧ bundle'.roles.length = 0 ∧
      bundle'.summary = some "Captured 1 state snapshots and detected 1 state changes." := by
  obtain ⟨hconcludes, hisolated⟩ := (orderSession {}).concludes_finish placedBy placed []
  have hlog : (orderSession {}).tracker.IgnoresLog := ⟨fun _ _ _ ↦ rfl, fun _ _ _ ↦ rfl⟩
  obtain ⟨-, -, hdependencies, -⟩ := hisolated hlog { verify := some "lost" }
    { toolInfo := some "down", verify := some "gone", summarize := some "mute" }
  exact ⟨hconcludes, hlog, hdependencies rfl rfl, by decide, by decide, by decide⟩

end Tracking

end ToolFlow

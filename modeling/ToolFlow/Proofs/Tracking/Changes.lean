import ToolFlow.Proofs.Tracking.Requests
import ToolFlow.Rehearsal.Tracker

/-!
# The changes that a session reports

A session compares a snapshot with one that it kept before: after a step with the latest, and after
the run with the first. When it compares after each step, what it keeps after the run is compared
with nothing, since all of it was compared before.

`Captured.Accounts` is what comparing is for: where the first snapshot and the latest hold different
things under a key, some change of that key is on record. Before the run and after each step it
holds however many snapshots were not taken (`Stepped.accounts`), for the comparison is with the
latest snapshot that was. After the run it holds when this is where the session compares
(`accounts_afterRun`). When it is not, a key that only changed after the latest comparison may go
unreported, and no other (`reports_of_stepped`).

## Main definitions

* `Tracker.ReportsAll`: the assumption on the tracker, of which only the comparison is asked.
* `Stepped`: what a session can have captured after its moment before the run and some number of
  moments after steps, with any trace in between.

## Main results

* `Stepped.accounts`, by induction on the steps; the step is `accounts_afterStep`, and both rest on
  what keeping one more snapshot does to the account (`accounts_keep`).
* `reports_of_stepped`: what a whole session reports.
* `reports_of_order` and `not_reports_of_late_order`: a session that tells of an order placed by a
  step, and one in which the order is placed after the latest comparison and goes unreported.
-/

namespace ToolFlow.Tracking

variable {α : Type*} {held : String → Snapshot → α} {name : String} {captured : Captured}

/-! ### Accounting for a key -/

/-- A tracker that answers all comparisons, and reports a change of every key under which the two
snapshots hold different things. -/
def Tracker.ReportsAll (tracker : Tracker) (held : String → Snapshot → α) : Prop :=
  ∀ t before after step, ∃ changes, tracker.compare t before after step = .ok changes ∧
    ∀ name, held name before ≠ held name after → ∃ change ∈ changes, change.path = name

/-- Some change of a key is on record. -/
def Captured.Reports (captured : Captured) (name : String) : Prop :=
  ∃ change ∈ captured.changes, change.path = name

variable (held captured name) in
/-- What came of a key between the first snapshot and another one is on record. -/
def Captured.AccountsTo (snapshot : Snapshot) : Prop :=
  ∀ first ∈ captured.snapshots.head?, held name first ≠ held name snapshot → captured.Reports name

variable (held captured name) in
/-- What came of a key between the first snapshot and the latest is on record. -/
def Captured.Accounts : Prop :=
  ∀ last ∈ captured.snapshots.getLast?, captured.AccountsTo held name last

/-- The first of the snapshots after one more is kept: that one alone, or the first as before. -/
theorem head?_concat {snapshots : List Snapshot} {latest first : Snapshot}
    (h : (snapshots ++ [latest]).head? = some first) :
    snapshots = [] ∧ latest = first ∨ snapshots.head? = some first := by
  cases snapshots with
  | nil => exact .inl ⟨rfl, Option.some.inj h⟩
  | cons oldest rest => exact .inr h

/-- Before any snapshot is kept nothing is to be accounted for. -/
theorem Captured.accounts_of_snapshots_eq_nil (h : captured.snapshots = []) :
    captured.Accounts held name := by
  intro last hlast
  simp [h] at hlast

/-- Where another snapshot differs from the first, a change is on record or the latest so far does
not differ yet. -/
theorem Captured.Accounts.reports_or_eq (h : captured.Accounts held name) {first last : Snapshot}
    (hfirst : (captured.snapshots ++ [last]).head? = some first)
    (hne : held name first ≠ held name last) :
    captured.Reports name ∨ ∃ previous, captured.snapshots.getLast? = some previous ∧
      held name previous = held name first := by
  rcases head?_concat hfirst with ⟨-, rfl⟩ | holdest
  · exact absurd rfl hne
  have hnonempty : captured.snapshots ≠ [] := fun hnil ↦ by simp [hnil] at holdest
  have hlatest := List.getLast?_eq_some_getLast hnonempty
  by_cases hsame : held name first = held name (captured.snapshots.getLast hnonempty)
  · exact .inr ⟨_, hlatest, hsame.symm⟩
  · exact .inl (h _ hlatest first holdest hsame)

namespace Session

variable {session : Session}

/-! ### Keeping a snapshot -/

/-- What is on record stays on record. -/
theorem reports_keep (earlier : Option Snapshot) (snapshot : Snapshot) (step : Int) (t : Trace)
    (h : captured.Reports name) :
    (session.keep earlier snapshot step captured t).2.Reports name := by
  obtain ⟨change, hmem, hpath⟩ := h
  refine ⟨change, ?_, hpath⟩
  cases earlier with
  | none => exact hmem
  | some before =>
    dsimp only [keep, compare]
    split
    · exact List.mem_append_left _ hmem
    · exact hmem

/-- What differs from the snapshot compared with is put on record. -/
theorem reports_keep_of_ne (hreports : session.tracker.ReportsAll held) {before snapshot : Snapshot}
    (hne : held name before ≠ held name snapshot) (step : Int) (t : Trace) :
    (session.keep (some before) snapshot step captured t).2.Reports name := by
  obtain ⟨changes, hcompare, hall⟩ := hreports t before snapshot step
  obtain ⟨change, hmem, hpath⟩ := hall name hne
  refine ⟨change, ?_, hpath⟩
  simp only [keep, compare, hcompare]
  exact List.mem_append_right _ hmem

/-- **A snapshot is accounted for when it is compared with one that is.** -/
theorem accounts_keep (hreports : session.tracker.ReportsAll held) {earlier : Option Snapshot}
    (hearlier : captured.snapshots ≠ [] →
      ∃ before, earlier = some before ∧ captured.AccountsTo held name before)
    (snapshot : Snapshot) (step : Int) (t : Trace) :
    (session.keep earlier snapshot step captured t).2.Accounts held name := by
  intro last hlast first hfirst hne
  rw [session.snapshots_keep] at hlast hfirst
  obtain rfl : snapshot = last := by simpa using hlast
  rcases head?_concat hfirst with ⟨-, rfl⟩ | holdest
  · exact absurd rfl hne
  · obtain ⟨before, rfl, hbefore⟩ := hearlier fun hnil ↦ by simp [hnil] at holdest
    -- what differs at the end differed before, or came about since then
    by_cases hsame : held name first = held name before
    · exact reports_keep_of_ne hreports (hsame ▸ hne) step t
    · exact reports_keep _ _ _ _ (hbefore first holdest hsame)

/-! ### The moments of a session -/

/-- The only snapshot there can be before the run is compared with itself. -/
theorem accounts_beforeRun (hreports : session.tracker.ReportsAll held)
    (hfresh : captured.snapshots = []) (t : Trace) :
    (session.beforeRun captured t).2.Accounts held name := by
  dsimp only [beforeRun]
  split
  · exact Captured.accounts_of_snapshots_eq_nil hfresh
  · rcases session.request (-1) (session.chooseProbes t) with ⟨t', _ | snapshot⟩
    · exact Captured.accounts_of_snapshots_eq_nil hfresh
    · exact accounts_keep hreports (fun hkept ↦ absurd hfresh hkept) snapshot (-1) t'

/-- **The step lemma**: a step leaves nothing unaccounted for, whether its snapshot is taken or
not. -/
theorem accounts_afterStep (hreports : session.tracker.ReportsAll held)
    (h : captured.Accounts held name) (index : Int) (t : Trace) :
    (session.afterStep index captured t).2.Accounts held name := by
  unfold afterStep
  split
  · exact h
  · rcases session.request index t with ⟨t', _ | snapshot⟩
    · exact h
    · refine accounts_keep hreports (fun hkept ↦ ?_) snapshot index t'
      exact ⟨_, List.getLast?_eq_some_getLast hkept, h _ (List.getLast?_eq_some_getLast hkept)⟩

/-- Where no comparisons are made after each step, the one after the run accounts for everything. -/
theorem accounts_afterRun (hreports : session.tracker.ReportsAll held)
    (h : captured.Accounts held name)
    (hoptions : session.options.afterEachStep = false ∨ session.options.after = false)
    (last : Int) (t : Trace) : (session.afterRun last captured t).2.Accounts held name := by
  unfold afterRun
  split
  · exact h
  · next hafter =>
    have heach : session.options.afterEachStep = false :=
      hoptions.resolve_right fun hnot ↦ hafter (by simp [hnot])
    rcases session.request last t with ⟨t', _ | snapshot⟩
    · exact h
    · refine accounts_keep hreports (fun hkept ↦ ?_) snapshot last t'
      refine ⟨captured.snapshots.head hkept, by simp [heach, List.head?_eq_some_head hkept],
        fun first hfirst hne ↦ ?_⟩
      -- the snapshot compared with is the first one itself
      obtain rfl : captured.snapshots.head hkept = first := by
        simpa [List.head?_eq_some_head hkept] using hfirst
      exact absurd rfl hne

/-- Where comparisons are made after each step, a snapshot after the run is kept without one. -/
theorem afterRun_of_afterEachStep (heach : session.options.afterEachStep = true) (last : Int)
    (captured : Captured) (t : Trace) :
    (session.afterRun last captured t).2 = captured ∨
      ∃ snapshot, (session.afterRun last captured t).2 =
        { captured with snapshots := captured.snapshots ++ [snapshot] } := by
  dsimp only [afterRun]
  rw [heach]
  split
  · exact .inl rfl
  · rcases session.request last t with ⟨t', _ | snapshot⟩
    · exact .inl rfl
    · exact .inr ⟨snapshot, rfl⟩

/-! ### Whole sessions -/

variable (session) in
/-- What a session has captured when it was at its moment before the run and at those after so many
steps. Anything may have happened between one moment and the next. -/
inductive Stepped : ℕ → Captured → Prop
  | start (t : Trace) : Stepped 0 (session.beforeRun {} t).2
  | next {n : ℕ} {captured : Captured} (before : Stepped n captured) (t : Trace) :
      Stepped (n + 1) (session.afterStep n captured t).2

variable (session) in
/-- A session through steps in each of which something happens. The last step stands first. -/
def through : List Trace → Trace × Captured
  | [] => session.beforeRun {} []
  | during :: earlier =>
    session.afterStep earlier.length (through earlier).2 ((through earlier).1 ++ during)

variable (session) in
/-- A session to its end, when something may still happen after the last step. -/
def toEnd (steps : List Trace) (after : Trace) : Trace × Captured :=
  session.afterRun ((steps.length : Int) - 1) (session.through steps).2
    ((session.through steps).1 ++ after)

/-- The moments of a session that is put through steps are such moments. -/
theorem stepped_through : ∀ steps : List Trace,
    session.Stepped steps.length (session.through steps).2
  | [] => .start []
  | _ :: earlier => (stepped_through earlier).next _

variable {n : ℕ}

/-- **After any number of steps nothing is unaccounted for**, whichever snapshots were not taken. -/
theorem Stepped.accounts (hreports : session.tracker.ReportsAll held)
    (h : session.Stepped n captured) : captured.Accounts held name := by
  induction h with
  | start t => exact accounts_beforeRun hreports rfl t
  | next _ t ih => exact accounts_afterStep hreports ih _ t

/-- **What becomes of a key is reported**, except when there are comparisons after each step and the
key kept what it held until the last of them: the snapshot after the run is then compared with
nothing. -/
theorem reports_of_stepped (hreports : session.tracker.ReportsAll held)
    (h : session.Stepped n captured) {t t' : Trace} {final : Captured} {first last : Snapshot}
    (hfinal : session.afterRun ((n : Int) - 1) captured t = (t', final))
    (hfirst : final.snapshots.head? = some first) (hlast : final.snapshots.getLast? = some last)
    (hne : held name first ≠ held name last) :
    final.Reports name ∨
      (session.options.afterEachStep = true ∧ final.snapshots = captured.snapshots ++ [last] ∧
        ∃ previous, captured.snapshots.getLast? = some previous ∧
          held name previous = held name first) := by
  have hbefore : captured.Accounts held name := h.accounts hreports
  obtain rfl : (session.afterRun ((n : Int) - 1) captured t).2 = final := congrArg Prod.snd hfinal
  cases heach : session.options.afterEachStep with
  | false =>
    have hafter := accounts_afterRun hreports hbefore (.inl heach) ((n : Int) - 1) t
    exact .inl (hafter last hlast first hfirst hne)
  | true =>
    rcases afterRun_of_afterEachStep heach ((n : Int) - 1) captured t with hsame | ⟨snapshot, hkept⟩
    · rw [hsame] at hfirst hlast ⊢
      exact .inl (hbefore last hlast first hfirst hne)
    · rw [hkept] at hfirst hlast ⊢
      obtain rfl : snapshot = last := by simpa using hlast
      exact (hbefore.reports_or_eq hfirst hne).imp_right fun hunseen ↦ ⟨rfl, rfl, hunseen⟩

end Session

/-! ### A session over a store -/

section Store

open Rehearsal

/-- A key of a mapping is among its names. -/
theorem mem_names_of_has {fields : Fields} (h : fields.has name = true) : name ∈ fields.names := by
  obtain ⟨field, hmem, hname⟩ := List.lookup_isSome_iff.1 h
  exact List.mem_map.2 ⟨field, hmem, (eq_of_beq hname).symm⟩

/-- The change of a name has it for its path. -/
theorem path_eq_of_change? {before after : Fields} {step : Int} {change : Change}
    (h : Rehearsal.change? before after step name = some change) : change.path = name := by
  obtain ⟨kind, -, rfl⟩ := Option.map_eq_some_iff.1 h
  rfl

/-- A name that comes or goes makes a change. -/
theorem change?_isSome_of_has_ne {before after : Fields} (hne : before.has name ≠ after.has name)
    (step : Int) : (Rehearsal.change? before after step name).isSome = true := by
  unfold Fields.has at hne
  rw [Rehearsal.change?, Option.isSome_map]
  cases hbefore : before.get? name <;> cases hafter : after.get? name <;>
    simp [hbefore, hafter, changeKind?] at hne ⊢

/-- A key that only one of two mappings has, or has otherwise, is compared. -/
theorem mem_allNames_of_has_ne {before after : Fields} (hne : before.has name ≠ after.has name) :
    name ∈ Rehearsal.allNames before after := by
  have hhas : before.has name = true ∨ after.has name = true := by
    cases hbefore : before.has name with
    | true => exact .inl rfl
    | false => exact .inr (by simpa [hbefore] using hne)
  simpa [Rehearsal.allNames, List.mem_mergeSort, List.mem_eraseDups] using
    hhas.imp mem_names_of_has mem_names_of_has

/-- A scripted tracker that is not told to fail at it reports all names that come and go. -/
theorem reportsAll_tracker {script : TrackerScript}
    (hworks : script.fails.contains "compare_snapshots" = false) (store : Trace → Fields) :
    (script.tracker store).ReportsAll fun name snapshot ↦ (snapshotFields snapshot).has name := by
  intro t before after step
  refine ⟨changes before after step, ?_, fun name hne ↦ ?_⟩
  · show script.unlessFailing _ _ = _
    rw [TrackerScript.unlessFailing, hworks]
    rfl
  · obtain ⟨change, hchange⟩ := Option.isSome_iff_exists.1 (change?_isSome_of_has_ne hne step)
    exact ⟨change, List.mem_filterMap.2 ⟨name, mem_allNames_of_has_ne hne, hchange⟩,
      path_eq_of_change? hchange⟩

/-- A store in which an order stands from the first call of a tool on. -/
def orderStore (t : Trace) : Fields :=
  if t.calls.isEmpty then [] else [("order", .text "placed")]

/-- A session that compares the store after each step. -/
def orderSession (script : TrackerScript) : Session where
  tracker := script.tracker orderStore
  options := { enabled := true, afterEachStep := true }
  timeout := .ofInt 30000

/-- The call that places the order. -/
def placing : Trace.Entry :=
  .called "place" []

/-- The first and the last of snapshots of which it is known what they show. -/
theorem exists_ends_of_map_eq {snapshots : List Snapshot} {shows : Snapshot → Bool}
    {shown : List Bool} {atFirst atLast : Bool} (h : snapshots.map shows = shown)
    (hfirst : shown.head? = some atFirst) (hlast : shown.getLast? = some atLast) :
    ∃ first last, snapshots.head? = some first ∧ snapshots.getLast? = some last ∧
      shows first = atFirst ∧ shows last = atLast := by
  rw [← h, List.head?_map] at hfirst
  rw [← h, List.getLast?_map] at hlast
  obtain ⟨first, hhead, hshown⟩ := Option.map_eq_some_iff.1 hfirst
  obtain ⟨last, hlatest, hshown'⟩ := Option.map_eq_some_iff.1 hlast
  exact ⟨first, last, hhead, hlatest, hshown, hshown'⟩

/-- An order placed in the first of two steps is reported, although the snapshot after that step
fails. -/
theorem reports_of_order :
    ((orderSession { failsAt := [0] }).tracker.ReportsAll fun name snapshot ↦
      (snapshotFields snapshot).has name) ∧
    ∃ t' final first last,
      (orderSession { failsAt := [0] }).toEnd [[], [placing]] [] = (t', final) ∧
      final.snapshots.head? = some first ∧ final.snapshots.getLast? = some last ∧
      (snapshotFields first).has "order" ≠ (snapshotFields last).has "order" ∧
      final.Reports "order" := by
  have hreports : (orderSession { failsAt := [0] }).tracker.ReportsAll
      fun name snapshot ↦ (snapshotFields snapshot).has name :=
    reportsAll_tracker (by decide) orderStore
  have hlatest : (((orderSession { failsAt := [0] }).through
      [[], [placing]]).2.snapshots.getLast?.map fun s ↦ (snapshotFields s).has "order") =
        some true := by
    decide +kernel
  have hends : ((orderSession { failsAt := [0] }).toEnd [[], [placing]] []).2.snapshots.map
      (fun s ↦ (snapshotFields s).has "order") = [false, true, true] := by
    decide +kernel
  rcases hfinal : (orderSession { failsAt := [0] }).toEnd [[], [placing]] [] with ⟨t', final⟩
  rw [hfinal] at hends
  obtain ⟨first, last, hfirst, hlast, hnot, hplaced⟩ := exists_ends_of_map_eq hends rfl rfl
  have hne : (snapshotFields first).has "order" ≠ (snapshotFields last).has "order" := by
    rw [hnot, hplaced]
    decide
  refine ⟨hreports, t', final, first, last, rfl, hfirst, hlast, hne, ?_⟩
  rw [Session.toEnd] at hfinal
  -- the snapshot before the last one shows the order already
  refine (Session.reports_of_stepped hreports (Session.stepped_through [[], [placing]]) hfinal
    hfirst hlast hne).resolve_right ?_
  rintro ⟨-, -, previous, hprevious, hsame⟩
  simp [hprevious, hsame, hnot] at hlatest

/-- **An order placed after the only step is not reported**: between the snapshot after that step
and the one after the run nothing is compared. -/
theorem not_reports_of_late_order :
    ((orderSession {}).tracker.ReportsAll fun name snapshot ↦ (snapshotFields snapshot).has name) ∧
    (orderSession {}).Stepped 1 ((orderSession {}).through [[]]).2 ∧
    ¬∀ t' final first last name,
      (orderSession {}).toEnd [[]] [placing] = (t', final) →
      final.snapshots.head? = some first → final.snapshots.getLast? = some last →
      (snapshotFields first).has name ≠ (snapshotFields last).has name → final.Reports name := by
  have hends : ((orderSession {}).toEnd [[]] [placing]).2.snapshots.map
      (fun s ↦ (snapshotFields s).has "order") = [false, false, true] := by
    decide +kernel
  have hnone : ((orderSession {}).toEnd [[]] [placing]).2.changes.map (·.path) = [] := by
    decide +kernel
  refine ⟨reportsAll_tracker (by decide) orderStore, Session.stepped_through [[]], fun hall ↦ ?_⟩
  rcases hfinal : (orderSession {}).toEnd [[]] [placing] with ⟨t', final⟩
  rw [hfinal] at hends hnone
  obtain ⟨first, last, hfirst, hlast, hnot, hplaced⟩ := exists_ends_of_map_eq hends rfl rfl
  obtain ⟨change, hmem, -⟩ := hall t' final first last "order" hfinal hfirst hlast
    (by simp [hnot, hplaced])
  have hempty : final.changes = [] := List.map_eq_nil_iff.1 hnone
  simp [hempty] at hmem

end Store

end ToolFlow.Tracking

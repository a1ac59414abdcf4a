import ToolFlow.Proofs.Resolution
import ToolFlow.Proofs.Run.Calls
import ToolFlow.Proofs.Value.Data

/-!
# Merged arguments

The arguments of a step are its static ones, over which the values of the mapped expressions are
put, one after the other. What comes of this can be said without going through the entries in order
(`Merged`): a mapped name has the value of its expression, unless that is absent, and every other
name has its static value; static names keep their places, and mapped ones that are new follow as
they are declared. Since a mapping has each name once, its order makes no difference to what a name
has (`merges`).

Each part is an induction over the entries that are still to be put in, from any arguments that
there may be by then. An entry that was put in is not touched again, for no later one has its name,
and this is the only use of the hypothesis that names are different.

The static arguments of the step stay as they are. For values without identity this says nothing
about merging, so it is said of the attempt as a whole: where merging goes well the tool is called
with the merged arguments, and the result has these beside the step as it was declared
(`Merges.recorded`).

## Main results

* `get?_of_mergeAll_of_mem`, `get?_of_mergeAll`: what a mapped name has, and any other.
* `names_of_mergeAll`: the order of the names.
* `merges`: all of it, with the first failure of those expressions that fail, and with the
  independence of the order.
* `merges_send`: a number that is overwritten in its place, a value that is absent, and a new name
  that is null.
-/

namespace ToolFlow.Resolution

variable {results : List StepResult} {step : Step} {current : Int}

/-! ### Putting in values -/

/-- Putting entries into arguments, one after the other. -/
def mergeAll (results : List StepResult) (current : Int) (entries : List (String × String))
    (args : Fields) : Except Failure Fields :=
  entries.foldlM (fun args entry ↦ (resolve results entry.2 current).map (merge args entry.1)) args

variable {entries : List (String × String)} {entry : String × String} {args args' : Fields}
  {name : String} {v : Value}

/-- The first entry is put in before the others. -/
theorem mergeAll_cons_eq_ok_iff :
    mergeAll results current (entry :: entries) args = .ok args' ↔
      ∃ v, resolve results entry.2 current = .ok v ∧
        mergeAll results current entries (merge args entry.1 v) = .ok args' := by
  simp only [mergeAll, List.foldlM_cons, Except.bind_eq_ok_iff, Except.map_eq_ok_iff]
  constructor
  · rintro ⟨_, ⟨v, hv, rfl⟩, h⟩
    exact ⟨v, hv, h⟩
  · rintro ⟨v, hv, h⟩
    exact ⟨_, ⟨v, hv, rfl⟩, h⟩

/-- A value that is there is put under its name, and an absent one nowhere. -/
theorem get?_merge (args : Fields) (parameter name : String) (v : Value) :
    (merge args parameter v).get? name =
      if name = parameter ∧ v.isMissing = false then some v else args.get? name := by
  unfold merge
  cases hmissing : v.isMissing with
  | true => simp
  | false => simp [Fields.get?_put]

/-- What has another name is left alone. -/
theorem get?_merge_of_ne {parameter : String} (hne : name ≠ parameter) :
    (merge args parameter v).get? name = args.get? name := by
  rw [get?_merge, if_neg fun hsame ↦ hne hsame.1]

/-- Names that are not mapped are left alone. -/
theorem get?_of_mergeAll (h : mergeAll results current entries args = .ok args')
    (hname : name ∉ entries.map Prod.fst) : args'.get? name = args.get? name := by
  induction entries generalizing args with
  | nil => rw [← Except.ok.inj h]
  | cons entry entries ih =>
    rw [List.map_cons, List.mem_cons, not_or] at hname
    obtain ⟨v, -, h⟩ := mergeAll_cons_eq_ok_iff.1 h
    rw [ih h hname.2, get?_merge_of_ne hname.1]

/-- A name that is mapped once has the value of its expression, if that is there. -/
theorem get?_of_mergeAll_of_mem (h : mergeAll results current entries args = .ok args')
    (hnodup : (entries.map Prod.fst).Nodup) (hentry : entry ∈ entries)
    (hv : resolve results entry.2 current = .ok v) :
    args'.get? entry.1 = if v.isMissing then args.get? entry.1 else some v := by
  induction entries generalizing args with
  | nil => simp at hentry
  | cons first entries ih =>
    obtain ⟨hfirst, hnodup⟩ := List.nodup_cons.1 hnodup
    obtain ⟨w, hw, h⟩ := mergeAll_cons_eq_ok_iff.1 h
    rcases List.mem_cons.1 hentry with rfl | hentry
    · -- no later entry has the name
      obtain rfl : w = v := Except.ok.inj (hw.symm.trans hv)
      rw [get?_of_mergeAll h hfirst, get?_merge]
      cases w.isMissing <;> simp
    · have hne : entry.1 ≠ first.1 := fun heq ↦ hfirst (heq ▸ List.mem_map_of_mem hentry)
      rw [ih h hnodup hentry, get?_merge_of_ne hne]

/-- Names that are new follow the others in the order in which they are mapped. -/
theorem names_of_mergeAll (h : mergeAll results current entries args = .ok args')
    (hnodup : (entries.map Prod.fst).Nodup) :
    args'.names =
      args.names ++ (entries.map Prod.fst).filter fun name ↦ args'.has name && !args.has name := by
  induction entries generalizing args with
  | nil =>
    obtain rfl := Except.ok.inj h
    simp
  | cons entry entries ih =>
    obtain ⟨hlater, hnodup⟩ := List.nodup_cons.1 hnodup
    obtain ⟨v, -, h⟩ := mergeAll_cons_eq_ok_iff.1 h
    have hothers : ((entries.map Prod.fst).filter fun name ↦
        args'.has name && !(merge args entry.1 v).has name) =
          (entries.map Prod.fst).filter fun name ↦ args'.has name && !args.has name := by
      refine List.filter_congr fun name hname ↦ ?_
      have hne : name ≠ entry.1 := fun heq ↦ hlater (heq ▸ hname)
      rw [Fields.has, Fields.has, Fields.has, get?_merge_of_ne hne]
    have hentry : args'.has entry.1 = (merge args entry.1 v).has entry.1 := by
      rw [Fields.has, Fields.has, get?_of_mergeAll h hlater]
    rw [ih h hnodup, hothers, List.map_cons, List.filter_cons, hentry, merge]
    cases hmissing : v.isMissing with
    | true => simp
    | false =>
      have hput : (args.put entry.1 v).has entry.1 = true := by simp [Fields.has, Fields.get?_put]
      simp only [Bool.false_eq_true, if_false, Fields.names_put, hput, Bool.true_and]
      cases args.has entry.1 <;> simp

/-! ### The arguments of a step -/

/-- **A mapped argument has the value of its expression**, if that is there. -/
theorem get?_of_resolveArguments (h : resolveArguments results step current = .ok args)
    (hnodup : (step.mapped.map Prod.fst).Nodup) (hentry : entry ∈ step.mapped)
    (hv : resolve results entry.2 current = .ok v) :
    args.get? entry.1 = if v.isMissing then step.args.get? entry.1 else some v :=
  get?_of_mergeAll_of_mem h hnodup hentry hv

/-- What merged arguments are: a mapped name has the value of its expression, unless that is absent,
every other name has its static value if it has one, and the new names follow the static ones. -/
structure Merged (results : List StepResult) (step : Step) (current : Int) (args : Fields) :
    Prop where
  get?_of_mapped : ∀ entry ∈ step.mapped, ∃ v, resolve results entry.2 current = .ok v ∧
    args.get? entry.1 = if v.isMissing then step.args.get? entry.1 else some v
  get?_of_not_mapped : ∀ name ∉ step.mapped.map Prod.fst, args.get? name = step.args.get? name
  names_eq : args.names = step.args.names ++
    (step.mapped.map Prod.fst).filter fun name ↦ args.has name && !step.args.has name

/-- The arguments of a step are merged in this sense. -/
theorem merged_of_resolveArguments (hnodup : (step.mapped.map Prod.fst).Nodup)
    (h : resolveArguments results step current = .ok args) : Merged results step current args where
  get?_of_mapped entry hentry := by
    obtain ⟨v, hv⟩ := exists_resolveArguments_eq_ok_iff.1 ⟨args, h⟩ entry hentry
    exact ⟨v, hv, get?_of_resolveArguments h hnodup hentry hv⟩
  get?_of_not_mapped _ hname := get?_of_mergeAll h hname
  names_eq := names_of_mergeAll h hnodup

/-- Merged arguments are known by their description, in which the order of the mapping decides about
the places of names only. -/
theorem Merged.get?_eq {step' : Step} (h : Merged results step current args)
    (h' : Merged results step' current args') (hargs : step'.args = step.args)
    (hmapped : step'.mapped.Perm step.mapped) (name : String) :
    args'.get? name = args.get? name := by
  by_cases hname : name ∈ step.mapped.map Prod.fst
  · obtain ⟨entry, hentry, rfl⟩ := List.mem_map.1 hname
    obtain ⟨v, hv, hget⟩ := h.get?_of_mapped entry hentry
    obtain ⟨v', hv', hget'⟩ := h'.get?_of_mapped entry (hmapped.mem_iff.2 hentry)
    obtain rfl : v = v' := Except.ok.inj (hv.symm.trans hv')
    rw [hget, hget', hargs]
  · have hname' : name ∉ step'.mapped.map Prod.fst := by rwa [(hmapped.map Prod.fst).mem_iff]
    rw [h.get?_of_not_mapped name hname, h'.get?_of_not_mapped name hname', hargs]

/-- Another order of the mapping changes neither whether arguments are resolved nor what a name
has. -/
theorem exists_resolveArguments_of_perm (hnodup : (step.mapped.map Prod.fst).Nodup)
    (h : resolveArguments results step current = .ok args) (hperm : entries.Perm step.mapped) :
    ∃ args', resolveArguments results { step with mapping := some entries } current = .ok args' ∧
      ∀ name, args'.get? name = args.get? name := by
  have hvalues := exists_resolveArguments_eq_ok_iff.1 ⟨args, h⟩
  obtain ⟨args', h'⟩ : ∃ args',
      resolveArguments results { step with mapping := some entries } current = .ok args' :=
    exists_resolveArguments_eq_ok_iff.2 fun entry hentry ↦ hvalues entry (hperm.mem_iff.1 hentry)
  have hnodup' : (entries.map Prod.fst).Nodup := (hperm.map Prod.fst).nodup_iff.2 hnodup
  have hmerged : Merged results step current args := merged_of_resolveArguments hnodup h
  have hmerged' : Merged results { step with mapping := some entries } current args' :=
    merged_of_resolveArguments hnodup' h'
  exact ⟨args', h', hmerged.get?_eq hmerged' rfl hperm⟩

/-- How the arguments of a step come about. Values have no identity here, so that merging could not
change the arguments of the step itself, whatever it did. What can be said of these is where they go
(`recorded`): a tool is called with the merged arguments, and what is recorded of the attempt has
the merged arguments in one place and the step with its own in another. -/
structure Merges (results : List StepResult) (step : Step) (current : Int) : Prop where
  fails_iff : (∃ failure, resolveArguments results step current = .error failure) ↔
    ∃ entry ∈ step.mapped, ∃ failure, resolve results entry.2 current = .error failure
  fails_first : ∀ failure, resolveArguments results step current = .error failure →
    ∃ before entry after, step.mapped = before ++ entry :: after ∧
      (∀ e ∈ before, ∃ v, resolve results e.2 current = .ok v) ∧
      resolve results entry.2 current = .error failure
  merged : ∀ args, resolveArguments results step current = .ok args →
    Merged results step current args
  reordered : ∀ args entries, resolveArguments results step current = .ok args →
    entries.Perm step.mapped → ∃ args',
      resolveArguments results { step with mapping := some entries } current = .ok args' ∧
        ∀ name, args'.get? name = args.get? name
  recorded : ∀ (env : Environment) (index : ℕ) (t t' : Trace) (result : StepResult),
    env.attempt results index step t = (t', .ok result) → result.step.args = step.args ∧
      (t'.calls = t.calls ∨ resolveArguments results step index = .ok result.resolvedArgs ∧
        t'.calls = t.calls ++ [(step.tool, result.resolvedArgs)])

/-- **The values of mapped expressions are merged with the static arguments**, in a mapping that has
each name once. -/
theorem merges (hnodup : (step.mapped.map Prod.fst).Nodup) : Merges results step current where
  fails_iff := by
    rw [Except.exists_eq_error_iff, exists_resolveArguments_eq_ok_iff]
    simp only [Except.exists_eq_error_iff, not_forall, exists_prop]
  fails_first _ := resolveArguments_eq_error_iff.1
  merged _ := merged_of_resolveArguments hnodup
  reordered _ _ := exists_resolveArguments_of_perm hnodup
  recorded env index t t' result h := by
    refine ⟨?_, Environment.calls_of_attempt h⟩
    rw [(Environment.sound_of_attempt h).step_eq]

/-- What was found of an item that has no name. -/
def found : StepResult where
  step := { tool := "find" }
  index := 0
  success := true
  response := .object [("id", .int 7), ("name", .null)]

/-- A step that sends what was found, to all if nobody was. -/
def send : Step where
  tool := "send"
  args := [("id", .int 1), ("to", .text "all")]
  mapping := some [("name", "$steps[0].response.name"), ("to", "$steps[0].response.nobody"),
    ("id", "$steps[0].response.id")]

/-- The number is overwritten in its place, the addressee stays, and the name comes last, though it
is null. -/
theorem merges_send : (send.mapped.map Prod.fst).Nodup ∧ Merges [found] send 1 ∧
    ((resolveArguments [found] send 1).toOption.map fun args ↦
        args.map fun field ↦ (field.1, field.2.literal)) =
      some [("id", "7"), ("to", "'all'"), ("name", "None")] := by
  have hnodup : (send.mapped.map Prod.fst).Nodup := by decide
  exact ⟨hnodup, merges hnodup, by decide +kernel⟩

end ToolFlow.Resolution

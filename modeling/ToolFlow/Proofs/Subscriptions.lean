import Mathlib.Data.List.Basic
import Mathlib.Data.List.Induction
import Mathlib.Data.List.Nodup
import ToolFlow.Progress

/-!
# Subscriptions and their ends

Each subscription to a channel comes with a function that is to end it. The function knows the
callback and not the registration: it takes away the oldest registration of an equal callback. That
is its own as long as no callback is registered twice. Otherwise it can be another one: that of an
older subscription, or, when the function is called again, that of a later one.

`Subscriptions` is a channel with the history that tells which registrations should stand. Events
reach the standing ones all along exactly when every function is called while it finds its own
(`reaches_standing_iff`): either its registration stands, and all that is registered from the oldest
equal callback up to it is equal, or it has been ended and no equal callback is left. Where no
callback is registered twice this is always so (`reaches_standing_of_nodup`).

## Main definitions

* `Channel.Reaches`: an event reaches these callbacks, each as often as listed and in this order.
* `Subscriptions.standing`: the callbacks whose registration was not ended by its own function,
  together with those that were registered before the history begins.
* `Subscriptions.FindsOwn`: the function of a subscription, called now, takes away what is its own
  to take away.

## Main results

* `callbacks_after_eq_iff`: what one act preserves, an equivalence in the case of a function that is
  called. It is about taking away the first of equal members of a list (`erase_append_cons_eq_iff`).
* `reaches_standing_iff`: from it, by induction on the acts, what any number of acts preserves.
* `not_reaches_after_second_call`: one callback subscribed twice, and the first function called
  twice. The second call takes away the registration of the second subscription.
-/

namespace ToolFlow.Progress

variable {α : Type}

/-! ### Receivers of events -/

/-- An event reaches these callbacks, each as often as it is listed and in this order. -/
def Channel.Reaches (channel : Channel α) (receivers : List α) : Prop :=
  ∀ (σ : Type) (deliver : σ → α → σ) (s : σ), channel.emit deliver s = receivers.foldl deliver s

/-- An event reaches just the registered callbacks, in their order. -/
theorem Channel.reaches_iff {channel : Channel α} {receivers : List α} :
    channel.Reaches receivers ↔ channel.callbacks = receivers := by
  constructor
  · intro h
    -- deliveries that are noted, the latest in front
    have hnoted := h (List α) (fun noted callback ↦ callback :: noted) []
    simpa [emit] using hnoted
  · rintro rfl σ deliver s
    rfl

/-! ### Histories of subscriptions -/

/-- What is done with the subscriptions to a channel. -/
inductive Subscriptions.Act (α : Type) where
  | subscribe (callback : α)
  /-- Calls the function that came with the n-th subscription. -/
  | unsubscribe (n : ℕ)

/-- A channel with the history of its subscriptions. -/
structure Subscriptions (α : Type) where
  /-- The callbacks that the channel was made with. -/
  initial : List α
  channel : Channel α := ⟨initial⟩
  /-- The callbacks of all subscriptions in order, whether ended or not. -/
  issued : List α := []
  /-- The numbers of the subscriptions whose function was called. -/
  called : List ℕ := []
  called_lt : ∀ n ∈ called, n < issued.length := by simp

namespace Subscriptions

/-- The callbacks of those subscriptions, numbered from here on, whose function was not called. -/
def unended (called : List ℕ) (first : ℕ) (issued : List α) : List α :=
  ((issued.zipIdx first).filter fun subscription ↦ subscription.2 ∉ called).map Prod.fst

/-- The callbacks whose registration was not ended by its own function, in order. -/
def standing (s : Subscriptions α) : List α :=
  s.initial ++ unended s.called 0 s.issued

/-- Those of them that were registered before the n-th subscription. -/
def standingBefore (s : Subscriptions α) (n : ℕ) : List α :=
  s.initial ++ unended s.called 0 (s.issued.take n)

/-- The function of a subscription, called now, ends what is its own to end. If its registration
stands, all that is registered from the oldest equal callback up to it is equal; if not, there is no
equal callback left. -/
def FindsOwn (s : Subscriptions α) (n : ℕ) : Prop :=
  ∀ h : n < s.issued.length,
    if n ∈ s.called then s.issued[n] ∉ s.standing
    else ∃ others equals, s.standingBefore n = others ++ equals ∧ s.issued[n] ∉ others ∧
      ∀ callback ∈ equals, callback = s.issued[n]

section

variable [DecidableEq α]

/-- One more subscription. -/
def opened (s : Subscriptions α) (callback : α) : Subscriptions α where
  initial := s.initial
  channel := s.channel.subscribe callback
  issued := s.issued ++ [callback]
  called := s.called
  called_lt n hn := by
    have := s.called_lt n hn
    simp
    omega

/-- The subscriptions after the function of one of them was called. -/
def ended (s : Subscriptions α) (n : ℕ) (h : n < s.issued.length) : Subscriptions α where
  initial := s.initial
  channel := s.channel.unsubscribe s.issued[n]
  issued := s.issued
  called := n :: s.called
  called_lt := List.forall_mem_cons.2 ⟨h, s.called_lt⟩

/-- The subscriptions after an act. A function cannot be called before there is one. -/
def after (s : Subscriptions α) : Act α → Subscriptions α
  | .subscribe callback => s.opened callback
  | .unsubscribe n => if h : n < s.issued.length then s.ended n h else s

/-- The subscriptions to a channel after acts. -/
def through (initial : List α) (acts : List (Act α)) : Subscriptions α :=
  acts.foldl after { initial }

end

variable {s : Subscriptions α} {called : List ℕ} {callback : α} {n : ℕ}

/-! ### What stands -/

/-- Later subscriptions are numbered on from the earlier ones. -/
theorem unended_append (called : List ℕ) (first : ℕ) (issued later : List α) :
    unended called first (issued ++ later) =
      unended called first issued ++ unended called (first + issued.length) later := by
  rw [unended, List.zipIdx_append, List.filter_append, List.map_append]
  rfl

/-- The first subscription stands unless its function was called. -/
theorem unended_cons (called : List ℕ) (first : ℕ) (callback : α) (later : List α) :
    unended called first (callback :: later) =
      (if first ∈ called then [] else [callback]) ++ unended called (first + 1) later := by
  by_cases h : first ∈ called <;> simp [unended, List.zipIdx_cons, h]

/-- The function of another subscription does not matter. -/
theorem unended_cons_called {first : ℕ} {issued : List α}
    (h : n < first ∨ first + issued.length ≤ n) :
    unended (n :: called) first issued = unended called first issued := by
  unfold unended
  congr 1
  refine List.filter_congr fun subscription hmem ↦ ?_
  have hne : subscription.2 ≠ n := by
    have := List.le_snd_of_mem_zipIdx hmem
    have := List.snd_lt_of_mem_zipIdx hmem
    omega
  simp [hne]

/-- A function that is called again has nothing of its own to end. -/
theorem unended_called_again {first : ℕ} {issued : List α} (hn : n ∈ called) :
    unended (n :: called) first issued = unended called first issued := by
  unfold unended
  congr 1
  refine List.filter_congr fun subscription _ ↦ ?_
  by_cases h : subscription.2 = n <;> simp [h, hn]

/-- A standing callback is that of a subscription whose function was not called. -/
theorem exists_getElem_of_mem_unended {issued : List α} (h : callback ∈ unended called 0 issued) :
    ∃ m, m ∉ called ∧ ∃ hm : m < issued.length, issued[m] = callback := by
  obtain ⟨⟨_, m⟩, hmem, rfl⟩ := List.mem_map.1 h
  obtain ⟨hmem, hcalled⟩ := List.mem_filter.1 hmem
  obtain ⟨hm, hget⟩ := List.mem_zipIdx' hmem
  exact ⟨m, by simpa using hcalled, hm, hget.symm⟩

/-- A new subscription stands last. -/
theorem standing_opened [DecidableEq α] (s : Subscriptions α) (callback : α) :
    (s.opened callback).standing = s.standing ++ [callback] := by
  have hnew : s.issued.length ∉ s.called := fun hmem ↦ Nat.lt_irrefl _ (s.called_lt _ hmem)
  show s.initial ++ unended s.called 0 (s.issued ++ [callback]) = _
  rw [unended_append, Nat.zero_add, unended_cons, if_neg hnew, ← List.append_assoc]
  rfl

/-- What stands around a standing registration, and what is left of it without that. -/
theorem exists_standing_eq [DecidableEq α] (hlt : n < s.issued.length) (hn : n ∉ s.called) :
    ∃ later, s.standing = s.standingBefore n ++ s.issued[n] :: later ∧
      (s.ended n hlt).standing = s.standingBefore n ++ later := by
  have hissued : s.issued = s.issued.take n ++ s.issued[n] :: s.issued.drop (n + 1) := by
    rw [List.getElem_cons_drop, List.take_append_drop]
  have hlength : (s.issued.take n).length = n := by simp; omega
  refine ⟨unended s.called (n + 1) (s.issued.drop (n + 1)), ?_, ?_⟩
  · have hstanding : s.standing = s.initial ++
        unended s.called 0 (s.issued.take n ++ s.issued[n] :: s.issued.drop (n + 1)) := by
      rw [← hissued, standing]
    rw [hstanding, unended_append, hlength, Nat.zero_add, unended_cons, if_neg hn, standingBefore,
      List.append_assoc]
    rfl
  · have hstanding : (s.ended n hlt).standing = s.initial ++
        unended (n :: s.called) 0 (s.issued.take n ++ s.issued[n] :: s.issued.drop (n + 1)) := by
      rw [← hissued]
      rfl
    rw [hstanding, unended_append, hlength, Nat.zero_add, unended_cons,
      if_pos List.mem_cons_self, List.nil_append, unended_cons_called (.inl (Nat.lt_succ_self n)),
      unended_cons_called (.inr (by omega)), standingBefore, List.append_assoc]

/-! ### What is taken away -/

/-- Moving the first member of a list to its end changes nothing exactly when all members are equal.
-/
theorem cons_eq_append_singleton_iff {a : α} {l : List α} :
    a :: l = l ++ [a] ↔ ∀ b ∈ l, b = a := by
  induction l with
  | nil => simp
  | cons b l ih =>
    rw [List.cons_append, List.cons.injEq, List.forall_mem_cons]
    constructor
    · rintro ⟨rfl, h⟩
      exact ⟨rfl, ih.1 h⟩
    · rintro ⟨rfl, h⟩
      exact ⟨rfl, ih.2 h⟩

section

variable [DecidableEq α]

/-- The first occurrence is taken away from a list. This leaves what the removal of a later
occurrence leaves exactly when all that is listed from the one up to the other is equal. -/
theorem erase_append_cons_eq_iff {a : α} {before later : List α} :
    (before ++ a :: later).erase a = before ++ later ↔
      ∃ others equals, before = others ++ equals ∧ a ∉ others ∧ ∀ b ∈ equals, b = a := by
  constructor
  · intro h
    by_cases ha : a ∈ before
    · obtain ⟨others, rest, rfl, hothers⟩ := List.eq_append_cons_of_mem ha
      rw [List.append_assoc, List.erase_append_right _ hothers, List.append_assoc,
        List.append_cancel_left_eq, List.cons_append, List.erase_cons_head] at h
      have hmoved : a :: rest = rest ++ [a] := by
        rw [← List.append_left_inj later, List.append_assoc]
        exact h.symm
      exact ⟨others, a :: rest, rfl, hothers,
        List.forall_mem_cons.2 ⟨rfl, cons_eq_append_singleton_iff.1 hmoved⟩⟩
    · exact ⟨before, [], by simp, ha, by simp⟩
  · rintro ⟨others, equals, rfl, hothers, hequals⟩
    rw [List.append_assoc, List.erase_append_right _ hothers, List.append_assoc]
    cases equals with
    | nil => simp
    | cons b equals =>
      obtain ⟨rfl, hequals⟩ := List.forall_mem_cons.1 hequals
      have hmoved := cons_eq_append_singleton_iff.2 hequals
      rw [List.cons_append, List.erase_cons_head, hmoved, List.append_assoc, List.singleton_append]

/-- A call leaves the standing registrations, and those only, exactly when it finds its own. -/
theorem callbacks_ended_eq_iff (h : s.channel.callbacks = s.standing)
    (hlt : n < s.issued.length) :
    (s.ended n hlt).channel.callbacks = (s.ended n hlt).standing ↔ s.FindsOwn n := by
  have hcallbacks : (s.ended n hlt).channel.callbacks = s.standing.erase s.issued[n] := by
    rw [← h]
    rfl
  rw [hcallbacks, FindsOwn, forall_prop_of_true hlt]
  by_cases hn : n ∈ s.called
  · have hstanding : (s.ended n hlt).standing = s.standing :=
      congrArg (s.initial ++ ·) (unended_called_again hn)
    rw [if_pos hn, hstanding, List.erase_eq_self_iff]
  · obtain ⟨later, hstanding, hended⟩ := exists_standing_eq hlt hn
    rw [if_neg hn, hstanding, hended, erase_append_cons_eq_iff]

/-- **One act** keeps the channel to the standing registrations exactly when it is a subscription or
finds its own. -/
theorem callbacks_after_eq_iff (h : s.channel.callbacks = s.standing) (act : Act α) :
    (s.after act).channel.callbacks = (s.after act).standing ↔
      ∀ n, act = .unsubscribe n → s.FindsOwn n := by
  cases act with
  | subscribe callback =>
    have hopened : (s.opened callback).channel.callbacks = (s.opened callback).standing := by
      rw [standing_opened, ← h]
      rfl
    simp [after, hopened]
  | unsubscribe n =>
    simp only [after, Act.unsubscribe.injEq, forall_eq']
    split
    · next hlt => exact callbacks_ended_eq_iff h hlt
    · next hlt => exact ⟨fun _ hlt' ↦ absurd hlt' hlt, fun _ ↦ h⟩

/-! ### Any number of acts -/

/-- The last act comes last. -/
theorem through_concat (initial : List α) (acts : List (Act α)) (act : Act α) :
    through initial (acts ++ [act]) = (through initial acts).after act := by
  rw [through, List.foldl_append]
  rfl

/-- The registered callbacks are the standing ones after every act exactly when every function finds
its own. The induction is on the acts from the end, and goes on as long as no function has failed
to. -/
theorem callbacks_through_eq_iff (initial : List α) (acts : List (Act α)) :
    (∀ done, done <+: acts →
      (through initial done).channel.callbacks = (through initial done).standing) ↔
      ∀ done n, done ++ [.unsubscribe n] <+: acts → (through initial done).FindsOwn n := by
  induction acts using List.reverseRecOn with
  | nil => simp [through, standing, unended]
  | append_singleton acts act ih =>
    have hlast {done : List (Act α)} {n : ℕ} :
        done ++ [.unsubscribe n] = acts ++ [act] ↔ done = acts ∧ act = .unsubscribe n := by
      constructor
      · intro h
        obtain ⟨hdone, hact⟩ := List.append_inj' h rfl
        exact ⟨hdone, (List.singleton_inj.1 hact).symm⟩
      · rintro ⟨rfl, rfl⟩
        rfl
    have hstep (h : (through initial acts).channel.callbacks = (through initial acts).standing) :
        (through initial (acts ++ [act])).channel.callbacks =
          (through initial (acts ++ [act])).standing ↔
        ∀ n, act = .unsubscribe n → (through initial acts).FindsOwn n := by
      rw [through_concat]
      exact callbacks_after_eq_iff h act
    simp only [List.prefix_concat_iff, or_imp, forall_and, forall_eq, hlast, ih]
    constructor
    · rintro ⟨hlatest, hbefore⟩
      refine ⟨?_, hbefore⟩
      rintro done n ⟨rfl, hact⟩
      exact (hstep (ih.2 hbefore _ (List.prefix_refl _))).1 hlatest n hact
    · rintro ⟨hlatest, hbefore⟩
      exact ⟨(hstep (ih.2 hbefore _ (List.prefix_refl _))).2 fun n hact ↦
        hlatest acts n ⟨rfl, hact⟩, hbefore⟩

/-- **Events reach the registrations that were not ended by their own function, all along, exactly
when** every function is called while it finds its own. -/
theorem reaches_standing_iff (initial : List α) (acts : List (Act α)) :
    (∀ done, done <+: acts →
      (through initial done).channel.Reaches (through initial done).standing) ↔
      ∀ done n, done ++ [.unsubscribe n] <+: acts → (through initial done).FindsOwn n := by
  simp only [Channel.reaches_iff]
  exact callbacks_through_eq_iff initial acts

/-- A function that is called again ends the other subscription of its callback. -/
theorem not_reaches_after_second_call :
    let s := through [] [.subscribe "a", .subscribe "a", .unsubscribe 0, .unsubscribe 0]
    s.standing = ["a"] ∧ s.channel.hasSubscribers = false ∧ ¬s.channel.Reaches s.standing := by
  simp only [Channel.reaches_iff]
  decide

/-! ### Callbacks that are registered once -/

/-- The callbacks that are subscribed by acts. -/
def subscribed (acts : List (Act α)) : List α :=
  acts.filterMap fun
    | .subscribe callback => some callback
    | .unsubscribe _ => none

/-- Acts leave the callbacks that were there before. -/
theorem initial_through (initial : List α) (acts : List (Act α)) :
    (through initial acts).initial = initial := by
  induction acts using List.reverseRecOn with
  | nil => rfl
  | append_singleton acts act ih =>
    rw [through_concat]
    cases act with
    | subscribe callback => exact ih
    | unsubscribe n =>
      rw [after]
      split <;> exact ih

/-- The subscriptions of a history are those of its acts. -/
theorem issued_through (initial : List α) (acts : List (Act α)) :
    (through initial acts).issued = subscribed acts := by
  induction acts using List.reverseRecOn with
  | nil => rfl
  | append_singleton acts act ih =>
    rw [through_concat, subscribed, List.filterMap_append, ← subscribed, ← ih]
    cases act with
    | subscribe callback => rfl
    | unsubscribe n =>
      rw [after]
      split <;> simp [ended]

omit [DecidableEq α] in
/-- Where no callback is registered twice, each function finds its own. -/
theorem findsOwn_of_nodup (h : (s.initial ++ s.issued).Nodup) (n : ℕ) : s.FindsOwn n := by
  intro hlt
  obtain ⟨-, hissued, hdisjoint⟩ := List.nodup_append.1 h
  have hinitial : s.issued[n] ∉ s.initial := fun hmem ↦
    hdisjoint _ hmem _ (List.getElem_mem hlt) rfl
  split
  · next hn =>
    rw [standing, List.mem_append, not_or]
    refine ⟨hinitial, fun hmem ↦ ?_⟩
    obtain ⟨m, hm, hlt', hget⟩ := exists_getElem_of_mem_unended hmem
    obtain rfl : m = n := (List.Nodup.getElem_inj_iff hissued).1 hget
    exact hm hn
  · refine ⟨s.standingBefore n, [], by simp, ?_, by simp⟩
    rw [standingBefore, List.mem_append, not_or]
    refine ⟨hinitial, fun hmem ↦ ?_⟩
    obtain ⟨m, -, hlt', hget⟩ := exists_getElem_of_mem_unended hmem
    rw [List.getElem_take, List.Nodup.getElem_inj_iff hissued] at hget
    simp at hlt'
    omega

/-- Where no callback is registered twice, events reach those that were not ended by their own
function. -/
theorem reaches_standing_of_nodup {initial : List α} {acts : List (Act α)}
    (h : (initial ++ subscribed acts).Nodup) :
    (through initial acts).channel.Reaches (through initial acts).standing := by
  rw [Channel.reaches_iff]
  refine (callbacks_through_eq_iff initial acts).2 (fun done n hdone ↦ ?_) acts
    (List.prefix_refl _)
  refine findsOwn_of_nodup ?_ n
  rw [initial_through, issued_through]
  have hbefore : done <+: acts := (List.prefix_append _ _).trans hdone
  exact h.sublist ((List.Sublist.refl _).append (hbefore.filterMap _).sublist)

end

end Subscriptions

end ToolFlow.Progress

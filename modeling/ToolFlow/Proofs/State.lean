import ToolFlow.Proofs.Except

/-!
# Computations with a state that may fail

What a computation keeps true of its state, and in which ways it fails, follows from its parts: a
step that keeps to a discipline may be put before others that do (`StateT.Obeys.bind`).

`Obeys I Q P` has three parts: an invariant `I` of the state, the ways `Q` to fail, and what is
known as `P` of the result. It is the triple of a program logic for total computations without a
postcondition on the state beyond the invariant, which is all that building data from nodes needs.
`Keeps` forgets the result. Most steps are of this kind, and for these there is one lemma for each
construct, loops over lists included, so that a proof on a function follows its text.

Nothing here knows of documents. A step that only reads the state is an exception to forgetting the
result, for the state that was read has the invariant: `keeps_get_bind` hands this to what follows.
-/

namespace StateT

variable {σ ε α β : Type} {I : σ → Prop} {Q : ε → Prop} {P : α → Prop} {R : β → Prop}
  {m : StateT σ (Except ε) α}

/-- From a state with `I` a computation comes to something with `P` in another state with `I`, or
fails in a way with `Q`. -/
def Obeys (I : σ → Prop) (Q : ε → Prop) (P : α → Prop) (m : StateT σ (Except ε) α) : Prop :=
  ∀ s, I s → (∀ a s', m.run s = .ok (a, s') → P a ∧ I s') ∧ (m.run s).FailsOnly Q

theorem obeys_pure {a : α} (h : P a) : Obeys I Q P (pure a) := by
  intro s hs
  refine ⟨fun a' s' hrun ↦ ?_, Except.failsOnly_ok⟩
  obtain ⟨rfl, rfl⟩ := Prod.mk.inj (Except.ok.inj hrun)
  exact ⟨h, hs⟩

theorem obeys_throw {e : ε} (h : Q e) : Obeys I Q P (throw e) := by
  intro s _
  refine ⟨fun a s' hrun ↦ (nomatch hrun), ?_⟩
  exact Except.failsOnly_error_iff.2 h

/-- **What comes after relies on what came before**: on the invariant, and on what is known of the
result. -/
theorem Obeys.bind {f : α → StateT σ (Except ε) β} (hm : Obeys I Q P m)
    (hf : ∀ a, P a → Obeys I Q R (f a)) : Obeys I Q R (m >>= f) := by
  intro s hs
  obtain ⟨hok, herror⟩ := hm s hs
  have hrun : (m >>= f).run s = (m.run s >>= fun r ↦ (f r.1).run r.2) := rfl
  constructor
  · intro b s' hb
    rw [hrun, Except.bind_eq_ok_iff] at hb
    obtain ⟨⟨a, s₁⟩, ha, hb⟩ := hb
    obtain ⟨hP, hI⟩ := hok a s₁ ha
    exact (hf a hP s₁ hI).1 b s' hb
  · rw [hrun]
    refine herror.bind fun ⟨a, s₁⟩ ha ↦ ?_
    obtain ⟨hP, hI⟩ := hok a s₁ ha
    exact (hf a hP s₁ hI).2

/-- Less may be said of the result. -/
theorem Obeys.mono {P' : α → Prop} (hm : Obeys I Q P m) (h : ∀ a, P a → P' a) :
    Obeys I Q P' m := by
  intro s hs
  refine ⟨fun a s' hrun ↦ ?_, (hm s hs).2⟩
  obtain ⟨hP, hI⟩ := (hm s hs).1 a s' hrun
  exact ⟨h a hP, hI⟩

theorem obeys_get : Obeys (ε := ε) I Q I get := by
  intro s hs
  refine ⟨fun a s' hrun ↦ ?_, Except.failsOnly_ok⟩
  obtain ⟨rfl, rfl⟩ := Prod.mk.inj (Except.ok.inj hrun)
  exact ⟨hs, hs⟩

/-- What does not touch the state. -/
theorem obeys_liftM {x : Except ε α} (h : x.FailsOnly Q) :
    Obeys I Q (fun a ↦ x = .ok a) (liftM x) := by
  intro s hs
  cases x with
  | error e => exact obeys_throw (Except.failsOnly_error_iff.1 h) s hs
  | ok a =>
    have hpure : Obeys I Q (fun b ↦ Except.ok (ε := ε) a = .ok b) (pure a) := obeys_pure rfl
    exact hpure s hs

/-! ### Whatever the result -/

/-- A computation keeps `I` true of its state, and fails in a way with `Q` if it does. -/
abbrev Keeps (I : σ → Prop) (Q : ε → Prop) (m : StateT σ (Except ε) α) : Prop :=
  m.Obeys I Q fun _ ↦ True

theorem keeps_pure {a : α} : Keeps I Q (pure a) :=
  obeys_pure trivial

/-- **Steps that keep the invariant do so one after the other.** -/
theorem Keeps.bind {f : α → StateT σ (Except ε) β} (hm : Keeps I Q m)
    (hf : ∀ a, Keeps I Q (f a)) : Keeps I Q (m >>= f) :=
  Obeys.bind hm fun a _ ↦ hf a

/-- Making something of the result does not touch the state. -/
theorem Keeps.map {f : α → β} (hm : Keeps I Q m) : Keeps I Q (f <$> m) := by
  rw [map_eq_pure_bind]
  exact hm.bind fun _ ↦ keeps_pure

/-- What reads the state may rely on the invariant of what it reads. -/
theorem keeps_get_bind {f : σ → StateT σ (Except ε) α} (hf : ∀ s, I s → Keeps I Q (f s)) :
    Keeps I Q (get >>= f) :=
  obeys_get.bind hf

theorem keeps_set {s : σ} (h : I s) : Keeps (ε := ε) I Q (set s) := by
  intro _ _
  refine ⟨fun _ s' hrun ↦ ?_, Except.failsOnly_ok⟩
  obtain ⟨-, rfl⟩ := Prod.mk.inj (Except.ok.inj hrun)
  exact ⟨trivial, h⟩

/-- A change of the state has to keep the invariant, from any state that has it. -/
theorem keeps_modify {f : σ → σ} (h : ∀ s, I s → I (f s)) : Keeps (ε := ε) I Q (modify f) := by
  intro s hs
  refine ⟨fun _ s' hrun ↦ ?_, Except.failsOnly_ok⟩
  obtain ⟨-, rfl⟩ := Prod.mk.inj (Except.ok.inj hrun)
  exact ⟨trivial, h s hs⟩

/-- What does not touch the state has to fail in the known ways. -/
theorem keeps_liftM {x : Except ε α} (h : x.FailsOnly Q) :
    Keeps I Q (liftM x : StateT σ (Except ε) α) :=
  (obeys_liftM h).mono fun _ _ ↦ trivial

/-- Both branches have to keep the invariant. -/
theorem keeps_ite {p : Prop} [Decidable p] {m' : StateT σ (Except ε) α} (hm : Keeps I Q m)
    (hm' : Keeps I Q m') : Keeps I Q (if p then m else m') := by
  split
  · exact hm
  · exact hm'

/-- A loop keeps the invariant when each round does. -/
theorem keeps_mapM {f : α → StateT σ (Except ε) β} (h : ∀ a, Keeps I Q (f a)) {l : List α} :
    Keeps I Q (l.mapM f) := by
  induction l with
  | nil => exact keeps_pure
  | cons a l ih =>
    rw [List.mapM_cons]
    exact (h a).bind fun _ ↦ ih.bind fun _ ↦ keeps_pure

theorem keeps_forM {f : α → StateT σ (Except ε) PUnit} (h : ∀ a, Keeps I Q (f a)) {l : List α} :
    Keeps I Q (l.forM f) := by
  induction l with
  | nil => exact keeps_pure
  | cons a l ih => exact (h a).bind fun _ ↦ ih

end StateT

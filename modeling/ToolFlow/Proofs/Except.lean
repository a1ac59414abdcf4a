import Mathlib.Data.List.Basic
import Mathlib.Data.List.Forall2

/-!
# Computations that may fail

When a sequence of computations comes to a result, so did each of its parts, and when it fails, one
of its parts did. These are the only facts about sequencing that the theory of runs uses, and they
spare it from unfolding `bind`.

There are three views of a failure, each closed under sequencing:

* `x = .error e`, where the failure itself matters, as in what is recorded of a step;
* `FailsWith Q`, by which a computation is said to fail in a certain way. It is an iff for every
  construct (`failsWith_bind_iff`, `failsWith_map_iff`, `failsWith_mapError_iff`), and is used to
  say exactly when something escapes that is no report;
* `FailsOnly Q`, by which it is said to fail in no other way. It is an implication, from parts to
  the whole, and is used to walk through readers that are too many to be described exactly.

Lists are gone through by `mapM` and `foldlM`. What these come to is given by membership, by
`List.Forall₂` and by the first failure, so that no later proof is an induction over a list for the
sake of a monad.
-/

namespace Except

variable {ε α β γ : Type}

/-- **A sequence comes to a result exactly when** its first part does and the second does from
there. -/
theorem bind_eq_ok_iff {x : Except ε α} {f : α → Except ε β} {b : β} :
    (x >>= f) = .ok b ↔ ∃ a, x = .ok a ∧ f a = .ok b := by
  cases x with
  | error e => simp [bind, Except.bind]
  | ok a => simp [bind, Except.bind]

/-- A sequence fails where its first part does, or else where the second does. -/
theorem bind_eq_error_iff {x : Except ε α} {f : α → Except ε β} {e : ε} :
    (x >>= f) = .error e ↔ x = .error e ∨ ∃ a, x = .ok a ∧ f a = .error e := by
  cases x with
  | error e => simp [bind, Except.bind]
  | ok a => simp [bind, Except.bind]

/-- What is made of a result is had exactly when the result is. -/
theorem exists_bind_pure_eq_ok_iff {x : Except ε α} {f : α → β} :
    (∃ b, (x >>= fun a ↦ pure (f a)) = .ok b) ↔ ∃ a, x = .ok a := by
  cases x with
  | error e => simp [bind, Except.bind]
  | ok a => simp [bind, Except.bind, pure, Except.pure]

/-- What is made of a result is made of one that is there. -/
theorem map_eq_ok_iff {x : Except ε α} {f : α → β} {b : β} :
    x.map f = .ok b ↔ ∃ a, x = .ok a ∧ f a = b := by
  cases x with
  | error e => simp [Except.map]
  | ok a => simp [Except.map]

/-- Making something of a result adds no failure. -/
theorem map_eq_error_iff {x : Except ε α} {f : α → β} {e : ε} :
    x.map f = .error e ↔ x = .error e := by
  cases x with
  | error e => simp [Except.map]
  | ok a => simp [Except.map]

/-- Reporting a failure in another way changes no result. -/
theorem mapError_eq_ok_iff {ε' : Type} {x : Except ε α} {f : ε → ε'} {a : α} :
    x.mapError f = .ok a ↔ x = .ok a := by
  cases x <;> simp [Except.mapError]

/-- A failure is reported as what it was. -/
theorem mapError_eq_error_iff {ε' : Type} {x : Except ε α} {f : ε → ε'} {e' : ε'} :
    x.mapError f = .error e' ↔ ∃ e, x = .error e ∧ f e = e' := by
  cases x <;> simp [Except.mapError]

/-- A computation that comes to nothing fails. -/
theorem exists_eq_error_iff {x : Except ε α} : (∃ e, x = .error e) ↔ ¬∃ a, x = .ok a := by
  cases x <;> simp

/-! ### Failing in a certain way -/

/-- A computation fails, and in a certain way. -/
def FailsWith (Q : ε → Prop) (x : Except ε α) : Prop :=
  ∃ e, x = .error e ∧ Q e

section FailsWith

variable {Q : ε → Prop} {x : Except ε α}

@[simp] theorem not_failsWith_ok {a : α} : ¬FailsWith Q (.ok a) := by
  simp [FailsWith]

@[simp] theorem failsWith_error_iff {e : ε} : FailsWith Q (.error e : Except ε α) ↔ Q e := by
  simp [FailsWith]

/-- **A sequence fails in a certain way exactly where** one of its parts is the first to fail, and
in that way. -/
theorem failsWith_bind_iff {f : α → Except ε β} :
    FailsWith Q (x >>= f) ↔ FailsWith Q x ∨ ∃ a, x = .ok a ∧ FailsWith Q (f a) := by
  cases x with
  | error e => simp [bind, Except.bind]
  | ok a => simp [bind, Except.bind]

theorem failsWith_map_iff {f : α → β} : FailsWith Q (x.map f) ↔ FailsWith Q x := by
  cases x <;> simp [Except.map]

/-- A failure that is reported in another way is judged as it is reported. -/
theorem failsWith_mapError_iff {ε' : Type} {Q : ε' → Prop} {f : ε → ε'} :
    FailsWith Q (x.mapError f) ↔ FailsWith (fun e ↦ Q (f e)) x := by
  cases x <;> simp [Except.mapError]

end FailsWith

/-! ### Failing in no other way -/

/-- A computation fails in certain ways only. -/
def FailsOnly (Q : ε → Prop) (x : Except ε α) : Prop :=
  ∀ e, x = .error e → Q e

section FailsOnly

variable {Q : ε → Prop} {x : Except ε α}

@[simp] theorem failsOnly_ok {a : α} : FailsOnly Q (.ok a) := by
  simp [FailsOnly]

@[simp] theorem failsOnly_pure {a : α} : FailsOnly Q (pure a : Except ε α) :=
  failsOnly_ok

@[simp] theorem failsOnly_error_iff {e : ε} : FailsOnly Q (.error e : Except ε α) ↔ Q e := by
  simp [FailsOnly]

/-- Both branches have to keep to the ways. -/
theorem failsOnly_ite {p : Prop} [Decidable p] {y : Except ε α} (hx : FailsOnly Q x)
    (hy : FailsOnly Q y) : FailsOnly Q (if p then x else y) := by
  split
  · exact hx
  · exact hy

/-- **A sequence fails in certain ways only when its parts do.** The second part may rely on what
the first came to. -/
theorem FailsOnly.bind {f : α → Except ε β} (hx : FailsOnly Q x)
    (hf : ∀ a, x = .ok a → FailsOnly Q (f a)) : FailsOnly Q (x >>= f) := by
  intro e he
  rcases bind_eq_error_iff.1 he with he | ⟨a, ha, he⟩
  · exact hx e he
  · exact hf a ha e he

/-- Going through a list fails in no other way than its items. -/
theorem FailsOnly.mapM {f : α → Except ε β} {l : List α} (h : ∀ a ∈ l, FailsOnly Q (f a)) :
    FailsOnly Q (l.mapM f) := by
  induction l with
  | nil => exact failsOnly_pure
  | cons a l ih =>
    obtain ⟨ha, hl⟩ := List.forall_mem_cons.1 h
    rw [List.mapM_cons]
    exact ha.bind fun _ _ ↦ (ih hl).bind fun _ _ ↦ failsOnly_pure

end FailsOnly

/-! ### Pairs and lists -/

/-- What has come to a result beside something has come to that result. -/
theorem pair_ok_inj {τ : Type} {t t' : τ} {a b : α}
    (h : (t, (Except.ok a : Except ε α)) = (t', .ok b)) : t = t' ∧ a = b := by
  obtain ⟨ht, hok⟩ := Prod.mk.inj h
  exact ⟨ht, Except.ok.inj hok⟩

/-- When it is known what a result shows, there is a result, and this is what it shows. So a run on
fixed input is evaluated for what is to be seen of its result, and not for the result itself. -/
theorem exists_eq_ok_of_shows {τ : Type} {run : τ × Except ε α} {shows : α → β} {shown : β}
    (h : run.2.toOption.map shows = some shown) :
    ∃ t a, run = (t, .ok a) ∧ shows a = shown := by
  rcases run with ⟨t, e | a⟩
  · cases h
  · exact ⟨t, a, rfl, Option.some.inj h⟩

/-- A list is gone through without failure exactly when no item fails. -/
theorem exists_mapM_eq_ok_iff {f : α → Except ε β} {l : List α} :
    (∃ bs, l.mapM f = .ok bs) ↔ ∀ a ∈ l, ∃ b, f a = .ok b := by
  induction l with
  | nil => simp [pure, Except.pure]
  | cons a l ih =>
    rw [List.forall_mem_cons, ← ih]
    constructor
    · rintro ⟨bs, h⟩
      rw [List.mapM_cons] at h
      obtain ⟨b, hb, hrest⟩ := bind_eq_ok_iff.1 h
      obtain ⟨rest, hl, -⟩ := bind_eq_ok_iff.1 hrest
      exact ⟨⟨b, hb⟩, rest, hl⟩
    · rintro ⟨⟨b, hb⟩, bs, hbs⟩
      refine ⟨b :: bs, ?_⟩
      rw [List.mapM_cons, hb, hbs]
      rfl

/-- When it is known what each item comes to, it is known what the list does. -/
theorem mapM_eq_ok_map {f : α → Except ε β} {g : α → β} {l : List α}
    (h : ∀ a ∈ l, f a = .ok (g a)) : l.mapM f = .ok (l.map g) := by
  induction l with
  | nil => rfl
  | cons a l ih =>
    obtain ⟨ha, hl⟩ := List.forall_mem_cons.1 h
    rw [List.mapM_cons, ha, ih hl]
    rfl

/-- **A list comes to a list exactly when** its items come to the items of that list. -/
theorem mapM_eq_ok_iff_forall₂ {f : α → Except ε β} {l : List α} {bs : List β} :
    l.mapM f = .ok bs ↔ List.Forall₂ (fun a b ↦ f a = .ok b) l bs := by
  induction l generalizing bs with
  | nil => simp [pure, Except.pure, eq_comm]
  | cons a l ih =>
    simp only [List.mapM_cons, bind_eq_ok_iff, ih, List.forall₂_cons_left_iff]
    constructor
    · rintro ⟨b, hb, rest, hrest, h⟩
      exact ⟨b, rest, hb, hrest, (Except.ok.inj h).symm⟩
    · rintro ⟨b, rest, hb, hrest, rfl⟩
      exact ⟨b, hb, rest, hrest, rfl⟩

/-- When all that an item can come to is known, so is what a list comes to. -/
theorem eq_map_of_mapM_eq_ok {f : α → Except ε β} {g : α → β} (hg : ∀ a b, f a = .ok b → b = g a)
    {l : List α} {bs : List β} (h : l.mapM f = .ok bs) : bs = l.map g := by
  have hmap : List.Forall₂ (fun a b ↦ g a = b) l bs :=
    (mapM_eq_ok_iff_forall₂.1 h).imp fun a b hab ↦ (hg a b hab).symm
  rwa [← List.forall₂_map_left_iff, List.forall₂_eq_eq_eq, eq_comm] at hmap

/-- What a list comes to is what its items come to. -/
theorem mem_iff_of_mapM_eq_ok {f : α → Except ε β} {l : List α} {bs : List β}
    (h : l.mapM f = .ok bs) {b : β} : b ∈ bs ↔ ∃ a ∈ l, f a = .ok b := by
  have hitems := mapM_eq_ok_iff_forall₂.1 h
  clear h
  induction hitems with
  | nil => simp
  | @cons a b' l bs hab _ ih =>
    have hfirst : b = b' ↔ f a = .ok b := by rw [hab, Except.ok.injEq, eq_comm]
    exact List.mem_cons.trans
      ((or_congr hfirst ih).trans (List.exists_mem_cons_iff (f · = .ok b) a l).symm)

/-- Each outcome is that of some item. -/
theorem exists_of_mem_of_mapM_eq_ok {f : α → Except ε β} {l : List α} {bs : List β}
    (h : l.mapM f = .ok bs) : ∀ b ∈ bs, ∃ a ∈ l, f a = .ok b :=
  fun _ ↦ (mem_iff_of_mapM_eq_ok h).1

/-- What an item and what it comes to have in common, the lists have in common. -/
theorem map_eq_map_of_mapM_eq_ok {f : α → Except ε β} {g : α → γ} {k : β → γ}
    (hfg : ∀ a b, f a = .ok b → g a = k b) {l : List α} {bs : List β} (h : l.mapM f = .ok bs) :
    l.map g = bs.map k := by
  have hmap : List.Forall₂ (fun a b ↦ g a = k b) l bs :=
    (mapM_eq_ok_iff_forall₂.1 h).imp hfg
  rwa [← List.forall₂_eq_eq_eq, List.forall₂_map_left_iff, List.forall₂_map_right_iff]

/-- A fold in which every item has to come to something fails with the first item that does not. -/
theorem foldlM_map_eq_error_iff {f : α → Except ε β} {g : γ → α → β → γ} {l : List α} {c : γ}
    {e : ε} :
    l.foldlM (fun c a ↦ (f a).map (g c a)) c = .error e ↔
      ∃ before a after, l = before ++ a :: after ∧ (∀ x ∈ before, ∃ b, f x = .ok b) ∧
        f a = .error e := by
  induction l generalizing c with
  | nil => simp [pure, Except.pure]
  | cons a l ih =>
    rw [List.foldlM_cons]
    rcases ha : f a with e' | b
    · have hfold : ((Except.error e' : Except ε β).map (g c a) >>= fun c ↦
          l.foldlM (fun c a ↦ (f a).map (g c a)) c) = .error e' := rfl
      rw [hfold]
      constructor
      · intro h
        obtain rfl := Except.error.inj h
        exact ⟨[], a, l, rfl, by simp, ha⟩
      · rintro ⟨_ | ⟨x, before⟩, a', after, hl, hbefore, ha'⟩
        · obtain ⟨rfl, -⟩ := List.cons.inj hl
          rw [Except.error.inj (ha.symm.trans ha')]
        · -- the first item fails, so nothing before another one can have failed
          obtain ⟨rfl, -⟩ := List.cons.inj hl
          obtain ⟨b, hb⟩ := hbefore a List.mem_cons_self
          exact absurd (ha.symm.trans hb) (by simp)
    · have hfold : ((Except.ok b : Except ε β).map (g c a) >>= fun c ↦
          l.foldlM (fun c a ↦ (f a).map (g c a)) c) =
            l.foldlM (fun c a ↦ (f a).map (g c a)) (g c a b) := rfl
      rw [hfold, ih]
      constructor
      · rintro ⟨before, a', after, rfl, hbefore, ha'⟩
        exact ⟨a :: before, a', after, rfl, List.forall_mem_cons.2 ⟨⟨b, ha⟩, hbefore⟩, ha'⟩
      · rintro ⟨_ | ⟨x, before⟩, a', after, hl, hbefore, ha'⟩
        · obtain ⟨rfl, -⟩ := List.cons.inj hl
          exact absurd (ha.symm.trans ha') (by simp)
        · obtain ⟨rfl, rfl⟩ := List.cons.inj hl
          exact ⟨before, a', after, rfl, (List.forall_mem_cons.1 hbefore).2, ha'⟩

/-- Such a fold comes to something exactly when every item does. -/
theorem exists_foldlM_map_eq_ok_iff {f : α → Except ε β} {g : γ → α → β → γ} {l : List α} {c : γ} :
    (∃ c', l.foldlM (fun c a ↦ (f a).map (g c a)) c = .ok c') ↔ ∀ a ∈ l, ∃ b, f a = .ok b := by
  induction l generalizing c with
  | nil => simp [pure, Except.pure]
  | cons a l ih =>
    rw [List.foldlM_cons, List.forall_mem_cons]
    constructor
    · rintro ⟨c', h⟩
      obtain ⟨c₁, hc₁, hrest⟩ := bind_eq_ok_iff.1 h
      obtain ⟨b, hb, -⟩ := map_eq_ok_iff.1 hc₁
      exact ⟨⟨b, hb⟩, ih.1 ⟨c', hrest⟩⟩
    · rintro ⟨⟨b, hb⟩, hrest⟩
      obtain ⟨c', hc'⟩ := ih.2 hrest
      exact ⟨c', bind_eq_ok_iff.2 ⟨g c a b, by rw [hb]; rfl, hc'⟩⟩

end Except

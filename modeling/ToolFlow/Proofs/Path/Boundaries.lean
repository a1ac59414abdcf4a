import ToolFlow.Proofs.Path.Printing

/-!
# Where a text is cut

A text is cut in front of each token, where no word goes on (`Parted`). What the tokens from one of
them on say is what the text from there on says (`exists_append_of_suffix`, and
`tokensFrom_of_suffix` where the rest of the text is known), and a number of too many digits is in
one of the two parts or in the other (`not_hasOverlongNumber_append_iff_of_parted`).

When a text is not cut because of a blank character, this is the first one in it
(`exists_append_of_tokensFrom_eq_problem`).

The module serves those who put texts together. A text that was accepted up to some token and is
then continued otherwise is cut at that token as before, so that a completion can be judged by its
two parts. That takes two conditions, one on either side: the first part has to end where a token
ends, and the second must not begin with more of a word. `Parted` is the weaker of the ways to say
this, since it asks for the second condition only where the first part ends in a word, and it is
closed under taking parts of either side (`Parted.append`, `Parted.of_append_left`).
-/

namespace ToolFlow.Path

/-- No word of the one part of a text goes on in the other. -/
def Parted (before after : List Char) : Prop :=
  ∀ a ∈ before.getLast?, ∀ b ∈ after.head?, isWordChar a = true → isWordChar b = false

variable {position : ℕ} {first before after cs rest : List Char} {tokens left : List Token}

/-! ### Parts -/

/-- There is no word in an empty part that could go on. -/
theorem parted_nil_left : Parted [] after := by
  simp [Parted]

/-- Before what no name goes on into, any word has ended. -/
theorem parted_of_endsName (h : EndsName after) : Parted before after :=
  fun _ _ b hb _ ↦ h b hb

/-- After punctuation no word goes on. -/
theorem parted_concat_of_punctuation? {c : Char} {symbol : Symbol}
    (h : punctuation? c = some symbol) (before after : List Char) :
    Parted (before ++ [c]) after := by
  intro a ha b _ hword
  obtain rfl : c = a := by simpa using ha
  simp [isWordChar, h] at hword

/-- Nothing goes on after a mark. -/
theorem parted_cons_of_punctuation? {c : Char} {symbol : Symbol} (h : punctuation? c = some symbol)
    (after : List Char) : Parted [c] after :=
  parted_concat_of_punctuation? h [] after

/-- A part that ends in a name is parted only from what no name goes on into. -/
theorem Parted.endsName {name : List Char} (hname : IsName name) (h : Parted name after) :
    EndsName after := by
  obtain ⟨hne, hchars⟩ := isName_iff.1 hname
  intro b hb
  exact h _ (List.getLast?_eq_some_getLast hne) b hb (hchars _ (List.getLast_mem hne))

/-- What comes before the last word does not matter. -/
theorem Parted.of_append_left (h : Parted (first ++ before) after) : Parted before after := by
  intro a ha
  refine h a ?_
  rw [List.getLast?_append, Option.mem_def.1 ha]
  rfl

/-- What is parted from all that follows is parted from the end of it, where that is parted. -/
theorem Parted.append (h : Parted first (before ++ after)) (hafter : Parted before after) :
    Parted (first ++ before) after := by
  rcases List.eq_nil_or_concat before with rfl | ⟨init, c, rfl⟩
  · simpa using h
  · intro a ha
    refine hafter a ?_
    simpa using ha

/-- **A number of too many digits is in one part of a text or in the other.** -/
theorem not_hasOverlongNumber_append_iff_of_parted (hblank : ∀ c ∈ before, Text.isBlank c = false)
    (h : Parted before after) :
    ¬HasOverlongNumber (before ++ after) ↔
      ¬HasOverlongNumber before ∧ ¬HasOverlongNumber after := by
  induction hlength : before.length using Nat.strong_induction_on generalizing before with
  | _ n ih =>
    cases cut before with
    | finish => simp [not_hasOverlongNumber_nil]
    | blank isBlank => simp [hblank _ List.mem_cons_self] at isBlank
    | @punctuation c rest symbol hc =>
      have hrest : Parted rest after := @Parted.of_append_left [c] _ _ h
      have hblank : ∀ x ∈ rest, Text.isBlank x = false := fun x hx ↦
        hblank x (List.mem_cons_of_mem c hx)
      rw [List.cons_append, not_hasOverlongNumber_cons_iff hc, not_hasOverlongNumber_cons_iff hc]
      exact ih _ (by simp [← hlength]) hblank hrest rfl
    | @name name rest hname hends =>
      have hrest : Parted rest after := h.of_append_left
      have hblank : ∀ x ∈ rest, Text.isBlank x = false := fun x hx ↦
        hblank x (List.mem_append_right name hx)
      have hjoined : EndsName (rest ++ after) := by
        rcases rest with _ | ⟨c, rest⟩
        · rw [List.append_nil] at h
          exact h.endsName hname
        · exact hends
      have hlt : rest.length < n := by
        have hpos : 0 < name.length := List.length_pos_of_ne_nil hname.1
        rw [← hlength, List.length_append]
        omega
      rw [List.append_assoc, not_hasOverlongNumber_append_iff hname hjoined,
        not_hasOverlongNumber_append_iff hname hends, ih _ hlt hblank hrest rfl, and_assoc]

/-! ### Tokens from one of them on -/

/-- A token that is not the last is cut off from what follows. -/
theorem StartsAs.exists_append {symbol : Symbol} {later : List Token}
    (h : StartsAs position cs symbol later) :
    cs = [] ∧ symbol = .finish ∧ later = [] ∨
      ∃ first rest, cs = first ++ rest ∧ Parted first rest ∧
        (∀ c ∈ first, Text.isBlank c = false) ∧
        tokensFrom (position + first.length) rest = .ok later := by
  cases h with
  | finish => exact Or.inl ⟨rfl, rfl, rfl⟩
  | @punctuation c rest _ _ hc hlater =>
    exact Or.inr ⟨[c], rest, rfl, parted_cons_of_punctuation? hc rest,
      by simp [isBlank_of_punctuation? hc], hlater⟩
  | @word name rest _ hname _ hends hlater =>
    exact Or.inr ⟨name, rest, rfl, parted_of_endsName hends, hname.not_blank, hlater⟩
  | @number digits rest _ hdecimal hends hlater =>
    exact Or.inr ⟨digits, rest, rfl, parted_of_endsName hends,
      (isName_of_isDecimal hdecimal).not_blank, hlater⟩

/-- The last token stands at the end of the text. -/
theorem getLast?_of_tokensFrom (h : tokensFrom position cs = .ok tokens) :
    tokens.getLast? = some ⟨.finish, position + cs.length⟩ := by
  induction tokens generalizing position cs with
  | nil =>
    obtain ⟨_, _, hnil, -⟩ := startsAs_of_tokensFrom h
    simp at hnil
  | cons token later ih =>
    obtain ⟨symbol, _, heq, hstart⟩ := startsAs_of_tokensFrom h
    obtain ⟨rfl, rfl⟩ := List.cons.inj heq
    rcases hstart.exists_append with ⟨rfl, rfl, rfl⟩ | ⟨first, rest, rfl, -, -, hlater⟩
    · rfl
    · rw [List.getLast?_cons, ih hlater, List.length_append, Nat.add_assoc]
      rfl

/-- **The tokens from one of them on are those of the text from there on**, where no word goes on
and before which nothing is blank. -/
theorem exists_append_of_suffix (h : tokensFrom position cs = .ok tokens)
    (hsuffix : left <:+ tokens) (hne : left ≠ []) :
    ∃ done rest, cs = done ++ rest ∧ Parted done rest ∧ (∀ c ∈ done, Text.isBlank c = false) ∧
      tokensFrom (position + done.length) rest = .ok left := by
  induction tokens generalizing position cs with
  | nil => exact absurd (List.suffix_nil.1 hsuffix) hne
  | cons token later ih =>
    rcases List.suffix_cons_iff.1 hsuffix with rfl | htail
    · exact ⟨[], cs, rfl, parted_nil_left, by simp, h⟩
    · obtain ⟨symbol, _, heq, hstart⟩ := startsAs_of_tokensFrom h
      obtain ⟨rfl, rfl⟩ := List.cons.inj heq
      rcases hstart.exists_append with ⟨-, -, rfl⟩ | ⟨first, _, rfl, hparted, hblank, hlater⟩
      · exact absurd (List.suffix_nil.1 htail) hne
      · obtain ⟨done, rest, rfl, hdone, hnone, hleft⟩ := ih hlater htail
        refine ⟨first ++ done, rest, by simp, hparted.append hdone, ?_, ?_⟩
        · exact List.forall_mem_append.2 ⟨hblank, hnone⟩
        · rw [List.length_append, ← Nat.add_assoc]
          exact hleft

/-- **Tokens that are left, and the text that is left, tell where they start.** -/
theorem tokensFrom_of_suffix {done : List Char} {position' : ℕ}
    (h : tokensFrom position (done ++ rest) = .ok tokens)
    (hrest : tokensFrom position' rest = .ok left) (hsuffix : left <:+ tokens) :
    position' = position + done.length ∧ Parted done rest ∧
      ∀ c ∈ done, Text.isBlank c = false := by
  obtain ⟨symbol, later, rfl, -⟩ := startsAs_of_tokensFrom hrest
  obtain ⟨done', rest', heq, hparted, hblank, hrest'⟩ :=
    exists_append_of_suffix h hsuffix (List.cons_ne_nil _ _)
  -- both texts that are left start at the first token and end at the last one
  obtain ⟨_, _, hhead, -⟩ := startsAs_of_tokensFrom hrest'
  obtain rfl : position' = position + done'.length := (Token.mk.inj (List.cons.inj hhead).1).2
  have hlast := (getLast?_of_tokensFrom hrest).symm.trans (getLast?_of_tokensFrom hrest')
  have hlength : rest.length = rest'.length := by simpa using hlast
  obtain ⟨rfl, rfl⟩ := List.append_inj' heq hlength
  exact ⟨rfl, hparted, hblank⟩

/-- A text that was cut has no blank character. -/
theorem not_blank_of_tokensFrom (h : tokensFrom position cs = .ok tokens) :
    ∀ c ∈ cs, Text.isBlank c = false := by
  have hlast := getLast?_of_tokensFrom h
  have hsuffix : [⟨.finish, position + cs.length⟩] <:+ tokens := by
    obtain ⟨init, rfl⟩ := List.getLast?_eq_some_iff.1 hlast
    exact List.suffix_append init _
  obtain ⟨done, rest, rfl, -, hblank, hrest⟩ := exists_append_of_suffix h hsuffix (by simp)
  -- nothing but the end of the text is left for the last token
  obtain ⟨_, _, heq, hstart⟩ := startsAs_of_tokensFrom hrest
  obtain ⟨htoken, rfl⟩ := List.cons.inj heq
  obtain rfl := (Token.mk.inj htoken).1
  cases hstart with
  | finish => simpa using hblank
  | punctuation hc _ => simp [punctuation?_eq_some_iff] at hc

/-! ### Blank characters -/

/-- **A text that is not cut for a problem is stopped at its first blank character.** -/
theorem exists_append_of_tokensFrom_eq_problem {p : Problem}
    (h : tokensFrom position cs = .error (.problem p)) :
    ∃ done c rest, cs = done ++ c :: rest ∧ (∀ x ∈ done, Text.isBlank x = false) ∧
      Text.isBlank c = true ∧ p = .blank (position + done.length) := by
  induction hlength : cs.length using Nat.strong_induction_on generalizing position cs with
  | _ n ih =>
    cases cut cs with
    | finish => simp [tokensFrom_nil] at h
    | @blank c rest hc =>
      rw [tokensFrom_cons_of_isBlank hc] at h
      obtain rfl := Failure.problem.inj (Except.error.inj h)
      exact ⟨[], c, rest, rfl, by simp, hc, rfl⟩
    | @punctuation c rest symbol hc =>
      rw [tokensFrom_cons hc] at h
      rcases Except.bind_eq_error_iff.1 h with h | ⟨later, -, h⟩
      · obtain ⟨done, c', rest, rfl, hdone, hc', rfl⟩ := ih rest.length (by simp [← hlength]) h rfl
        refine ⟨c :: done, c', rest, rfl, ?_, hc', ?_⟩
        · exact List.forall_mem_cons.2 ⟨isBlank_of_punctuation? hc, hdone⟩
        · rw [List.length_cons, Nat.add_assoc, Nat.add_comm 1]
      · simp at h
    | @name name rest hname hends =>
      rw [tokensFrom_append hname hends] at h
      rcases Except.bind_eq_error_iff.1 h with h | ⟨symbol, -, h⟩
      · simp [wordSymbol_eq_error_iff] at h
      · rcases Except.bind_eq_error_iff.1 h with h | ⟨later, -, h⟩
        · have hpos : 0 < name.length := List.length_pos_of_ne_nil hname.1
          obtain ⟨done, c, rest, rfl, hdone, hc, rfl⟩ :=
            ih rest.length (by rw [← hlength, List.length_append]; omega) h rfl
          refine ⟨name ++ done, c, rest, by simp, ?_, hc, ?_⟩
          · exact List.forall_mem_append.2 ⟨hname.not_blank, hdone⟩
          · rw [List.length_append, Nat.add_assoc]
        · simp at h

end ToolFlow.Path

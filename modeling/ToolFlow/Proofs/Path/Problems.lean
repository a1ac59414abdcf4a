import ToolFlow.Proofs.Path.Boundaries

/-!
# Where problems are reported

A problem is reported where the text goes wrong (`pointsAt`). Blank characters come first: if there
is one, the text is not cut into tokens, and the first of them is reported. Otherwise the position
is that of a token or of the end, and up to there nothing is amiss: what stands before it could be
completed to a text that is accepted.

A reader that stops stands before the token that it did not expect. What it has read by then and a
completion of it make up a text of the form that it reads (`StopsIn`); each reader has a lemma that
names the completion, and the completion of a part is one of the whole (`StopsIn.after`). That no
number in the completed text is too long is seen from its two parts, since no word goes on from the
one to the other.

A completion has to be named and not merely claimed, and what it is depends on where the reader
stands: after an opening bracket a number and a closing one, after a dot a name, at the start of a
reference a whole reference. None of them has to be unique or short. The one thing asked of it is
that it is of the form and cut where the text was cut.

The position itself is read off the primitives, of which each reports the position of the next token
(`position_of_expect` and its like). The end of the text is a token in this respect.
-/

namespace ToolFlow.Path

variable {cs rest : List Char} {tokens later : List Token} {p : Problem}
  {form form' : List Char → Prop}

/-! ### Completions -/

/-- A reader of a form stops for a problem in a text: it stands before one of the tokens, and what
was read until then can be completed. -/
def StopsIn (form : List Char → Prop) (cs : List Char) (tokens : List Token) (p : Problem) : Prop :=
  ∃ done rest left completion, cs = done ++ rest ∧ CutInto rest left ∧ left <:+ tokens ∧
    p.position = (next left).position ∧ form (done ++ completion) ∧ Parted done completion ∧
    ¬HasOverlongNumber completion

/-- A reader that stops at once has read nothing. -/
theorem stopsIn_here (h : CutInto cs tokens) (hp : p.position = (next tokens).position)
    {completion : List Char} (hform : form completion) (hshort : ¬HasOverlongNumber completion) :
    StopsIn form cs tokens p :=
  ⟨[], cs, tokens, completion, rfl, h, List.suffix_rfl, hp, hform, parted_nil_left, hshort⟩

/-- **What completes a part completes the whole.** -/
theorem StopsIn.after (first : List Char) (h : StopsIn form' rest later p)
    (hlater : later <:+ tokens) (hform : ∀ cs, form' cs → form (first ++ cs))
    (hparted : ∀ cs, form' cs → Parted first cs) : StopsIn form (first ++ rest) tokens p := by
  obtain ⟨done, rest, left, completion, rfl, hcut, hleft, hp, hform', hdone, hshort⟩ := h
  refine ⟨first ++ done, rest, left, completion, by simp, hcut, hleft.trans hlater, hp, ?_, ?_,
    hshort⟩
  · rw [List.append_assoc]
    exact hform _ hform'
  · exact (hparted _ hform').append hdone

/-! ### Single tokens -/

/-- A mark that was not found is reported where it was expected. -/
theorem position_of_expect {wanted : Symbol.Class} (h : expect wanted tokens = .error p) :
    p.position = (next tokens).position := by
  unfold expect at h
  split at h
  · simp at h
  · exact Except.error.inj h ▸ rfl

/-- So is a number. -/
theorem position_of_expectNumber (h : expectNumber tokens = .error p) :
    p.position = (next tokens).position := by
  unfold expectNumber at h
  split at h
  · simp at h
  · exact Except.error.inj h ▸ rfl

/-- So is a word. -/
theorem position_of_expectWord (h : expectWord tokens = .error p) :
    p.position = (next tokens).position := by
  unfold expectWord at h
  split at h
  · simp at h
  · exact Except.error.inj h ▸ rfl

/-- So is the name of a segment, be it a word or a number. -/
theorem position_of_segmentName (h : segmentName tokens = .error p) :
    p.position = (next tokens).position := by
  unfold segmentName at h
  split at h
  · simp at h
  · simp at h
  · exact Except.error.inj h ▸ rfl

/-- A word that is no root is reported where it stands. -/
theorem position_of_readRoot (h : readRoot tokens = .error p) :
    p.position = (next tokens).position := by
  rcases Except.bind_eq_error_iff.1 h with h | ⟨⟨name, later⟩, -, h⟩
  · exact position_of_expectWord h
  · dsimp only at h
    split at h
    · simp at h
    · exact Except.error.inj h ▸ rfl

/-! ### Segments -/

/-- A bracketed index. -/
def IsIndex (cs : List Char) : Prop :=
  ∃ digits, Text.isDecimal digits = true ∧ cs = '[' :: (digits ++ [']'])

/-- No name goes on into an index. -/
theorem IsIndex.endsName (h : IsIndex cs) : EndsName cs := by
  obtain ⟨digits, -, rfl⟩ := h
  exact endsName_cons_of_punctuation? punctuation?_opening _

/-- After the bracket a number is wanting, or the bracket after the number. -/
theorem stopsIn_of_segmentIndex (h : CutInto cs tokens) (hread : segmentIndex tokens = .error p) :
    StopsIn IsIndex cs tokens p := by
  unfold segmentIndex at hread
  split at hread
  · next hopening =>
    obtain ⟨rest, rfl, h₁⟩ := h.eq_cons hopening punctuation?_opening
    rcases Except.bind_eq_error_iff.1 hread with hnumber | ⟨⟨n, tokens₁⟩, hnumber, hread⟩
    · exact ⟨['['], rest, tokens.tail, ['0', ']'], rfl, h₁, List.tail_suffix _,
        position_of_expectNumber hnumber, ⟨['0'], by decide, rfl⟩,
        parted_cons_of_punctuation? punctuation?_opening _, by decide +kernel⟩
    · obtain ⟨rfl, digits, rest, rfl, hdecimal, -, h₂⟩ := of_expectNumber h₁ hnumber
      rcases Except.bind_eq_error_iff.1 hread with hclosing | ⟨_, -, hread⟩
      · exact ⟨'[' :: digits, rest, tokens.tail.tail, [']'], rfl, h₂,
          (List.tail_suffix _).trans (List.tail_suffix _), position_of_expect hclosing,
          ⟨digits, hdecimal, rfl⟩,
          parted_of_endsName (endsName_cons_of_punctuation? punctuation?_closing _),
          by decide +kernel⟩
      · simp at hread
  · simp at hread

/-- A name is wanting, or something about the index. -/
theorem stopsIn_of_readSegment (h : CutInto cs tokens) (hread : readSegment tokens = .error p) :
    StopsIn (fun cs ↦ ∃ segment : Segment, segment.Spelled cs) cs tokens p := by
  rcases Except.bind_eq_error_iff.1 hread with hname | ⟨⟨name, tokens₁⟩, hname, hread⟩
  · have hx : IsName ['x'] := by decide +kernel
    exact stopsIn_here h (position_of_segmentName hname) ⟨_, .plain hx⟩ (by decide +kernel)
  · obtain ⟨rfl, written, rest, rfl, hwritten, -, h₁⟩ := of_segmentName h hname
    rcases Except.bind_eq_error_iff.1 hread with hindex | ⟨_, -, hread⟩
    · refine (stopsIn_of_segmentIndex h₁ hindex).after written (List.tail_suffix _) ?_ ?_
      · rintro _ ⟨digits, hdecimal, rfl⟩
        exact ⟨_, .indexed hwritten hdecimal⟩
      · exact fun _ hindex ↦ parted_of_endsName hindex.endsName
    · simp at hread

/-- Something is wrong with a segment after a dot, or there is no dot where there should be one. -/
theorem stopsIn_of_moreSegments {fuel : ℕ} (h : CutInto cs tokens)
    (hread : moreSegments fuel tokens = .error p) :
    StopsIn (fun cs ↦ ∃ segments, Continued segments cs) cs tokens p := by
  induction fuel generalizing cs tokens with
  | zero => simp [moreSegments] at hread
  | succ fuel ih =>
    rw [moreSegments] at hread
    split at hread
    · next hdot =>
      obtain ⟨rest, rfl, h₁⟩ := h.eq_cons hdot punctuation?_dot
      rcases Except.bind_eq_error_iff.1 hread with hsegment | ⟨⟨segment, later⟩, hsegment, hread⟩
      · refine (stopsIn_of_readSegment h₁ hsegment).after ['.'] (List.tail_suffix _) ?_ ?_
        · rintro written ⟨segment, hwritten⟩
          exact ⟨[segment], by simpa using Continued.cons hwritten .nil⟩
        · exact fun _ _ ↦ parted_cons_of_punctuation? punctuation?_dot _
      · obtain ⟨hsuffix, written, rest, rfl, hwritten, h₂⟩ := of_readSegment h₁ hsegment
        rcases Except.bind_eq_error_iff.1 hread with hmore | ⟨_, -, hread⟩
        · refine (ih h₂ hmore).after ('.' :: written) (hsuffix.trans (List.tail_suffix _)) ?_ ?_
          · rintro _ ⟨segments, hsegments⟩
            exact ⟨segment :: segments, .cons hwritten hsegments⟩
          · rintro _ ⟨segments, hsegments⟩
            exact parted_of_endsName hsegments.endsName
        · simp at hread
    · simp at hread
    · obtain rfl := Except.error.inj hread
      exact stopsIn_here h rfl ⟨[], .nil⟩ not_hasOverlongNumber_nil

/-! ### The two grammars -/

/-- **A reader of relative paths that stops stands where the text could still become one.** -/
theorem stopsIn_of_readRelative (h : CutInto cs tokens) (hread : readRelative tokens = .error p) :
    StopsIn (fun cs ↦ ∃ segments, Spelled segments cs) cs tokens p := by
  rcases Except.bind_eq_error_iff.1 hread with hsegment | ⟨⟨segment, later⟩, hsegment, hread⟩
  · refine (stopsIn_of_readSegment h hsegment).after [] List.suffix_rfl ?_ ?_
    · rintro written ⟨segment, hwritten⟩
      exact ⟨[segment], by simpa using Spelled.intro hwritten .nil⟩
    · exact fun _ _ ↦ parted_nil_left
  · obtain ⟨hsuffix, written, rest, rfl, hwritten, h₁⟩ := of_readSegment h hsegment
    rcases Except.bind_eq_error_iff.1 hread with hmore | ⟨_, -, hread⟩
    · refine (stopsIn_of_moreSegments h₁ hmore).after written hsuffix ?_ ?_
      · rintro _ ⟨segments, hsegments⟩
        exact ⟨segment :: segments, .intro hwritten hsegments⟩
      · rintro _ ⟨segments, hsegments⟩
        exact parted_of_endsName hsegments.endsName
    · simp at hread

/-- The text of a reference to the whole result of a step, by the digits of the step. -/
def bareReference (digits : List Char) : List Char :=
  stepsKeyword.toList ++ '[' :: (digits ++ ']' :: '.' :: Root.result.name.toList)

/-- A step and a root are a reference. -/
theorem spelled_bareReference {digits : List Char} (hdecimal : Text.isDecimal digits = true) :
    Reference.Spelled ⟨Text.decimalValue digits, .result, []⟩ (bareReference digits) := by
  simpa [bareReference, stepsKeyword] using Reference.Spelled.intro hdecimal .result .nil

/-- Something is wrong before the root of a reference: what was read until then is the beginning
of a reference to the whole result of a step. -/
theorem stopsIn_of_bareReference (done completion : List Char) {rest digits : List Char}
    (hdecimal : Text.isDecimal digits = true) (hcs : cs = done ++ rest) (h : CutInto rest later)
    (hlater : later <:+ tokens) (hp : p.position = (next later).position)
    (hbare : done ++ completion = bareReference digits) (hparted : Parted done completion)
    (hshort : ¬HasOverlongNumber completion) :
    StopsIn (fun cs ↦ ∃ ref : Reference, ref.Spelled cs) cs tokens p :=
  ⟨done, rest, later, completion, hcs, h, hlater, hp, ⟨_, hbare ▸ spelled_bareReference hdecimal⟩,
    hparted, hshort⟩

/-- The part of a reference after the step: a root, and segments after it. -/
def IsRooted (cs : List Char) : Prop :=
  ∃ (root : Root) (segments : List Segment) (written : List Char),
    Continued segments written ∧ cs = root.name.toList ++ written

/-- A root is wanting, or something is wrong with the segments after it. -/
theorem stopsIn_of_rooted {β : Type} {fuel : ℕ} {f : Root → List Segment → β}
    (h : CutInto cs tokens)
    (hread : (do
      let (root, rest) ← readRoot tokens
      let segments ← moreSegments fuel rest
      .ok (f root segments)) = .error p) : StopsIn IsRooted cs tokens p := by
  rcases Except.bind_eq_error_iff.1 hread with hroot | ⟨⟨root, later⟩, hroot, hread⟩
  · exact stopsIn_here h (position_of_readRoot hroot) ⟨.result, [], [], .nil, rfl⟩
      (by decide +kernel)
  · obtain ⟨rfl, rest, rfl, h₁⟩ := of_readRoot h hroot
    rcases Except.bind_eq_error_iff.1 hread with hmore | ⟨_, -, hread⟩
    · refine (stopsIn_of_moreSegments h₁ hmore).after root.name.toList (List.tail_suffix _) ?_ ?_
      · rintro written ⟨segments, hsegments⟩
        exact ⟨root, segments, written, hsegments, rfl⟩
      · rintro _ ⟨segments, hsegments⟩
        exact parted_of_endsName hsegments.endsName
    · simp at hread

/-- Something is wrong with a reference: before its segments, or in them. -/
theorem stopsIn_of_readReference (h : CutInto cs tokens) (hread : readReference tokens = .error p) :
    StopsIn (fun cs ↦ ∃ ref : Reference, ref.Spelled cs) cs tokens p := by
  have hzero : Text.isDecimal ['0'] = true := by decide
  have hstart : p.position = (next tokens).position →
      StopsIn (fun cs ↦ ∃ ref : Reference, ref.Spelled cs) cs tokens p := fun hp ↦
    stopsIn_here h hp ⟨_, spelled_bareReference hzero⟩ (by decide +kernel)
  rcases Except.bind_eq_error_iff.1 hread with hkeyword | ⟨⟨keyword, tokens₁⟩, hkeyword, hread⟩
  · exact hstart (position_of_expectWord hkeyword)
  obtain ⟨rfl, rest₁, rfl, h₁⟩ := of_expectWord h hkeyword
  dsimp only at hread
  split at hread
  · exact hstart (Except.error.inj hread ▸ rfl)
  next hsame =>
  obtain rfl : keyword = stepsKeyword := not_not.1 hsame
  have hs₁ : tokens.tail <:+ tokens := List.tail_suffix tokens
  -- the step in brackets
  rcases Except.bind_eq_error_iff.1 hread with hopening | ⟨tokens₂, hopening, hread⟩
  · exact stopsIn_of_bareReference stepsKeyword.toList "[0].result".toList hzero rfl h₁ hs₁
      (position_of_expect hopening) rfl
      (parted_of_endsName (endsName_cons_of_punctuation? punctuation?_opening _))
      (by decide +kernel)
  obtain ⟨rfl, rest₂, rfl, h₂⟩ := of_expect punctuation?_opening h₁ hopening
  have hs₂ := (List.tail_suffix _).trans hs₁
  rcases Except.bind_eq_error_iff.1 hread with hnumber | ⟨⟨step, tokens₃⟩, hnumber, hread⟩
  · exact stopsIn_of_bareReference (stepsKeyword.toList ++ ['[']) "0].result".toList hzero
      (by simp) h₂ hs₂ (position_of_expectNumber hnumber) (List.append_assoc ..)
      (parted_concat_of_punctuation? punctuation?_opening _ _) (by decide +kernel)
  obtain ⟨rfl, digits, rest₃, rfl, hdecimal, rfl, h₃⟩ := of_expectNumber h₂ hnumber
  have hs₃ := (List.tail_suffix _).trans hs₂
  rcases Except.bind_eq_error_iff.1 hread with hclosing | ⟨tokens₄, hclosing, hread⟩
  · exact stopsIn_of_bareReference (stepsKeyword.toList ++ '[' :: digits) "].result".toList
      hdecimal (by simp) h₃ hs₃ (position_of_expect hclosing) (List.append_assoc ..)
      (parted_of_endsName (endsName_cons_of_punctuation? punctuation?_closing _))
      (by decide +kernel)
  obtain ⟨rfl, rest₄, rfl, h₄⟩ := of_expect punctuation?_closing h₃ hclosing
  have hs₄ := (List.tail_suffix _).trans hs₃
  -- the dot
  rcases Except.bind_eq_error_iff.1 hread with hdot | ⟨tokens₅, hdot, hread⟩
  · exact stopsIn_of_bareReference (stepsKeyword.toList ++ '[' :: (digits ++ [']']))
      ".result".toList hdecimal (by simp) h₄ hs₄ (position_of_expect hdot)
      (by simp [bareReference, Root.name])
      (parted_of_endsName (endsName_cons_of_punctuation? punctuation?_dot _)) (by decide +kernel)
  obtain ⟨rfl, rest₅, rfl, h₅⟩ := of_expect punctuation?_dot h₄ hdot
  have hs₅ := (List.tail_suffix _).trans hs₄
  -- the root and the segments
  have hparts : stepsKeyword.toList ++ '[' :: (digits ++ ']' :: '.' :: rest₅) =
      (stepsKeyword.toList ++ '[' :: (digits ++ [']']) ++ ['.']) ++ rest₅ := by
    simp
  rw [hparts]
  refine (stopsIn_of_rooted h₅ hread).after _ hs₅ ?_ ?_
  · rintro _ ⟨root, segments, written, hsegments, rfl⟩
    exact ⟨_, by simpa [stepsKeyword] using Reference.Spelled.intro hdecimal root hsegments⟩
  · exact fun rooted _ ↦ parted_concat_of_punctuation? punctuation?_dot _ rooted

/-! ### Texts -/

/-- What the position of a problem in a text tells, of a reader that stops there. -/
structure PointsAt {α : Type} (parse : String → Except Failure α) (text : String) (n : ℕ) :
    Prop where
  le_length : n ≤ text.toList.length
  first_blank : (∃ c ∈ text.toList, Text.isBlank c = true) →
    text.toList.findIdx? Text.isBlank = some n
  viable : (∀ c ∈ text.toList, Text.isBlank c = false) →
    ∃ accepted a, parse accepted = .ok a ∧ text.toList.take n <+: accepted.toList
  at_token : (∀ c ∈ text.toList, Text.isBlank c = false) →
    n = text.toList.length ∨ ∃ all, Path.tokens text = .ok all ∧
      ∃ token ∈ all, token.symbol ≠ .finish ∧ token.position = n

variable {α : Type} {text : String} {grammar : List Token → Except Problem α}
  {spelled : α → List Char → Prop}

/-- A text that is not cut into tokens has its problem at its first blank character. -/
theorem pointsAt_of_tokens {parse : String → Except Failure α}
    (h : Path.tokens text = .error (.problem p)) : PointsAt parse text p.position := by
  obtain ⟨done, c, rest, htext, hdone, hc, rfl⟩ := exists_append_of_tokensFrom_eq_problem h
  have hmem : c ∈ text.toList := by simp [htext]
  have hposition : (Problem.blank (0 + done.length)).position = done.length := Nat.zero_add _
  rw [hposition]
  refine ⟨?_, fun _ ↦ ?_, fun hnone ↦ ?_, fun hnone ↦ ?_⟩
  · rw [htext, List.length_append]
    exact Nat.le_add_right _ _
  · rw [htext, List.findIdx?_append, List.findIdx?_eq_none_iff.2 hdone, List.findIdx?_cons,
      if_pos hc]
    simp
  · simp [hnone c hmem] at hc
  · simp [hnone c hmem] at hc

/-- **A problem of the grammar is at a token**, up to which the text can be completed. -/
theorem pointsAt_of_stopsIn
    (hread : ∀ {text : String}, ¬HasOverlongNumber text.toList →
      ∀ {a}, read grammar text = .ok a ↔ spelled a text.toList)
    (hshort : ¬HasOverlongNumber text.toList) (htokens : Path.tokens text = .ok tokens)
    (h : StopsIn (fun cs ↦ ∃ a, spelled a cs) text.toList tokens p) :
    PointsAt (read grammar) text p.position := by
  obtain ⟨done, rest, left, completion, htext, ⟨position, hrest⟩, hleft, hp, ⟨a, ha⟩, hdone,
    hcompletion⟩ := h
  have hall : tokensFrom 0 (done ++ rest) = .ok tokens := htext ▸ htokens
  obtain ⟨rfl, hparted, hblank⟩ := tokensFrom_of_suffix hall hrest hleft
  obtain ⟨symbol, later, rfl, hstart⟩ := startsAs_of_tokensFrom hrest
  have hposition : p.position = done.length := hp.trans (Nat.zero_add _)
  have hnone := not_blank_of_tokensFrom htokens
  rw [hposition]
  refine ⟨?_, ?_, fun _ ↦ ?_, fun _ ↦ ?_⟩
  · rw [htext, List.length_append]
    exact Nat.le_add_right _ _
  · rintro ⟨c, hmem, hc⟩
    simp [hnone c hmem] at hc
  · -- no number in the completed text is too long, since none is in its two parts
    have hbefore : ¬HasOverlongNumber done := by
      rw [htext, not_hasOverlongNumber_append_iff_of_parted hblank hparted] at hshort
      exact hshort.1
    have hwhole : ¬HasOverlongNumber (done ++ completion) :=
      (not_hasOverlongNumber_append_iff_of_parted hblank hdone).2 ⟨hbefore, hcompletion⟩
    refine ⟨String.ofList (done ++ completion), a, ?_, ?_⟩
    · rw [hread (by rwa [String.toList_ofList]), String.toList_ofList]
      exact ha
    · rw [htext, List.take_left, String.toList_ofList]
      exact List.prefix_append done completion
  · by_cases hfinish : symbol = .finish
    · obtain rfl : rest = [] := CutInto.eq_nil ⟨_, hrest⟩ hfinish
      exact Or.inl (by simp [htext])
    · exact Or.inr ⟨tokens, htokens, _, hleft.subset List.mem_cons_self, hfinish, Nat.zero_add _⟩

/-- **A reader points at the first problem**, if what it stops in can be completed. -/
theorem pointsAt_of_read
    (hread : ∀ {text : String}, ¬HasOverlongNumber text.toList →
      ∀ {a}, read grammar text = .ok a ↔ spelled a text.toList)
    (hstops : ∀ {cs tokens p}, CutInto cs tokens → grammar tokens = .error p →
      StopsIn (fun cs ↦ ∃ a, spelled a cs) cs tokens p)
    (h : read grammar text = .error (.problem p)) : PointsAt (read grammar) text p.position := by
  have hshort : ¬HasOverlongNumber text.toList := by
    intro hlong
    obtain ⟨n, hn⟩ : ∃ n, read grammar text = .error (.tooManyDigits n) :=
      read_eq_tooManyDigits_iff.2 hlong
    simp [hn] at h
  have hcut := h
  rw [read] at hcut
  split at hcut
  · simp at hcut
  · rcases Except.bind_eq_error_iff.1 hcut with htokens | ⟨tokens, htokens, hgrammar⟩
    · exact pointsAt_of_tokens htokens
    · rcases hfail : grammar tokens with problem | a
      · obtain rfl : problem = p := by simpa [hfail, Except.mapError] using hgrammar
        exact pointsAt_of_stopsIn hread hshort htokens (hstops ⟨0, htokens⟩ hfail)
      · simp [hfail, Except.mapError] at hgrammar

/-- The positions of problems in relative paths. -/
theorem pointsAt_of_parse (h : parse text = .error (.problem p)) :
    PointsAt parse text p.position :=
  pointsAt_of_read parse_eq_ok_iff stopsIn_of_readRelative h

/-- The positions of problems in references. -/
theorem Reference.pointsAt_of_parse (h : Reference.parse text = .error (.problem p)) :
    PointsAt Reference.parse text p.position :=
  pointsAt_of_read Reference.parse_eq_ok_iff stopsIn_of_readReference h

/-! ### What is reported -/

/-- A fault that tells a position was made of a problem, and tells where that is. -/
theorem Failure.exists_problem_of_forPath {failure : Failure} {fault : Fault} {v : Value}
    (hfault : failure.forPath (.text text) = .fault fault)
    (hv : fault.context.field? "position" = some v) :
    ∃ p, failure = .problem p ∧ v = .nat p.position := by
  cases failure with
  | empty =>
    obtain rfl := Stop.fault.inj hfault
    simp [Value.field?, Fields.lookup_cons_eq_if] at hv
  | problem p =>
    obtain rfl := Stop.fault.inj hfault
    exact ⟨p, rfl, by simpa [Value.field?, Fields.lookup_cons_eq_if, eq_comm] using hv⟩
  | tooManyDigits n => simp [Failure.forPath] at hfault

/-- A fault with a position is that of a problem with this position. -/
theorem Failure.exists_problem_of_forReference {failure : Failure} {fault : Fault} {v : Value}
    (hfault : failure.forReference (.text text) = .fault fault)
    (hv : fault.context.field? "position" = some v) :
    ∃ p, failure = .problem p ∧ v = .nat p.position := by
  cases failure with
  | empty =>
    obtain rfl := Stop.fault.inj hfault
    simp [Value.field?, Fields.lookup_cons_eq_if] at hv
  | problem p =>
    obtain rfl := Stop.fault.inj hfault
    exact ⟨p, rfl, by simpa [Value.field?, Fields.lookup_cons_eq_if, eq_comm] using hv⟩
  | tooManyDigits n => simp [Failure.forReference] at hfault

/-- **Syntax errors point at the first problem.** The position that a fault tells is in the text or
at its end. It is that of the first blank character, if there is one; otherwise that of a token or
of the end, and what stands before it is the beginning of a text that the same reader accepts. -/
theorem pointsAt (text : String) (failure : Failure) (fault : Fault) (v : Value)
    (hv : fault.context.field? "position" = some v) :
    (parse text = .error failure → failure.forPath (.text text) = .fault fault →
        ∃ n, v = .nat n ∧ PointsAt parse text n) ∧
      (Reference.parse text = .error failure →
        failure.forReference (.text text) = .fault fault →
          ∃ n, v = .nat n ∧ PointsAt Reference.parse text n) := by
  constructor
  · intro hparse hfault
    obtain ⟨p, rfl, rfl⟩ := Failure.exists_problem_of_forPath hfault hv
    exact ⟨p.position, rfl, pointsAt_of_parse hparse⟩
  · intro hparse hfault
    obtain ⟨p, rfl, rfl⟩ := Failure.exists_problem_of_forReference hfault hv
    exact ⟨p.position, rfl, Reference.pointsAt_of_parse hparse⟩

/-- An index that is no number, and a blank character after what is no name. -/
theorem pointsAt_sample :
    (Reference.parse "$steps[0].result.items[x]" =
        .error (.problem (.expected .number .word 23)) ∧
      PointsAt Reference.parse "$steps[0].result.items[x]" 23) ∧
    parse "..id x" = .error (.problem (.blank 4)) ∧ PointsAt parse "..id x" 4 := by
  have hreference : Reference.parse "$steps[0].result.items[x]" =
      .error (.problem (.expected .number .word 23)) := by decide +kernel
  have hpath : parse "..id x" = .error (.problem (.blank 4)) := by decide +kernel
  obtain ⟨n, hn, hindex⟩ := (pointsAt _ _ _ (.nat 23) rfl).2 hreference rfl
  obtain ⟨m, hm, hblank⟩ := (pointsAt _ _ _ (.nat 4) rfl).1 hpath rfl
  obtain rfl : 23 = n := by exact_mod_cast Number.int.inj (Value.number.inj hn)
  obtain rfl : 4 = m := by exact_mod_cast Number.int.inj (Value.number.inj hm)
  exact ⟨⟨hreference, hindex⟩, hpath, hblank⟩

end ToolFlow.Path

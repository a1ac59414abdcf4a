import ToolFlow.Proofs.Json.RoundTrip

/-!
# JSON on one line

A style without indentation writes data without control codes, whatever texts and names there are in
them: a control code in a text is written by its escape, and everything else that is written is a
mark, a space, a digit or a constant (`hasNoControls_write`). So there is no end of line in it.

The property is one on characters (`HasNoControls`), closed under appending and under joining with a
separator, which is all that the writer does. For texts it comes from the ways in which a character
can be spelled: each of them is made of characters from the space upwards. A character of the text
itself is written as it is only when it is none of the control codes, which is the one place where
the choice of escapes matters.

Styles with indentation do write ends of line, so the style is part of the hypotheses and not of the
property. Numbers are the brief ones, that is those whose text is known; nothing is said of how
other floating-point numbers are shown.
-/

namespace ToolFlow.Json

/-- Characters without control codes. -/
def HasNoControls (cs : List Char) : Prop :=
  ∀ c ∈ cs, 0x20 ≤ c.toNat

instance (cs : List Char) : Decidable (HasNoControls cs) :=
  decidable_of_iff (cs.all fun c ↦ decide (0x20 ≤ c.toNat)) (by simp [HasNoControls])

variable {cs ds : List Char}

/-- A text has no control codes when its first character is none and the rest has none. -/
theorem hasNoControls_cons_iff {c : Char} :
    HasNoControls (c :: cs) ↔ 0x20 ≤ c.toNat ∧ HasNoControls cs :=
  List.forall_mem_cons

/-- Nothing comes in where two texts are put together. -/
theorem HasNoControls.append (hcs : HasNoControls cs) (hds : HasNoControls ds) :
    HasNoControls (cs ++ ds) :=
  List.forall_mem_append.2 ⟨hcs, hds⟩

/-- Nothing comes in where texts are joined, either. -/
theorem HasNoControls.intercalate {separator : List Char} {texts : List (List Char)}
    (hseparator : HasNoControls separator) (h : ∀ text ∈ texts, HasNoControls text) :
    HasNoControls (List.intercalate separator texts) := by
  induction texts with
  | nil => exact List.forall_mem_nil _
  | cons text texts ih =>
    obtain ⟨htext, htexts⟩ := List.forall_mem_cons.1 h
    cases texts with
    | nil => rwa [List.intercalate_singleton]
    | cons next texts =>
      rw [List.intercalate_cons_cons]
      exact (htext.append hseparator).append (ih htexts)

/-- There is no end of line where there is no control code. -/
theorem HasNoControls.not_mem {c : Char} (h : HasNoControls cs) (hc : c.toNat < 0x20) : c ∉ cs :=
  fun hmem ↦ Nat.not_le.2 hc (h c hmem)

/-! ### Texts and numbers -/

theorem hasNoControls_hexChars (width n : ℕ) : HasNoControls (Text.hexChars width n) := by
  have hdigit {d : ℕ} (h : d < 16) : HasNoControls [Nat.digitChar d] := by
    have hall : ∀ d : Fin 16, HasNoControls [Nat.digitChar d] := by decide
    exact hall ⟨d, h⟩
  have hdigits : HasNoControls (Nat.toDigits 16 n) := by
    induction n using Nat.strongRecOn with
    | ind n ih =>
      rcases Nat.lt_or_ge n 16 with hlt | hge
      · rw [Nat.toDigits_of_lt_base hlt]
        exact hdigit hlt
      · rw [Nat.toDigits_of_base_le (by decide) hge]
        exact (ih (n / 16) (Nat.div_lt_self (by omega) (by decide))).append
          (hdigit (Nat.mod_lt n (by decide)))
  refine HasNoControls.append (fun c hc ↦ ?_) hdigits
  rw [List.eq_of_mem_replicate hc]
  decide

/-- However a character is written, no control code is. -/
theorem hasNoControls_of_spells {c : Char} (h : Spells c cs) : HasNoControls cs := by
  have hunit (u : ℕ) : HasNoControls (unitEscape u) :=
    hasNoControls_cons_iff.2 ⟨by decide,
      hasNoControls_cons_iff.2 ⟨by decide, hasNoControls_hexChars 4 u⟩⟩
  cases h with
  | plain hlarge _ _ => exact hasNoControls_cons_iff.2 ⟨hlarge, List.forall_mem_nil _⟩
  | @letter l h =>
    have hl : 0x20 ≤ l.toNat := by
      unfold escape? at h
      split at h <;> first | decide | cases h
    exact hasNoControls_cons_iff.2 ⟨by decide,
      hasNoControls_cons_iff.2 ⟨hl, List.forall_mem_nil _⟩⟩
  | unit _ => exact hunit _
  | pair _ => exact (hunit _).append (hunit _)

/-- **No text, however it is escaped, is written with a control code.** -/
theorem hasNoControls_writeText (ascii : Bool) (s : String) :
    HasNoControls (writeText ascii s).toList := by
  have hmarks : HasNoControls ['"'] := by decide
  rw [writeText, String.toList_ofList]
  refine hmarks.append (HasNoControls.append (fun c hc ↦ ?_) hmarks)
  obtain ⟨d, -, hd⟩ := List.mem_flatMap.1 hc
  exact hasNoControls_of_spells (spells_escapeChar ascii d) c hd

/-- Numbers are written by digits, a sign and a point. -/
theorem hasNoControls_writeNumber {n : Number} (hn : n.IsBrief) :
    HasNoControls (writeNumber n).toList := by
  cases n with
  | int n =>
    have hsign : HasNoControls (if n < 0 then ['-'] else []) := by split <;> decide
    rw [toList_writeNumber_int]
    refine hsign.append fun c hc ↦ ?_
    have hdigit := (Text.isDecimal_iff.1 (Text.isDecimal_toDigits n.natAbs)).2 c hc
    have := (Text.toNat_of_isDigit hdigit).2
    omega
  | float x =>
    obtain rfl : x = .zero := hn
    rw [toList_writeNumber_zero]
    decide

/-! ### Values -/

variable {style : Style} {depth : ℕ}

/-- Without indentation the parts of a collection are joined by marks and spaces. -/
theorem hasNoControls_enclose (hstyle : style.indent = none) {opening closing : String}
    {parts : List String} (hopening : HasNoControls opening.toList)
    (hclosing : HasNoControls closing.toList)
    (hparts : ∀ part ∈ parts, HasNoControls part.toList) :
    HasNoControls (style.enclose depth opening closing parts).toList := by
  have hnewline (depth : ℕ) : style.newline depth = "" := by
    rw [Style.newline, hstyle]
  have hseparator : HasNoControls ", ".toList := by decide
  rw [Style.enclose]
  split
  · rw [String.toList_append]
    exact hopening.append hclosing
  · simp only [hstyle, hnewline, Option.isNone_none, if_true, String.append_empty,
      String.toList_append, String.toList_intercalate]
    refine (hopening.append (hseparator.intercalate fun text htext ↦ ?_)).append hclosing
    obtain ⟨part, hpart, rfl⟩ := List.mem_map.1 htext
    exact hparts part hpart

theorem writeItems_eq_map (items : List Value) :
    writeItems style depth items = items.map (write style depth) := by
  induction items with
  | nil => rfl
  | cons v items ih => rw [writeItems, ih, List.map_cons]

theorem writeFields_eq_map (fields : Fields) :
    writeFields style depth fields = fields.map fun field ↦
      writeText style.ascii field.1 ++ ": " ++ write style depth field.2 := by
  induction fields with
  | nil => rfl
  | cons field fields ih => rw [writeFields, ih, List.map_cons]

/-- **Data are written without control codes** when each value stands on one line. -/
theorem hasNoControls_write (hstyle : style.indent = none) {v : Value}
    (h : v.IsData Number.IsBrief) : HasNoControls (write style depth v).toList := by
  induction h generalizing depth with
  | @leaf v h =>
    cases v with
    | missing => exact h.elim
    | entity => exact h.elim
    | list => exact h.elim
    | object => exact h.elim
    | null => rw [write]; decide
    | bool b => cases b <;> rw [write] <;> decide
    | number n => exact hasNoControls_writeNumber h
    | text s => exact hasNoControls_writeText style.ascii s
  | @list items h ih =>
    refine hasNoControls_enclose hstyle (by decide) (by decide) ?_
    rw [writeItems_eq_map, List.forall_mem_map]
    exact fun v hv ↦ ih v hv
  | @object fields hnames h ih =>
    refine hasNoControls_enclose hstyle (by decide) (by decide) ?_
    rw [writeFields_eq_map, List.forall_mem_map]
    intro field hfield
    rw [String.toList_append, String.toList_append]
    exact ((hasNoControls_writeText style.ascii field.1).append (by decide)).append
      (ih field hfield)

end ToolFlow.Json

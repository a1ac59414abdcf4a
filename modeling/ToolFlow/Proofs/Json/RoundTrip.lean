import ToolFlow.Proofs.Json.Escape
import ToolFlow.Proofs.Value.Data

/-!
# JSON reads as it was written

Characters read as a value when the reader makes this value of them, whatever follows, and goes on
with what follows (`Reads`). Texts, numbers, lists and objects read as they are written with any
spaces between their parts, and so every style of writing is read back (`reads_write`). The reader
needs no more fuel than there are characters: each call of it uses up one at least.

## Reading in context

That a value reads back when nothing follows is too weak for an induction over nested values, where
a comma or a bracket follows. So `Reads` is stated for any rest that can follow a value (`Ends`),
and it says where the reader stops. This matters for numbers alone: digits that are followed by
digits, a point or an exponent would be another number. A list or an object is read part by part,
each part with the rest of the whole as its own rest.

Spaces are read over by the reader wherever they stand, and different styles put them in different
places. `IsGap` is any run of them, and the lemmas on collections are stated for texts that are
joined with a comma and a gap, within gaps. That a given style writes this is one lemma
(`exists_toList_enclose_eq`).

## What comes back

Names have to be different from each other, since of two fields with the same name one would be
left, and numbers have to be brief (`Number.IsBrief`): an integer with more digits than can be read,
or a floating-point number, is not covered. The one exception is the zero of a duration that was not
taken, which every report contains. All this is in `Value.IsData`.
-/

namespace ToolFlow

/-- A number that JSON gives back: an integer that is not too long, or the zero of a duration. -/
def Number.IsBrief : Number → Prop
  | .int n => n.natAbs < 10 ^ Text.digitLimit
  | .float x => x = .zero

/-- A brief number can be written. -/
theorem Number.IsBrief.isOverlong_eq_false {n : Number} (h : n.IsBrief) :
    n.isOverlong = false := by
  cases n with
  | int n =>
    rw [isOverlong, decide_eq_false_iff_not, Nat.not_le]
    exact h
  | float x => rfl

namespace Json

/-! ### Spaces and ends -/

/-- Spaces between tokens. -/
def IsGap (cs : List Char) : Prop :=
  ∀ c ∈ cs, isSpace c = true

/-- What can follow a value: nothing, a space, or a mark of a collection. -/
def Ends (cs : List Char) : Prop :=
  ∀ c ∈ cs.head?, isSpace c = true ∨ c ∈ [',', ']', '\x7d']

/-- Reading goes over spaces up to what is none. -/
theorem skipSpace_append {gap cs : List Char} (hgap : IsGap gap)
    (hcs : ∀ c ∈ cs.head?, isSpace c = false) : skipSpace (gap ++ cs) = cs := by
  rw [skipSpace, List.dropWhile_append_of_pos hgap]
  cases cs with
  | nil => rfl
  | cons c cs => rw [List.dropWhile_cons_of_neg (by simp [hcs c rfl])]

/-- Spaces may come before what can follow a value. -/
theorem ends_gap_append {gap cs : List Char} (hgap : IsGap gap) (hcs : Ends cs) :
    Ends (gap ++ cs) := by
  cases gap with
  | nil => exact hcs
  | cons c gap =>
    intro d hd
    obtain rfl : c = d := by simpa using hd
    exact .inl (hgap c List.mem_cons_self)

/-! ### Numbers -/

/-- What can follow a value does not continue a number. -/
theorem isDigit_of_ends {rest : List Char} (h : Ends rest) :
    ∀ c ∈ rest.head?, c.isDigit = false ∧ c ≠ '.' ∧ c ≠ 'e' ∧ c ≠ 'E' := by
  intro c hc
  rcases h c hc with hspace | hmark
  · simp only [isSpace, Bool.or_eq_true, beq_iff_eq] at hspace
    rcases hspace with ((rfl | rfl) | rfl) | rfl <;> decide
  · simp only [List.mem_cons, List.not_mem_nil, or_false] at hmark
    rcases hmark with rfl | rfl | rfl <;> decide

/-- Digits are read as far as they go. -/
theorem digitRun_append {digits rest : List Char} (hdigits : ∀ c ∈ digits, c.isDigit = true)
    (hrest : ∀ c ∈ rest.head?, c.isDigit = false) : digitRun (digits ++ rest) = (digits, rest) := by
  rw [digitRun, List.takeWhile_append_of_pos hdigits, List.dropWhile_append_of_pos hdigits]
  cases rest with
  | nil => simp
  | cons c rest => simp [hrest c rfl]

/-- The digits of a number are the whole part of a text that goes on with no digit. -/
theorem wholePart?_toDigits {n : ℕ} {rest : List Char}
    (hrest : ∀ c ∈ rest.head?, c.isDigit = false) :
    wholePart? (Nat.toDigits 10 n ++ rest) = some (Nat.toDigits 10 n, rest) := by
  have hdecimal := Text.isDecimal_toDigits n
  have hspare : ¬Text.HasSpareZero (Nat.toDigits 10 n) :=
    (Text.toDigits_decimalValue_eq_iff hdecimal).1 (by rw [Text.decimalValue_toDigits])
  obtain ⟨hne, hdigits⟩ := Text.isDecimal_iff.1 hdecimal
  generalize Nat.toDigits 10 n = digits at *
  cases digits with
  | nil => exact absurd rfl hne
  | cons c digits =>
    rcases eq_or_ne c '0' with rfl | hc
    · have hnil : digits = [] := by
        by_contra hsome
        exact hspare ⟨hdecimal, rfl, by simpa using List.length_pos_iff.2 hsome⟩
      rw [hnil]
      rfl
    · have hrun := digitRun_append hdigits hrest
      rw [List.cons_append] at hrun ⊢
      unfold wholePart?
      split
      · next h => exact absurd (List.cons.inj h).1 hc
      · rw [hrun]
        rfl

/-- An integer has no fraction, whatever follows it. -/
theorem fractionPart_of_ends {rest : List Char} (h : Ends rest) :
    fractionPart rest = ([], rest) := by
  cases rest with
  | nil => rfl
  | cons c rest =>
    have hc := (isDigit_of_ends h c rfl).2.1
    unfold fractionPart
    split
    · next heq => exact absurd (List.cons.inj heq).1 hc
    · rfl

/-- Nor has it an exponent. -/
theorem exponentPart?_of_ends {rest : List Char} (h : Ends rest) : exponentPart? rest = none := by
  cases rest with
  | nil => rfl
  | cons c rest =>
    obtain ⟨-, -, he, hE⟩ := isDigit_of_ends h c rfl
    simp [exponentPart?, he, hE]

/-- **An integer that is not too long is read from its digits**, with the sign that came before
them. -/
theorem readNumber_toDigits {n : ℕ} (hn : n < 10 ^ Text.digitLimit) {negative : Bool}
    {rest : List Char} (hrest : Ends rest) :
    readNumber (some Text.digitLimit) negative (Nat.toDigits 10 n ++ rest) =
      some (.int (if negative then -n else n), rest) := by
  have hlength : ¬Text.digitLimit < (Nat.toDigits 10 n).length :=
    Nat.not_lt.2 ((Nat.length_toDigits_le_iff (by decide) (by decide)).2 hn)
  rw [readNumber, wholePart?_toDigits fun c hc ↦ (isDigit_of_ends hrest c hc).1]
  simp [fractionPart_of_ends hrest, exponentPart?_of_ends hrest, hlength,
    Text.decimalValue_toDigits]

/-- What starts with a digit, or with a minus sign and a digit, is read as a number. -/
theorem readScalar_of_isDigit {limit : Option ℕ} {c : Char} {cs : List Char}
    (hc : c.isDigit = true) :
    readScalar limit (c :: cs) = readNumber limit false (c :: cs) ∧
      readScalar limit ('-' :: c :: cs) = readNumber limit true (c :: cs) := by
  have hother {d : Char} (hd : d.isDigit = false) : d ≠ c := by
    rintro rfl
    rw [hc] at hd
    cases hd
  have hn : 'n' ≠ c := hother rfl
  have ht : 't' ≠ c := hother rfl
  have hf : 'f' ≠ c := hother rfl
  have hN : 'N' ≠ c := hother rfl
  have hI : 'I' ≠ c := hother rfl
  have hminus : '-' ≠ c := hother rfl
  have hnone : (constants.findSome? fun constant ↦
      (after? constant.1.toList (c :: cs)).map fun rest ↦ (constant.2, rest)) = none := by
    simp [constants, after?, hn, ht, hf, hN, hI, hminus]
  have hnone' : (constants.findSome? fun constant ↦
      (after? constant.1.toList ('-' :: c :: cs)).map fun rest ↦ (constant.2, rest)) = none := by
    simp [constants, after?, hI]
  constructor
  · rw [readScalar, hnone]
    exact fun rest h ↦ absurd (List.cons.inj h).1.symm hminus
  · rw [readScalar, hnone']

/-- Decimal digits start with one. -/
theorem exists_toDigits_eq_cons (n : ℕ) :
    ∃ c cs, Nat.toDigits 10 n = c :: cs ∧ c.isDigit = true := by
  obtain ⟨hne, hdigits⟩ := Text.isDecimal_iff.1 (Text.isDecimal_toDigits n)
  obtain ⟨c, cs, hcs⟩ := List.exists_cons_of_ne_nil hne
  exact ⟨c, cs, hcs, hdigits c (hcs ▸ List.mem_cons_self)⟩

/-- An integer is written with its digits, a minus sign before them when it is negative. -/
theorem toList_writeNumber_int (n : Int) : (writeNumber (.int n)).toList =
    (if n < 0 then ['-'] else []) ++ Nat.toDigits 10 n.natAbs := by
  cases n with
  | ofNat k => exact Text.toList_toString k
  | negSucc k =>
    have hwritten : (writeNumber (.int (Int.negSucc k))).toList =
        '-' :: (toString (k + 1)).toList :=
      String.toList_append
    rw [hwritten, Text.toList_toString, if_pos (Int.negSucc_lt_zero k)]
    rfl

/-- The one floating-point number that is written by all styles alike. -/
theorem toList_writeNumber_zero : (writeNumber (.float .zero)).toList = ['0', '.', '0'] := by
  decide +kernel

/-- **A brief number reads as it is written.** -/
theorem readScalar_writeNumber {n : Number} (hn : n.IsBrief) {rest : List Char}
    (hrest : Ends rest) :
    readScalar (some Text.digitLimit) ((writeNumber n).toList ++ rest) =
      some (.number n, rest) := by
  cases n with
  | int n =>
    obtain ⟨c, cs, hcs, hc⟩ := exists_toDigits_eq_cons n.natAbs
    have hread (negative : Bool) := @readNumber_toDigits n.natAbs hn negative rest hrest
    rw [toList_writeNumber_int]
    rw [hcs] at hread ⊢
    split
    · next hneg =>
      have hvalue : -(n.natAbs : Int) = n := by omega
      simp only [List.cons_append, List.nil_append] at hread ⊢
      rw [(readScalar_of_isDigit hc).2, hread, if_pos rfl, hvalue]
      rfl
    · next hpos =>
      have hvalue : (n.natAbs : Int) = n := by omega
      simp only [List.cons_append, List.nil_append] at hread ⊢
      rw [(readScalar_of_isDigit hc).1, hread, if_neg Bool.false_ne_true, hvalue]
      rfl
  | float x =>
    obtain rfl : x = .zero := hn
    have hrun : digitRun ('0' :: rest) = (['0'], rest) :=
      @digitRun_append ['0'] rest (by simp) fun c hc ↦ (isDigit_of_ends hrest c hc).1
    have hzero : Binary64.ofDecimal false ['0', '0'] (-1) = .zero := rfl
    rw [toList_writeNumber_zero]
    simp only [List.cons_append, List.nil_append]
    rw [(readScalar_of_isDigit (by decide)).1, readNumber]
    simp [wholePart?, fractionPart, hrun, exponentPart?_of_ends hrest, hzero]
    rfl

/-- A number starts with a digit or a minus sign. -/
theorem exists_writeNumber_eq_cons {n : Number} (hn : n.IsBrief) :
    ∃ c cs, (writeNumber n).toList = c :: cs ∧ (c = '-' ∨ c.isDigit = true) := by
  cases n with
  | int n =>
    obtain ⟨c, cs, hcs, hc⟩ := exists_toDigits_eq_cons n.natAbs
    rw [toList_writeNumber_int, hcs]
    split
    · exact ⟨_, _, rfl, .inl rfl⟩
    · exact ⟨_, _, rfl, .inr hc⟩
  | float x =>
    obtain rfl : x = .zero := hn
    exact ⟨_, _, toList_writeNumber_zero, .inr (by decide)⟩

/-! ### Values -/

/-- Characters that read as a value, whatever follows that can follow a value. They start with no
space and with no closing mark. -/
structure Reads (v : Value) (cs : List Char) : Prop where
  starts : ∃ c rest, cs = c :: rest ∧ isSpace c = false ∧ c ≠ ']' ∧ c ≠ '\x7d'
  reads : ∀ fuel rest, cs.length ≤ fuel → Ends rest →
    readValue (some Text.digitLimit) fuel (cs ++ rest) = some (v, rest)

/-- Characters that read as a text after its opening mark. -/
def ReadsText (s : String) (cs : List Char) : Prop :=
  ∀ rest, readChars [] (cs ++ rest) = some (s.toList, rest)

variable {v : Value} {cs : List Char}

/-- A value starts with what is no space, so that spaces before it are read over. -/
theorem Reads.solid (h : Reads v cs) (rest : List Char) :
    ∀ c ∈ (cs ++ rest).head?, isSpace c = false := by
  obtain ⟨c, cs, rfl, hc, -⟩ := h.starts
  simpa using hc

/-- A value has characters, so that reading it uses up fuel that is there. -/
theorem Reads.length_pos (h : Reads v cs) : 0 < cs.length := by
  obtain ⟨c, cs, rfl, -⟩ := h.starts
  simp

/-- **A text reads as it is written**, up to the mark that closes it. -/
theorem readsText (ascii : Bool) (s : String) :
    ∃ cs, (writeText ascii s).toList = '"' :: cs ∧ ReadsText s cs := by
  refine ⟨s.toList.flatMap (escapeChar ascii) ++ ['"'], by simp [writeText], fun rest ↦ ?_⟩
  rw [List.append_assoc, List.singleton_append, readChars_flatMap_escapeChar]
  rfl

/-- A text is a value like others. -/
theorem reads_text (ascii : Bool) (s : String) : Reads (.text s) (writeText ascii s).toList := by
  obtain ⟨cs, hcs, hread⟩ := readsText ascii s
  rw [hcs]
  refine ⟨⟨_, _, rfl, by decide, by decide, by decide⟩, fun fuel rest hfuel hrest ↦ ?_⟩
  obtain ⟨fuel, rfl⟩ : ∃ n, fuel = n + 1 := ⟨fuel - 1, by simp at hfuel; omega⟩
  rw [List.cons_append, readValue]
  simp [hread rest]

/-- What is neither text nor collection is read as a scalar. -/
theorem reads_scalar (hstarts : ∃ c rest, cs = c :: rest ∧ isSpace c = false ∧ c ≠ ']' ∧
      c ≠ '\x7d' ∧ c ≠ '"' ∧ c ≠ '[' ∧ c ≠ '\x7b')
    (hreads : ∀ rest, Ends rest → readScalar (some Text.digitLimit) (cs ++ rest) = some (v, rest)) :
    Reads v cs := by
  obtain ⟨c, cs, rfl, hspace, hlist, hobject, hquote, hopen, hopen'⟩ := hstarts
  refine ⟨⟨c, cs, rfl, hspace, hlist, hobject⟩, fun fuel rest hfuel hrest ↦ ?_⟩
  obtain ⟨fuel, rfl⟩ : ∃ n, fuel = n + 1 := ⟨fuel - 1, by simp at hfuel; omega⟩
  rw [List.cons_append, readValue]
  · exact hreads rest hrest
  all_goals simp_all

/-! ### Collections -/

variable {gap before after : List Char}

/-- The marks of collections can follow a value. -/
theorem ends_mark {c : Char} (hc : c ∈ [',', ']', '\x7d']) (cs : List Char) : Ends (c :: cs) := by
  intro d hd
  obtain rfl : c = d := by simpa using hd
  exact .inr hc

/-- Spaces before a mark are read over. -/
theorem skipSpace_mark {c : Char} (hc : c ∈ [',', ']', '\x7d']) (hgap : IsGap gap)
    (cs : List Char) : skipSpace (gap ++ c :: cs) = c :: cs := by
  refine skipSpace_append hgap fun d hd ↦ ?_
  obtain rfl : c = d := by simpa using hd
  simp only [List.mem_cons, List.not_mem_nil, or_false] at hc
  rcases hc with rfl | rfl | rfl <;> decide

/-- The spaces before the next of several parts are skipped. -/
theorem skipSpace_intercalate {separator text : List Char} {texts : List (List Char)}
    (hgap : IsGap gap) (htext : ∀ rest, ∀ c ∈ (text ++ rest).head?, isSpace c = false)
    (rest : List Char) :
    skipSpace (gap ++ (List.intercalate separator (text :: texts) ++ rest)) =
      List.intercalate separator (text :: texts) ++ rest := by
  refine skipSpace_append hgap ?_
  cases texts with
  | nil => simpa using htext rest
  | cons next texts =>
    rw [List.intercalate_cons_cons, List.append_assoc, List.append_assoc]
    exact htext _

/-- There are none before a comma. -/
theorem skipSpace_comma (cs : List Char) : skipSpace (',' :: cs) = ',' :: cs :=
  rfl

/-- One item is read, and what follows it decides how the list goes on. -/
theorem Reads.readItems_append (h : Reads v cs) {sofar : List Value} {fuel : ℕ}
    (hfuel : cs.length ≤ fuel) {rest : List Char} (hrest : Ends rest) :
    readItems (some Text.digitLimit) (fuel + 1) sofar (cs ++ rest) =
      match skipSpace rest with
      | ',' :: rest => readItems (some Text.digitLimit) fuel (v :: sofar) (skipSpace rest)
      | ']' :: rest => some (.list (v :: sofar).reverse, rest)
      | _ => none := by
  rw [readItems, h.reads fuel rest hfuel hrest]
  rfl

/-- Items are read one after the other, up to the end of the list. -/
theorem readItems_intercalate {items : List Value} {texts : List (List Char)}
    (h : List.Forall₂ Reads items texts) (hsome : texts ≠ []) (hgap : IsGap gap)
    (hafter : IsGap after) (rest : List Char) {sofar : List Value} {fuel : ℕ}
    (hfuel : (List.intercalate (',' :: gap) texts).length < fuel) :
    readItems (some Text.digitLimit) fuel sofar
      (List.intercalate (',' :: gap) texts ++ (after ++ ']' :: rest)) =
        some (.list (sofar.reverse ++ items), rest) := by
  have hend : skipSpace (after ++ ']' :: rest) = ']' :: rest := skipSpace_mark (by simp) hafter rest
  induction h generalizing sofar fuel with
  | nil => exact absurd rfl hsome
  | @cons item text items texts hitem hitems ih =>
    obtain ⟨fuel, rfl⟩ : ∃ n, fuel = n + 1 := ⟨fuel - 1, by omega⟩
    cases hitems with
    | nil =>
      rw [List.intercalate_singleton] at hfuel ⊢
      rw [hitem.readItems_append (Nat.le_of_lt_succ hfuel)
        (ends_gap_append hafter (ends_mark (by simp) _))]
      simp [hend]
    | cons hnext hitems =>
      have hpos := hitem.length_pos
      rw [List.intercalate_cons_cons] at hfuel ⊢
      simp only [List.length_append, List.length_cons, List.append_assoc, List.cons_append]
        at hfuel ⊢
      rw [hitem.readItems_append (by omega) (ends_mark (by simp) _)]
      simp only [skipSpace_comma, skipSpace_intercalate hgap hnext.solid]
      rw [ih (by simp) (by omega), List.reverse_cons, List.append_assoc, List.singleton_append]

/-- Characters that read as a field: its name, a colon and a space, and its value. -/
def ReadsField (field : String × Value) (cs : List Char) : Prop :=
  ∃ name value, cs = '"' :: name ++ ':' :: ' ' :: value ∧ ReadsText field.1 name ∧
    Reads field.2 value

/-- A field starts with the mark of its name. -/
theorem ReadsField.solid {field : String × Value} (h : ReadsField field cs) (rest : List Char) :
    ∀ c ∈ (cs ++ rest).head?, isSpace c = false := by
  obtain ⟨name, value, rfl, -, -⟩ := h
  intro c hc
  obtain rfl : '"' = c := by simpa using hc
  decide

/-- A field has characters, like a value. -/
theorem ReadsField.length_pos {field : String × Value} (h : ReadsField field cs) :
    0 < cs.length := by
  obtain ⟨name, value, rfl, -, -⟩ := h
  simp

/-- One field is read, and what follows it decides how the object goes on. -/
theorem ReadsField.readFields_append {field : String × Value} (h : ReadsField field cs)
    {sofar : Fields} {fuel : ℕ} (hfuel : cs.length ≤ fuel) {rest : List Char} (hrest : Ends rest) :
    readFields (some Text.digitLimit) (fuel + 1) sofar (cs ++ rest) =
      match skipSpace rest with
      | ',' :: rest =>
        readFields (some Text.digitLimit) fuel (field :: sofar) (skipSpace rest)
      | '\x7d' :: rest => some (.object (Fields.ofPairs (field :: sofar).reverse), rest)
      | _ => none := by
  obtain ⟨key, v⟩ := field
  obtain ⟨name, value, rfl, hname, hvalue⟩ := h
  simp only [List.length_append, List.length_cons] at hfuel
  have hread : readChars [] (name ++ ':' :: ' ' :: (value ++ rest)) =
      some (key.toList, ':' :: ' ' :: (value ++ rest)) := hname _
  have hcolon : after? [':'] (skipSpace (':' :: ' ' :: (value ++ rest))) =
      some (' ' :: (value ++ rest)) := rfl
  have hspace : skipSpace (' ' :: (value ++ rest)) = value ++ rest :=
    @skipSpace_append [' '] (value ++ rest) (by simp [IsGap, isSpace]) (hvalue.solid rest)
  rw [List.append_assoc, List.cons_append, List.cons_append, List.cons_append, readFields]
  simp only [hread, hcolon, hspace, Option.bind_eq_bind, Option.bind_some, String.ofList_toList]
  rw [hvalue.reads fuel rest (by omega) hrest]
  rfl

/-- Fields are read one after the other, up to the end of the object. -/
theorem readFields_intercalate {fields : Fields} {texts : List (List Char)}
    (h : List.Forall₂ ReadsField fields texts) (hsome : texts ≠ []) (hgap : IsGap gap)
    (hafter : IsGap after) (rest : List Char) {sofar : Fields} {fuel : ℕ}
    (hfuel : (List.intercalate (',' :: gap) texts).length < fuel) :
    readFields (some Text.digitLimit) fuel sofar
      (List.intercalate (',' :: gap) texts ++ (after ++ '\x7d' :: rest)) =
        some (.object (Fields.ofPairs (sofar.reverse ++ fields)), rest) := by
  have hend : skipSpace (after ++ '\x7d' :: rest) = '\x7d' :: rest :=
    skipSpace_mark (by simp) hafter rest
  induction h generalizing sofar fuel with
  | nil => exact absurd rfl hsome
  | @cons field text fields texts hfield hfields ih =>
    obtain ⟨fuel, rfl⟩ : ∃ n, fuel = n + 1 := ⟨fuel - 1, by omega⟩
    cases hfields with
    | nil =>
      rw [List.intercalate_singleton] at hfuel ⊢
      rw [hfield.readFields_append (Nat.le_of_lt_succ hfuel)
        (ends_gap_append hafter (ends_mark (by simp) _))]
      simp [hend]
    | cons hnext hfields =>
      have hpos := hfield.length_pos
      rw [List.intercalate_cons_cons] at hfuel ⊢
      simp only [List.length_append, List.length_cons, List.append_assoc, List.cons_append]
        at hfuel ⊢
      rw [hfield.readFields_append (by omega) (ends_mark (by simp) _)]
      simp only [skipSpace_comma, skipSpace_intercalate hgap hnext.solid]
      rw [ih (by simp) (by omega), List.reverse_cons, List.append_assoc, List.singleton_append]

/-- Joined texts start like the first of them. -/
theorem exists_intercalate_eq_cons {separator text : List Char} {texts : List (List Char)}
    {c : Char} {tail : List Char} (htext : text = c :: tail) (rest : List Char) :
    ∃ more, List.intercalate separator (text :: texts) ++ rest = c :: more := by
  cases texts with
  | nil => exact ⟨tail ++ rest, by simp [htext]⟩
  | cons next texts => exact ⟨_, by rw [List.intercalate_cons_cons, htext]; rfl⟩

/-- A list reads as it is spelled, with any spaces between its parts. -/
theorem reads_list {items : List Value} {texts : List (List Char)}
    (h : List.Forall₂ Reads items texts) (hsome : texts ≠ []) (hbefore : IsGap before)
    (hgap : IsGap gap) (hafter : IsGap after) :
    Reads (.list items)
      ('[' :: (before ++ (List.intercalate (',' :: gap) texts ++ (after ++ [']'])))) := by
  refine ⟨⟨_, _, rfl, by decide, by decide, by decide⟩, fun fuel rest hfuel hrest ↦ ?_⟩
  obtain ⟨fuel, rfl⟩ : ∃ n, fuel = n + 1 := ⟨fuel - 1, by simp at hfuel; omega⟩
  simp only [List.length_cons, List.length_append] at hfuel
  have hread := @readItems_intercalate gap after items texts h hsome hgap hafter rest [] fuel
    (by omega)
  cases h with
  | nil => exact absurd rfl hsome
  | @cons item text items texts hitem hitems =>
    obtain ⟨c, tail, htext, -, hc, -⟩ := hitem.starts
    have hskip : skipSpace (before ++ (List.intercalate (',' :: gap) (text :: texts) ++
        (after ++ ']' :: rest))) = List.intercalate (',' :: gap) (text :: texts) ++
          (after ++ ']' :: rest) :=
      skipSpace_intercalate hbefore hitem.solid _
    obtain ⟨more, hmore⟩ := @exists_intercalate_eq_cons (',' :: gap) text texts c tail htext
      (after ++ ']' :: rest)
    simp only [List.cons_append, List.append_assoc, List.nil_append]
    rw [readValue, hskip]
    rw [hmore] at hread ⊢
    split
    · next heq => exact absurd (List.cons.inj heq).1 hc
    · exact hread

/-- An object reads as it is spelled, with any spaces between its parts. -/
theorem reads_object {fields : Fields} {texts : List (List Char)}
    (h : List.Forall₂ ReadsField fields texts) (hsome : texts ≠ [])
    (hnames : (fields.map Prod.fst).Nodup) (hbefore : IsGap before) (hgap : IsGap gap)
    (hafter : IsGap after) :
    Reads (.object fields)
      ('\x7b' :: (before ++ (List.intercalate (',' :: gap) texts ++ (after ++ ['\x7d'])))) := by
  refine ⟨⟨_, _, rfl, by decide, by decide, by decide⟩, fun fuel rest hfuel hrest ↦ ?_⟩
  obtain ⟨fuel, rfl⟩ : ∃ n, fuel = n + 1 := ⟨fuel - 1, by simp at hfuel; omega⟩
  simp only [List.length_cons, List.length_append] at hfuel
  have hread := @readFields_intercalate gap after fields texts h hsome hgap hafter rest [] fuel
    (by omega)
  rw [List.reverse_nil, List.nil_append, Fields.ofPairs_of_nodup hnames] at hread
  cases h with
  | nil => exact absurd rfl hsome
  | @cons field text fields texts hfield hfields =>
    have hskip : skipSpace (before ++ (List.intercalate (',' :: gap) (text :: texts) ++
        (after ++ '\x7d' :: rest))) = List.intercalate (',' :: gap) (text :: texts) ++
          (after ++ '\x7d' :: rest) :=
      skipSpace_intercalate hbefore hfield.solid _
    obtain ⟨name, value, htext, -⟩ := hfield
    obtain ⟨more, hmore⟩ := @exists_intercalate_eq_cons (',' :: gap) text texts '"' _ htext
      (after ++ '\x7d' :: rest)
    simp only [List.cons_append, List.append_assoc, List.nil_append]
    rw [readValue, hskip]
    rw [hmore] at hread ⊢
    exact hread

/-- A list without items has nothing between its brackets. -/
theorem reads_empty_list : Reads (.list []) ['[', ']'] := by
  refine ⟨⟨_, _, rfl, by decide, by decide, by decide⟩, fun fuel rest hfuel hrest ↦ ?_⟩
  obtain ⟨fuel, rfl⟩ : ∃ n, fuel = n + 1 := ⟨fuel - 1, by simp at hfuel; omega⟩
  rfl

/-- So has an object without fields. -/
theorem reads_empty_object : Reads (.object []) ['\x7b', '\x7d'] := by
  refine ⟨⟨_, _, rfl, by decide, by decide, by decide⟩, fun fuel rest hfuel hrest ↦ ?_⟩
  obtain ⟨fuel, rfl⟩ : ∃ n, fuel = n + 1 := ⟨fuel - 1, by simp at hfuel; omega⟩
  rfl

/-! ### What is written -/

variable {style : Style} {depth : ℕ}

/-- Where a style begins a new line it writes spaces only. -/
theorem isGap_newline : IsGap (style.newline depth).toList := by
  unfold Style.newline
  split
  · simp [IsGap]
  · rw [String.toList_ofList]
    refine List.forall_mem_cons.2 ⟨rfl, fun c hc ↦ ?_⟩
    rw [List.eq_of_mem_replicate hc]
    rfl

/-- The parts of a collection stand between its brackets with spaces around them. -/
theorem exists_toList_enclose_eq {opening closing : String} {parts : List String}
    (hsome : parts ≠ []) : ∃ before gap after, IsGap before ∧ IsGap gap ∧ IsGap after ∧
      (style.enclose depth opening closing parts).toList =
        opening.toList ++ (before ++ (List.intercalate (',' :: gap) (parts.map String.toList) ++
          (after ++ closing.toList))) := by
  have hparts : parts.isEmpty = false := by simpa using hsome
  obtain ⟨gap, hgap, hseparator⟩ : ∃ gap, IsGap gap ∧
      (if style.indent.isNone then ", " else "," ++ style.newline (depth + 1)).toList =
        ',' :: gap := by
    split
    · exact ⟨[' '], by simp [IsGap, isSpace], rfl⟩
    · exact ⟨_, isGap_newline, String.toList_append⟩
  refine ⟨(style.newline (depth + 1)).toList, gap, (style.newline depth).toList, isGap_newline,
    hgap, isGap_newline, ?_⟩
  rw [Style.enclose, hparts]
  simp only [Bool.false_eq_true, if_false, String.toList_append, String.toList_intercalate,
    hseparator, List.append_assoc]

/-- **A list reads as any style writes it**, once its items do. -/
theorem reads_enclose_items {items : List Value} {parts : List String}
    (h : List.Forall₂ Reads items (parts.map String.toList)) :
    Reads (.list items) (style.enclose depth "[" "]" parts).toList := by
  rcases eq_or_ne parts [] with rfl | hsome
  · obtain rfl : items = [] := List.forall₂_nil_right_iff.1 h
    have htext : (style.enclose depth "[" "]" []).toList = ['[', ']'] := by simp [Style.enclose]
    rw [htext]
    exact reads_empty_list
  · obtain ⟨before, gap, after, hbefore, hgap, hafter, htext⟩ :=
      @exists_toList_enclose_eq style depth "[" "]" parts hsome
    rw [htext]
    exact reads_list h (by simpa using hsome) hbefore hgap hafter

/-- **An object reads as any style writes it**, once its fields do and no name stands twice. -/
theorem reads_enclose_fields {fields : Fields} {parts : List String}
    (h : List.Forall₂ ReadsField fields (parts.map String.toList))
    (hnames : (fields.map Prod.fst).Nodup) :
    Reads (.object fields) (style.enclose depth "\x7b" "\x7d" parts).toList := by
  rcases eq_or_ne parts [] with rfl | hsome
  · obtain rfl : fields = [] := List.forall₂_nil_right_iff.1 h
    have htext : (style.enclose depth "\x7b" "\x7d" []).toList = ['\x7b', '\x7d'] := by
      simp [Style.enclose]
    rw [htext]
    exact reads_empty_object
  · obtain ⟨before, gap, after, hbefore, hgap, hafter, htext⟩ :=
      @exists_toList_enclose_eq style depth "\x7b" "\x7d" parts hsome
    rw [htext]
    exact reads_object h (by simpa using hsome) hnames hbefore hgap hafter

/-- Items are written one by one, each as a value. -/
theorem forall₂_reads_writeItems {items : List Value}
    (h : ∀ v ∈ items, Reads v (write style depth v).toList) :
    List.Forall₂ Reads items ((writeItems style depth items).map String.toList) := by
  induction items with
  | nil => exact .nil
  | cons v items ih =>
    obtain ⟨hv, hitems⟩ := List.forall_mem_cons.1 h
    exact .cons hv (ih hitems)

/-- Fields are written one by one, each as its name and its value. -/
theorem forall₂_readsField_writeFields {fields : Fields}
    (h : ∀ field ∈ fields, Reads field.2 (write style depth field.2).toList) :
    List.Forall₂ ReadsField fields ((writeFields style depth fields).map String.toList) := by
  induction fields with
  | nil => exact .nil
  | cons field fields ih =>
    obtain ⟨hfield, hfields⟩ := List.forall_mem_cons.1 h
    refine .cons ?_ (ih hfields)
    obtain ⟨name, hname, hread⟩ := readsText style.ascii field.1
    exact ⟨name, _, by simp [String.toList_append, hname], hread, hfield⟩

theorem reads_null : Reads .null "null".toList :=
  reads_scalar ⟨'n', _, rfl, by decide⟩ fun _ _ ↦ rfl

/-- Truth values are constants, like null. -/
theorem reads_bool (b : Bool) : Reads (.bool b) (write style depth (.bool b)).toList := by
  cases b with
  | false =>
    rw [write]
    exact reads_scalar ⟨'f', _, rfl, by decide⟩ fun _ _ ↦ rfl
  | true =>
    rw [write]
    exact reads_scalar ⟨'t', _, rfl, by decide⟩ fun _ _ ↦ rfl

/-- Numbers are scalars that are read by their digits. -/
theorem reads_writeNumber {n : Number} (hn : n.IsBrief) :
    Reads (.number n) (writeNumber n).toList := by
  refine reads_scalar ?_ fun rest hrest ↦ readScalar_writeNumber hn hrest
  obtain ⟨c, cs, hcs, hc⟩ := exists_writeNumber_eq_cons hn
  have hdigit (d : Char) (hd : d ≠ '-' ∧ d.isDigit = false) : c ≠ d := by
    rintro rfl
    exact hc.elim hd.1 fun h ↦ by simp [hd.2] at h
  refine ⟨c, cs, hcs, ?_, hdigit _ (by decide), hdigit _ (by decide), hdigit _ (by decide),
    hdigit _ (by decide), hdigit _ (by decide)⟩
  simp [isSpace, hdigit ' ' (by decide), hdigit '\t' (by decide), hdigit '\n' (by decide),
    hdigit '\r' (by decide)]

/-- **What is written reads as the value**, in every style. -/
theorem reads_write {v : Value} (h : v.IsData Number.IsBrief) :
    Reads v (write style depth v).toList := by
  induction h generalizing depth with
  | @leaf v h =>
    cases v with
    | missing => exact h.elim
    | entity => exact h.elim
    | list => exact h.elim
    | object => exact h.elim
    | null => rw [write]; exact reads_null
    | bool b => exact reads_bool b
    | number n => exact reads_writeNumber h
    | text s => exact reads_text style.ascii s
  | list h ih => exact reads_enclose_items (forall₂_reads_writeItems fun v hv ↦ ih v hv)
  | object hnames h ih =>
    exact reads_enclose_fields (forall₂_readsField_writeFields fun field hfield ↦ ih field hfield)
      hnames

/-- A text that reads as a value is decoded to it. -/
theorem Reads.decode? {s : String} (h : Reads v s.toList) : decode? s = some v := by
  have hread := h.reads (2 * s.toList.length + 1) [] (by omega) (by simp [Ends])
  have hskip := @skipSpace_append [] s.toList (by simp [IsGap])
    (by simpa using h.solid [])
  rw [List.nil_append] at hskip
  rw [List.append_nil] at hread
  have hnil : skipSpace [] = [] := rfl
  simp only [Json.decode?, read?, hskip, hread, hnil, Option.bind_eq_bind, Option.bind_some,
    List.isEmpty_nil, if_true]

/-- Data without overlong integers are written in every style, and decoded to themselves. -/
theorem decode?_write {v : Value} (h : v.IsData Number.IsBrief) :
    decode? (write style 0 v) = some v :=
  (reads_write h).decode?

/-- **Data are written by any indentation, and read back.** -/
theorem exists_encodeReadable?_eq_ok {v : Value} (h : v.IsData Number.IsBrief)
    (indent : Option ℕ) :
    ∃ text, encodeReadable? indent v = .ok text ∧ decode? text = some v := by
  refine ⟨encodeReadable indent v, ?_, decode?_write h⟩
  rw [encodeReadable?, h.isOverlong_eq_false fun _ ↦ Number.IsBrief.isOverlong_eq_false]
  rfl

end Json

end ToolFlow

import ToolFlow.Proofs.Except
import ToolFlow.Yaml.TokenStream

/-!
# What stops the reading of tokens

A text whose tokens cannot be read is no YAML, or it has an escape that names no character, or a
directive with a version whose number has too many digits (`isLexical_of_tokensOf`). Of the three
only the first is reported as a problem of the text, so this is the first half of what can escape
the loader.

`Obstacle.IsLexical` lists the three, and `IsLexical` says of a reader that it fails in these ways
only. There is one lemma for each reader, in the order of the definitions, and each is an instance
of closure under sequencing and branching (`Except.FailsOnly`). The readers with a bound are gone
through by induction on it, and no lemma depends on what the bound is.

Two readers are where the unusual obstacles come from, and everything else only passes them on:
`isLexical_escapeSequence` for escapes between double quotation marks, and `isLexical_versionNumber`
for the numbers of a version.
-/

namespace ToolFlow.Yaml

/-- The ways in which tokens cannot be read. -/
inductive Obstacle.IsLexical : Obstacle → Prop
  | malformed : IsLexical .malformed
  | noCharacter {code : ℕ} (h : 0x110000 ≤ code) : IsLexical (.noCharacter code)
  | tooManyDigits {count : ℕ} (h : Text.digitLimit < count) : IsLexical (.tooManyDigits count)

/-- Reading that is stopped in these ways only. -/
abbrev IsLexical {α : Type} (x : Except Obstacle α) : Prop :=
  x.FailsOnly Obstacle.IsLexical

variable {c : Cursor} {s : Scan} {fuel : ℕ} {double : Bool} {token : Token}

theorem isLexical_malformed {α : Type} : IsLexical (malformed : Except Obstacle α) :=
  Except.failsOnly_error_iff.2 .malformed

/-! ### Scalars -/

theorem isLexical_quotedBreaks : IsLexical (quotedBreaks fuel c) := by
  induction fuel generalizing c with
  | zero => exact isLexical_malformed
  | succ fuel ih =>
    unfold quotedBreaks
    split
    · exact isLexical_malformed
    · dsimp only
      split
      · exact Except.failsOnly_ok
      · exact ih.bind fun _ _ ↦ Except.failsOnly_pure

theorem isLexical_quotedSpaces : IsLexical (quotedSpaces c) := by
  unfold quotedSpaces
  split
  split
  · exact isLexical_malformed
  · exact isLexical_quotedBreaks.bind fun _ _ ↦ Except.failsOnly_pure
  · exact Except.failsOnly_ok

/-- An escape is the first place where reading is stopped other than by what is no YAML. -/
theorem isLexical_escapeSequence : IsLexical (escapeSequence c) := by
  unfold escapeSequence
  split
  · exact isLexical_malformed
  · split
    · exact Except.failsOnly_ok
    · dsimp only
      split
      · exact isLexical_malformed
      · split
        · exact isLexical_malformed
        · split
          · exact Except.failsOnly_ok
          · next h => exact Except.failsOnly_error_iff.2 (.noCharacter (Nat.not_lt.1 h))
    · exact isLexical_quotedBreaks
    · exact isLexical_malformed

theorem isLexical_quotedWord : IsLexical (quotedWord double fuel c) := by
  induction fuel generalizing c with
  | zero => exact isLexical_malformed
  | succ fuel ih =>
    unfold quotedWord
    split
    split
    · split
      · exact ih.bind fun _ _ ↦ Except.failsOnly_pure
      · split
        · exact ih.bind fun _ _ ↦ Except.failsOnly_pure
        · exact Except.failsOnly_pure
    · split
      · exact Except.failsOnly_pure
      · exact ih.bind fun _ _ ↦ Except.failsOnly_pure
    · split
      · exact isLexical_escapeSequence.bind fun _ _ ↦ ih.bind fun _ _ ↦ Except.failsOnly_pure
      · exact ih.bind fun _ _ ↦ Except.failsOnly_pure
    · exact Except.failsOnly_pure

/-- Quoted text alternates between words and the spaces between them. -/
theorem isLexical_quotedWords : IsLexical (quotedWords double fuel c) := by
  induction fuel generalizing c with
  | zero => exact isLexical_malformed
  | succ fuel ih =>
    unfold quotedWords
    refine isLexical_quotedWord.bind fun _ _ ↦ Except.failsOnly_ite Except.failsOnly_pure ?_
    exact isLexical_quotedSpaces.bind fun _ _ ↦ ih.bind fun _ _ ↦ Except.failsOnly_pure

/-- **A quoted text is stopped by a bad escape**, or it is no YAML. -/
theorem isLexical_quotedScalar : IsLexical (quotedScalar double c) :=
  isLexical_quotedWords.bind fun _ _ ↦ Except.failsOnly_pure

theorem isLexical_emptyLineEnd : IsLexical (emptyLineEnd c) := by
  unfold emptyLineEnd
  dsimp only
  split
  · split <;> exact Except.failsOnly_ok
  · exact isLexical_malformed

theorem isLexical_blockHeader : IsLexical (blockHeader c) :=
  Except.failsOnly_ite isLexical_malformed Except.failsOnly_pure

theorem isLexical_blockScalar {folded : Bool} {parent : Int} :
    IsLexical (blockScalar folded parent c) :=
  isLexical_blockHeader.bind fun _ _ ↦ isLexical_emptyLineEnd.bind fun _ _ ↦ Except.failsOnly_pure

/-! ### Markers and directives -/

theorem isLexical_markerName : IsLexical (markerName c) :=
  Except.failsOnly_ite isLexical_malformed Except.failsOnly_ok

theorem isLexical_anchorName : IsLexical (anchorName c) :=
  isLexical_markerName.bind fun _ _ ↦
    Except.failsOnly_ite Except.failsOnly_pure isLexical_malformed

theorem isLexical_anchored {make : String → Token} : IsLexical (Scan.anchored make c) :=
  isLexical_anchorName.bind fun _ _ ↦ Except.failsOnly_pure

/-- The bytes of a tag are escaped in their own way, and what is wrong with them is no YAML. -/
theorem isLexical_escapedBytes : IsLexical (escapedBytes fuel c) := by
  induction fuel generalizing c with
  | zero => exact isLexical_malformed
  | succ fuel ih =>
    unfold escapedBytes
    refine Except.failsOnly_ite Except.failsOnly_ok ?_
    dsimp only
    split
    · exact isLexical_malformed
    · exact Except.failsOnly_ite isLexical_malformed
        (ih.bind fun _ _ ↦ Except.failsOnly_pure)

theorem isLexical_tagChars : IsLexical (tagChars fuel c) := by
  induction fuel generalizing c with
  | zero => exact isLexical_malformed
  | succ fuel ih =>
    unfold tagChars
    refine Except.failsOnly_ite Except.failsOnly_pure (isLexical_escapedBytes.bind fun _ _ ↦ ?_)
    dsimp only
    split
    · exact isLexical_malformed
    · exact ih.bind fun _ _ ↦ Except.failsOnly_pure

theorem isLexical_tagText : IsLexical (tagText c) :=
  isLexical_tagChars.bind fun _ _ ↦
    Except.failsOnly_ite isLexical_malformed Except.failsOnly_pure

theorem isLexical_tagHandle : IsLexical (tagHandle c) :=
  Except.failsOnly_ite isLexical_malformed
    (Except.failsOnly_ite Except.failsOnly_ok
      (Except.failsOnly_ite Except.failsOnly_ok isLexical_malformed))

theorem isLexical_tagToken : IsLexical (tagToken c) := by
  unfold tagToken
  refine Except.FailsOnly.bind ?_ fun _ _ ↦
    Except.failsOnly_ite Except.failsOnly_pure isLexical_malformed
  split
  · exact isLexical_tagText.bind fun _ _ ↦
      Except.failsOnly_ite Except.failsOnly_pure isLexical_malformed
  · refine Except.failsOnly_ite Except.failsOnly_pure ?_
    exact Except.failsOnly_ite
      (isLexical_tagHandle.bind fun _ _ ↦ isLexical_tagText.bind fun _ _ ↦ Except.failsOnly_pure)
      (Except.failsOnly_pure.bind fun _ _ ↦ isLexical_tagText.bind fun _ _ ↦ Except.failsOnly_pure)

/-- The version in a directive is the only number that is read before there are nodes. -/
theorem isLexical_versionNumber : IsLexical (versionNumber c) := by
  unfold versionNumber
  refine Except.failsOnly_ite isLexical_malformed ?_
  split
  · next h => exact Except.failsOnly_error_iff.2 (.tooManyDigits h)
  · exact Except.failsOnly_ok

/-- A version is two numbers, either of which may be too long. -/
theorem isLexical_versionDirective : IsLexical (versionDirective c) :=
  isLexical_versionNumber.bind fun _ _ ↦ Except.failsOnly_ite isLexical_malformed
    (isLexical_versionNumber.bind fun _ _ ↦
      Except.failsOnly_ite Except.failsOnly_pure isLexical_malformed)

theorem isLexical_tagDirective : IsLexical (tagDirective c) :=
  isLexical_tagHandle.bind fun _ _ ↦ Except.failsOnly_ite isLexical_malformed
    (isLexical_tagText.bind fun _ _ ↦
      Except.failsOnly_ite Except.failsOnly_pure isLexical_malformed)

/-- **A directive is stopped by the number of a version**, or it is no YAML. -/
theorem isLexical_directiveToken : IsLexical (directiveToken c) := by
  unfold directiveToken
  refine isLexical_markerName.bind fun _ _ ↦ Except.failsOnly_ite isLexical_malformed
    (Except.FailsOnly.bind ?_ fun _ _ ↦ isLexical_emptyLineEnd.bind fun _ _ ↦
      Except.failsOnly_pure)
  split
  · exact isLexical_versionDirective
  · exact isLexical_tagDirective
  · exact Except.failsOnly_ok

/-! ### Tokens -/

namespace Scan

theorem isLexical_dropKey : IsLexical s.dropKey :=
  Except.failsOnly_ite isLexical_malformed Except.failsOnly_ok

theorem isLexical_rememberKey : IsLexical s.rememberKey :=
  Except.failsOnly_ite Except.failsOnly_pure
    (isLexical_dropKey.bind fun _ _ ↦ Except.failsOnly_pure)

theorem isLexical_dropStaleKeys : IsLexical s.dropStaleKeys :=
  Except.failsOnly_ite isLexical_malformed Except.failsOnly_ok

theorem isLexical_streamEnd : IsLexical s.streamEnd :=
  isLexical_dropKey.bind fun _ _ ↦ Except.failsOnly_pure

theorem isLexical_directive : IsLexical s.directive :=
  isLexical_dropKey.bind fun _ _ ↦ isLexical_directiveToken.bind fun _ _ ↦ Except.failsOnly_pure

theorem isLexical_documentMark : IsLexical (s.documentMark token) :=
  isLexical_dropKey.bind fun _ _ ↦ Except.failsOnly_pure

theorem isLexical_openFlow : IsLexical (s.openFlow token) :=
  isLexical_rememberKey.bind fun _ _ ↦ Except.failsOnly_pure

theorem isLexical_closeFlow : IsLexical (s.closeFlow token) :=
  isLexical_dropKey.bind fun _ _ ↦ Except.failsOnly_pure

theorem isLexical_flowEntry : IsLexical s.flowEntry :=
  isLexical_dropKey.bind fun _ _ ↦ Except.failsOnly_pure

theorem isLexical_startBlock : IsLexical (s.startBlock token) := by
  unfold startBlock
  refine Except.failsOnly_ite Except.failsOnly_ok (Except.failsOnly_ite isLexical_malformed ?_)
  split <;> exact Except.failsOnly_ok

theorem isLexical_blockEntry : IsLexical s.blockEntry :=
  isLexical_startBlock.bind fun _ _ ↦ isLexical_dropKey.bind fun _ _ ↦ Except.failsOnly_pure

theorem isLexical_explicitKey : IsLexical s.explicitKey :=
  isLexical_startBlock.bind fun _ _ ↦ isLexical_dropKey.bind fun _ _ ↦ Except.failsOnly_pure

theorem isLexical_value : IsLexical s.value := by
  unfold value
  split
  · exact Except.failsOnly_pure
  · exact isLexical_startBlock.bind fun _ _ ↦ isLexical_dropKey.bind fun _ _ ↦
      Except.failsOnly_pure

/-- What may be a key is remembered before it is read, which does not stop anything new. -/
theorem isLexical_keyable {read : Cursor → Except Obstacle (Token × Cursor)}
    (h : ∀ c, IsLexical (read c)) : IsLexical (s.keyable read) :=
  isLexical_rememberKey.bind fun s _ ↦ (h s.cursor).bind fun _ _ ↦ Except.failsOnly_pure

theorem isLexical_block {folded : Bool} : IsLexical (s.block folded) :=
  isLexical_dropKey.bind fun _ _ ↦ isLexical_blockScalar.bind fun _ _ ↦ Except.failsOnly_pure

theorem isLexical_plain : IsLexical s.plain :=
  isLexical_rememberKey.bind fun _ _ ↦ Except.failsOnly_pure

/-- **Every kind of token is stopped in these ways only**; its first character decides which kind it
is. -/
theorem isLexical_tokenAt {ch : Char} : IsLexical (s.tokenAt ch) := by
  unfold tokenAt
  repeat' refine Except.failsOnly_ite ?_ ?_
  · exact isLexical_directive
  · exact isLexical_documentMark
  · exact isLexical_documentMark
  · exact isLexical_openFlow
  · exact isLexical_openFlow
  · exact isLexical_closeFlow
  · exact isLexical_closeFlow
  · exact isLexical_flowEntry
  · exact isLexical_blockEntry
  · exact isLexical_explicitKey
  · exact isLexical_value
  · exact isLexical_keyable fun _ ↦ isLexical_anchored
  · exact isLexical_keyable fun _ ↦ isLexical_anchored
  · exact isLexical_keyable fun _ ↦ isLexical_tagToken
  · exact isLexical_block
  · exact isLexical_block
  · exact isLexical_keyable fun _ ↦ isLexical_quotedScalar
  · exact isLexical_keyable fun _ ↦ isLexical_quotedScalar
  · exact isLexical_plain
  · exact isLexical_malformed

/-- So is every step to the next token, with what closes blocks before it. -/
theorem isLexical_step : IsLexical s.step := by
  unfold step
  refine isLexical_dropStaleKeys.bind fun _ _ ↦ ?_
  dsimp only
  split
  · exact isLexical_streamEnd
  · exact isLexical_tokenAt

/-- **All tokens of a text** are read until one of these obstacles is met, by induction on the
bound. -/
theorem isLexical_of_run {o : Obstacle} (h : (run fuel s).2 = some o) : o.IsLexical := by
  induction fuel generalizing s with
  | zero =>
    obtain rfl := Option.some.inj h
    exact .malformed
  | succ fuel ih =>
    unfold run at h
    split at h
    · next e he =>
      obtain rfl := Option.some.inj h
      exact isLexical_step e he
    · split at h
      · cases h
      · exact ih h

end Scan

/-- What stops the reading of the tokens of a text lies in its letters. -/
theorem isLexical_of_tokensOf {text : String} {o : Obstacle} (h : (tokensOf text).2 = some o) :
    o.IsLexical := by
  unfold tokensOf at h
  dsimp only at h
  split at h
  · exact Scan.isLexical_of_run h
  · obtain rfl := Option.some.inj h
    exact .malformed

end ToolFlow.Yaml

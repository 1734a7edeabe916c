import InputDemand.Proofs.Source.Mask
import Mathlib.Data.List.TakeWhile

/-!
# Places to mask anew from

A character of masked source that is no blank stands at the same place of the source.  A place of
masked source is clean if the source can be masked anew from there: it is so behind a character of
program text, and behind blanks that follow such a place.
-/

namespace InputDemand

namespace Lexicon

variable {lexicon : Lexicon} {mode : MaskMode} {letter : Char}

/-! ## Characters that show -/

/-- A character shown is the one masked, unless it is a blank. -/
theorem shown_eq_of_mem {first : Char} {rest : Text} (visible : letter ≠ ' ')
    (member : letter ∈ lexicon.shown mode first rest) :
    first = letter ∧ lexicon.shown mode first rest = [letter] ∧
      ((lexicon.step first rest mode).2 = true ∨ letter = '\n') := by
  unfold shown at member ⊢
  split at member
  · rename_i stays
    rw [if_pos stays]
    have same := List.mem_singleton.mp member
    exact ⟨same.symm, by rw [same], Or.inl stays⟩
  · rename_i hides
    rw [if_neg hides]
    unfold hidden at member ⊢
    split at member
    · rename_i feed
      rw [if_pos feed]
      have same := List.mem_singleton.mp member
      exact ⟨feed.trans same.symm, by rw [same], Or.inr same⟩
    · exact absurd (List.eq_of_mem_replicate member) visible

/-- A character of a masked text stands in the source as well, unless it is a blank. -/
theorem exists_front_of_maskFrom {source front back : Text} (visible : letter ≠ ' ')
    (masked : lexicon.maskFrom mode source = front ++ letter :: back) :
    ∃ ahead behind, source = ahead ++ letter :: behind ∧
      lexicon.maskFront mode ahead (letter :: behind) = front ∧
      ((lexicon.step letter behind
          (lexicon.modeBehind mode ahead (letter :: behind))).2 = true ∨ letter = '\n') ∧
      lexicon.maskFrom (lexicon.step letter behind
          (lexicon.modeBehind mode ahead (letter :: behind))).1 behind = back := by
  induction source generalizing mode front with
  | nil =>
      rw [maskFrom] at masked
      cases front <;> cases masked
  | cons first rest inductionHypothesis =>
      rw [maskFrom_cons] at masked
      -- What stands for the first character ends in front of the one looked for, or it reaches
      -- over it, and then it is nothing else.
      rcases List.append_eq_append_iff.mp masked with ⟨later, split, tail⟩ | ⟨piece, split, tail⟩
      · obtain ⟨ahead, behind, rfl, front, stays, back⟩ := inductionHypothesis tail
        refine ⟨first :: ahead, behind, rfl, ?_, stays, back⟩
        rw [split, maskFront, front]
      · cases piece with
        | nil =>
            have tail : lexicon.maskFrom (lexicon.step first rest mode).1 rest =
                [] ++ letter :: back := tail.symm
            obtain ⟨ahead, behind, rfl, front, stays, back⟩ := inductionHypothesis tail
            refine ⟨first :: ahead, behind, rfl, ?_, stays, back⟩
            rw [maskFront, front]
            simpa using split
        | cons head piece =>
            obtain ⟨rfl, behind⟩ := List.cons_eq_cons.mp tail
            have member : letter ∈ lexicon.shown mode first rest := by
              rw [split]
              simp
            obtain ⟨rfl, alone, stays⟩ := shown_eq_of_mem visible member
            rw [alone] at split
            obtain ⟨rfl, rfl⟩ : front = [] ∧ piece = [] := by
              cases front with
              | nil => simpa using split
              | cons head front => simp at split
            exact ⟨[], rest, rfl, rfl, stays, behind.symm⟩

/-- The place of the source at a place of its masked form where a character shows. -/
theorem exists_place_of_visible {source : Text} {place : Cursor} (visible : letter ≠ ' ')
    (masked : lexicon.mask source = place.text) (found : place.rest.head? = some letter) :
    ∃ there : Cursor, there.text = source ∧ there.offset = place.offset ∧
      there.rest.head? = some letter := by
  obtain ⟨behind, split⟩ := List.head?_eq_some_iff.mp found
  rw [Cursor.text, split] at masked
  obtain ⟨ahead, rest, rfl, front, _⟩ := exists_front_of_maskFrom visible masked
  refine ⟨⟨ahead.reverse, letter :: rest⟩, ?_, ?_, rfl⟩
  · simp [Cursor.text]
  · have sized := congrArg Text.size front
    rw [size_maskFront, Text.size_reverse] at sized
    simpa [Cursor.offset] using sized

/-- The same for a place behind a character that shows. -/
theorem exists_place_behind_visible {source : Text} {place : Cursor} (visible : letter ≠ ' ')
    (masked : lexicon.mask source = place.text) (found : place.before.head? = some letter) :
    ∃ there : Cursor, there.text = source ∧ there.offset = place.offset := by
  have back : place.back.text = place.text := Cursor.text_back place
  obtain ⟨there, same, offset, head⟩ :=
    exists_place_of_visible visible (masked.trans back.symm) (Cursor.rest_back found)
  refine ⟨there.next, by rw [Cursor.text_next, same], ?_⟩
  rw [Cursor.offset_next head, offset, ← Cursor.offset_next (Cursor.rest_back found),
    Cursor.next_back found]

/-! ## Clean places -/

/-- Every source with the masked form that the place is in can be masked anew from the place. -/
def Clean (lexicon : Lexicon) (place : Cursor) : Prop :=
  ∀ source, lexicon.mask source = place.text →
    ∃ there : Cursor, there.text = source ∧ there.offset = place.offset ∧
      lexicon.mask there.rest = place.rest

/-- Behind a firm character other than a line feed a place is clean. -/
theorem clean_of_isFirm (regular : lexicon.Regular) {place : Cursor}
    (found : place.before.head? = some letter) (firm : isFirm letter = true)
    (notFeed : letter ≠ '\n') : lexicon.Clean place := by
  intro source masked
  obtain ⟨front, split⟩ := List.head?_eq_some_iff.mp found
  have masked : lexicon.maskFrom .code source = front.reverse ++ letter :: place.rest := by
    rw [← mask, masked, Cursor.text, split]
    simp
  obtain ⟨ahead, behind, rfl, front', stays, back⟩ :=
    exists_front_of_maskFrom (ne_blank_of_isFirm firm) masked
  -- The character shows and is no sign, so the scan has come to program text by then.
  have fits : (lexicon.modeBehind .code ahead (letter :: behind)).Fits (letter :: behind) :=
    fits_modeBehind regular trivial
  obtain ⟨_, code⟩ := step_of_isFirm regular fits (stays.resolve_right notFeed) firm notFeed
  rw [code] at back
  refine ⟨⟨letter :: ahead.reverse, behind⟩, by simp [Cursor.text], ?_, back⟩
  have sized := congrArg Text.size front'
  rw [size_maskFront, Text.size_reverse] at sized
  simp [Cursor.offset, split, sized]

end Lexicon

/-- The modes in which a scan is inside of no literal, with block comments or without. -/
def MaskMode.isQuiet (blocks : Bool) : MaskMode → Bool
  | .code | .lineComment => true
  | .blockOpening | .block | .blockClosing => blocks
  | _ => false

namespace Lexicon

variable {lexicon : Lexicon} {mode : MaskMode} {letter : Char}

/-- Only a quote, which shows, leads into a literal. -/
theorem isQuiet_step (regular : lexicon.Regular) {rest : Text}
    (quiet : mode.isQuiet lexicon.blockComments = true)
    (noQuote : ∀ shown ∈ lexicon.shown mode letter rest, Text.isQuote shown = false) :
    (lexicon.step letter rest mode).1.isQuiet lexicon.blockComments = true := by
  cases mode with
  | code =>
      have noLiteral : (lexicon.codeStep letter rest).2 = true → letter ∉ lexicon.quotes := by
        intro stays quote
        have shown : lexicon.shown .code letter rest = [letter] := if_pos stays
        have notQuote := noQuote letter (by rw [shown]; exact List.mem_singleton_self letter)
        rw [regular.quotes letter quote] at notQuote
        cases notQuote
      change (lexicon.codeStep letter rest).1.isQuiet lexicon.blockComments = true
      rcases lexicon.codeStep_cases letter rest with
        step | ⟨blocks, step⟩ | ⟨quote, _, step⟩ | ⟨quote, step⟩ | step
      · rw [step]
        rfl
      · rw [step]
        exact blocks
      · exact absurd quote (noLiteral (by rw [step]))
      · exact absurd quote (noLiteral (by rw [step]))
      · rw [step]
        rfl
  | lineComment =>
      simp only [step]
      split <;> rfl
  | blockOpening => exact quiet
  | block =>
      simp only [step]
      split <;> exact quiet
  | blockClosing => rfl
  | _ => cases quiet

theorem isQuiet_modeBehind (regular : lexicon.Regular) {front rest : Text}
    (quiet : mode.isQuiet lexicon.blockComments = true)
    (noQuote : ∀ shown ∈ lexicon.maskFront mode front rest, Text.isQuote shown = false) :
    (lexicon.modeBehind mode front rest).isQuiet lexicon.blockComments = true := by
  induction front generalizing mode with
  | nil => exact quiet
  | cons first front inductionHypothesis =>
      rw [maskFront] at noQuote
      refine inductionHypothesis (isQuiet_step regular quiet ?_) ?_
      · exact fun shown member => noQuote shown (List.mem_append_left _ member)
      · exact fun shown member => noQuote shown (List.mem_append_right _ member)

/-- Outside of literals a character that shows is program text, unless it is a line feed. -/
theorem eq_code_of_stays {blocks : Bool} {rest : Text} (quiet : mode.isQuiet blocks = true)
    (stays : (lexicon.step letter rest mode).2 = true) (notFeed : letter ≠ '\n') :
    mode = .code := by
  cases mode with
  | code => rfl
  | lineComment => simp [step, notFeed] at stays
  | blockOpening => cases stays
  | block =>
      simp only [step] at stays
      split at stays <;> cases stays
  | blockClosing => cases stays
  | _ => cases quiet

/-- A character that is no sign begins nothing. -/
theorem codeStep_of_not_isSign (regular : lexicon.Regular) (noSign : isSign letter = false)
    (rest : Text) : lexicon.codeStep letter rest = (.code, true) := by
  have different : ∀ sign, isSign sign = true → sign ≠ letter := by
    rintro sign isSign rfl
    rw [noSign] at isSign
    cases isSign
  have noMark :
      lexicon.lineComments.any (fun mark => mark.isPrefixOf (letter :: rest)) = false := by
    rw [List.any_eq_false]
    intro mark member
    obtain ⟨nonempty, signs⟩ := regular.marks mark member
    cases mark with
    | nil => exact absurd rfl nonempty
    | cons first mark =>
        rw [List.isPrefixOf_iff_prefix, List.cons_prefix_cons]
        rintro ⟨same, _⟩
        exact different first (signs first List.mem_cons_self) same
  have noBlock : ['/', '*'].isPrefixOf (letter :: rest) = false := by
    have slash := different '/' rfl
    simp [List.isPrefixOf, slash]
  have noQuote : lexicon.quotes.contains letter = false := by
    rw [← Bool.not_eq_true, List.contains_iff_mem]
    intro quote
    exact different letter (isSign_of_isQuote (regular.quotes letter quote)) rfl
  simp only [codeStep, noMark, noBlock, noQuote, Bool.and_false, Bool.false_eq_true, if_false]

/-- A place behind a clean one is clean if only blanks are between and masking anew makes no
difference there in any mode outside of literals. -/
theorem Clean.of_blanks (regular : lexicon.Regular) {place other : Cursor}
    (clean : lexicon.Clean place) (order : place ≤ other)
    (noQuote : ∀ blank ∈ place.textUpTo other, Text.isQuote blank = false)
    (found : other.rest.head? = some letter) (visible : letter ≠ ' ')
    (anew : ∀ mode rest, mode.isQuiet lexicon.blockComments = true →
      ((lexicon.step letter rest mode).2 = true ∨ letter = '\n') →
      lexicon.mask (letter :: rest) =
        letter :: lexicon.maskFrom (lexicon.step letter rest mode).1 rest) :
    lexicon.Clean other := by
  intro source masked
  obtain ⟨there, same, offset, tail⟩ :=
    clean source (masked.trans (Cursor.text_eq_of_le order).symm)
  obtain ⟨back, split⟩ := List.head?_eq_some_iff.mp found
  rw [Cursor.rest_eq_textUpTo_append order, split] at tail
  obtain ⟨ahead, behind, rest, front, stays, masked⟩ := exists_front_of_maskFrom visible tail
  -- The blanks passed may hide comments, but no literal, whose quotes would show.
  have quiet : (lexicon.modeBehind .code ahead (letter :: behind)).isQuiet
      lexicon.blockComments = true := by
    refine isQuiet_modeBehind regular rfl ?_
    rw [front]
    exact noQuote
  refine ⟨⟨ahead.reverse ++ there.before, letter :: behind⟩, ?_, ?_, ?_⟩
  · rw [← same, Cursor.text, Cursor.text, rest]
    simp
  · have sized : Text.size ahead = Text.size (place.textUpTo other) := by
      rw [← front, size_maskFront]
    rw [Cursor.offset_eq_add_textUpTo order, ← offset, Cursor.offset, Cursor.offset,
      Text.size_append, Text.size_reverse, sized, Nat.add_comm]
  · change lexicon.mask (letter :: behind) = other.rest
    rw [anew _ behind quiet stays, masked, split]

theorem not_isQuote_of_isBlank (blank : isBlank letter = true) : Text.isQuote letter = false := by
  rw [← Bool.not_eq_true]
  intro quote
  simp only [Text.isQuote, Bool.or_eq_true, decide_eq_true_eq] at quote
  rcases quote with (rfl | rfl) | rfl <;> revert blank <;> decide

/-- Behind the blanks at a clean place a place is clean again, if anything follows. -/
theorem Clean.skipBlank (regular : lexicon.Regular) {place : Cursor} (clean : lexicon.Clean place)
    (found : place.skipBlank.rest.head? = some letter) : lexicon.Clean place.skipBlank := by
  have notBlank : isBlank letter = false := by
    have stopped := List.head?_dropWhile_not isBlank place.rest
    rw [show (place.rest.dropWhile isBlank).head? = some letter from found] at stopped
    exact stopped
  have different : ∀ blank, isBlank blank = true → letter ≠ blank := by
    rintro blank isBlank rfl
    rw [notBlank] at isBlank
    cases isBlank
  have passed : place.textUpTo place.skipBlank = place.rest.takeWhile isBlank := by
    have split := Cursor.rest_eq_textUpTo_append (Cursor.le_skipBlank place)
    have same : place.rest = place.rest.takeWhile isBlank ++ place.skipBlank.rest :=
      List.takeWhile_append_dropWhile.symm
    exact List.append_cancel_right (split.symm.trans same)
  refine clean.of_blanks regular (Cursor.le_skipBlank place) ?_ found (different ' ' rfl) ?_
  · intro blank member
    rw [passed] at member
    exact not_isQuote_of_isBlank (List.mem_takeWhile_imp member)
  · intro mode rest quiet stays
    have notFeed := different '\n' rfl
    have code := eq_code_of_stays quiet (stays.resolve_right notFeed) notFeed
    rw [mask, maskFrom_cons, ← code, shown, if_pos (stays.resolve_right notFeed)]
    rfl

/-- Where there are no block comments, a clean place is followed only by blanks up to a clean end of
its line. -/
theorem Clean.lineEnd (regular : lexicon.Regular) (noBlocks : lexicon.blockComments = false)
    {place : Cursor} (clean : lexicon.Clean place)
    (blank : Text.blank (place.textUpTo place.lineEnd) = true)
    (found : place.lineEnd.rest.head? = some '\n') : lexicon.Clean place.lineEnd := by
  refine clean.of_blanks regular (Cursor.le_lineEnd place) ?_ found (by decide) ?_
  · intro letter member
    exact not_isQuote_of_isBlank (List.all_eq_true.mp blank letter member)
  · intro mode rest quiet _
    have code : lexicon.codeStep '\n' rest = (.code, true) :=
      codeStep_of_not_isSign regular rfl rest
    have masked : lexicon.mask ('\n' :: rest) = '\n' :: lexicon.maskFrom .code rest := by
      rw [mask, maskFrom_cons, shown, step, code]
      rfl
    rw [masked]
    cases mode with
    | code => rw [step, code]
    | lineComment => rfl
    | _ =>
        rw [noBlocks] at quiet
        cases quiet

end Lexicon

end InputDemand

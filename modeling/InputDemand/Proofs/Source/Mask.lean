import InputDemand.Source.Literal
import InputDemand.Source.Mask
import InputDemand.Language
import InputDemand.Proofs.Source.Brackets

/-!
# Masking a part of a source

The masked form of a part of a source is that part of the masked source, if the scan is in program
text where the part starts and no sign of a comment or of a literal is cut apart where it ends.
Both can be told from the masked source: what is neither a blank nor a sign stands for itself there,
and the scan is in program text behind it.
-/

namespace InputDemand

/-- A character that a comment or a literal may begin or end with. -/
def isSign (letter : Char) : Bool :=
  ['/', '*', '#', '-'].contains letter || Text.isQuote letter

/-- A character that can only stand for itself in masked source, and that is part of no sign. -/
def isFirm (letter : Char) : Bool :=
  letter ≠ ' ' && !isSign letter

theorem isSign_of_isQuote {letter : Char} (quote : Text.isQuote letter = true) :
    isSign letter = true := by
  simp [isSign, quote]

theorem not_isSign_of_isFirm {letter : Char} (firm : isFirm letter = true) :
    isSign letter = false := by
  simp only [isFirm, Bool.and_eq_true, Bool.not_eq_true'] at firm
  exact firm.2

theorem ne_blank_of_isFirm {letter : Char} (firm : isFirm letter = true) : letter ≠ ' ' := by
  simp only [isFirm, Bool.and_eq_true, decide_eq_true_eq] at firm
  exact firm.1

/-- What a mode tells of the text behind: how many quotes are still to come, and that it is by
quotes that literals are delimited. -/
def MaskMode.Fits (rest : Text) : MaskMode → Prop
  | .opening quote left => Text.isQuote quote = true ∧ 0 < left ∧ List.replicate left quote <+: rest
  | .literal quote _ => Text.isQuote quote = true
  | .escaped quote _ => Text.isQuote quote = true
  | .closing left =>
      0 < left ∧ ∃ quote, Text.isQuote quote = true ∧ List.replicate left quote <+: rest
  | _ => True

namespace Lexicon

/-- Comments and literals begin and end with signs. -/
structure Regular (lexicon : Lexicon) : Prop where
  marks : ∀ mark ∈ lexicon.lineComments, mark ≠ [] ∧ ∀ letter ∈ mark, isSign letter = true
  quotes : ∀ quote ∈ lexicon.quotes, Text.isQuote quote = true

end Lexicon

theorem Language.regular_lexicon (language : Language) : language.lexicon.Regular := by
  have marks : language.lexicon.lineComments.all
      (fun mark => !mark.isEmpty && mark.all isSign) = true := by
    cases language <;> decide
  have quotes : language.lexicon.quotes.all Text.isQuote = true := by
    cases language <;> decide
  refine ⟨?_, List.all_eq_true.mp quotes⟩
  intro mark listed
  have holds := List.all_eq_true.mp marks mark listed
  rw [Bool.and_eq_true, Bool.not_eq_true', List.isEmpty_eq_false_iff] at holds
  exact ⟨holds.1, List.all_eq_true.mp holds.2⟩

namespace Lexicon

/-- The mode behind the first of two texts, the second of which follows it. -/
def modeBehind (lexicon : Lexicon) : MaskMode → Text → Text → MaskMode
  | mode, [], _ => mode
  | mode, letter :: front, rest =>
      lexicon.modeBehind (lexicon.step letter (front ++ rest) mode).1 front rest

/-- What stands for the next character of a source. -/
def shown (lexicon : Lexicon) (mode : MaskMode) (letter : Char) (rest : Text) : Text :=
  if (lexicon.step letter rest mode).2 then [letter] else hidden letter

/-- The masked form of the first of two texts, the second of which follows it. -/
def maskFront (lexicon : Lexicon) : MaskMode → Text → Text → Text
  | _, [], _ => []
  | mode, letter :: front, rest =>
      lexicon.shown mode letter (front ++ rest) ++
        lexicon.maskFront (lexicon.step letter (front ++ rest) mode).1 front rest

variable {lexicon : Lexicon} {mode : MaskMode} {letter : Char}

theorem maskFrom_cons (lexicon : Lexicon) (mode : MaskMode) (letter : Char) (rest : Text) :
    lexicon.maskFrom mode (letter :: rest) =
      lexicon.shown mode letter rest ++
        lexicon.maskFrom (lexicon.step letter rest mode).1 rest :=
  rfl

theorem maskFront_concat (lexicon : Lexicon) (mode : MaskMode) (front rest : Text) (letter : Char) :
    lexicon.maskFront mode (front ++ [letter]) rest =
      lexicon.maskFront mode front (letter :: rest) ++
        lexicon.shown (lexicon.modeBehind mode front (letter :: rest)) letter rest := by
  induction front generalizing mode with
  | nil => simp [maskFront, modeBehind]
  | cons first front inductionHypothesis =>
      rw [List.cons_append, maskFront, inductionHypothesis, maskFront, modeBehind,
        List.append_assoc front, List.singleton_append, List.append_assoc]

@[simp]
theorem size_shown (lexicon : Lexicon) (mode : MaskMode) (letter : Char) (rest : Text) :
    Text.size (lexicon.shown mode letter rest) = letter.utf8Size := by
  unfold shown
  split <;> simp

@[simp]
theorem size_maskFront (lexicon : Lexicon) (mode : MaskMode) (front rest : Text) :
    Text.size (lexicon.maskFront mode front rest) = Text.size front := by
  induction front generalizing mode with
  | nil => rfl
  | cons letter front inductionHypothesis =>
      rw [maskFront, Text.size_append, size_shown, inductionHypothesis, Text.size_cons]

/-! ## Modes along a scan -/

theorem prefix_tail_replicate (count : Nat) {quote : Char} {rest : Text}
    (starts : List.replicate (count + 1) quote <+: letter :: rest) :
    letter = quote ∧ List.replicate count quote <+: rest := by
  rw [List.replicate_succ, List.cons_prefix_cons] at starts
  exact ⟨starts.1.symm, starts.2⟩

/-- What a character of program text begins: a comment, a literal, or nothing. -/
theorem codeStep_cases (lexicon : Lexicon) (letter : Char) (rest : Text) :
    lexicon.codeStep letter rest = (.lineComment, false) ∨
      (lexicon.blockComments = true ∧ lexicon.codeStep letter rest = (.blockOpening, false)) ∨
      (letter ∈ lexicon.quotes ∧ List.replicate 2 letter <+: rest ∧
        lexicon.codeStep letter rest = (.opening letter 2, true)) ∨
      (letter ∈ lexicon.quotes ∧ lexicon.codeStep letter rest = (.literal letter false, true)) ∨
      lexicon.codeStep letter rest = (.code, true) := by
  unfold codeStep
  split
  · exact Or.inl rfl
  · split
    · rename_i block
      rw [Bool.and_eq_true] at block
      exact Or.inr (Or.inl ⟨block.1, rfl⟩)
    · split
      · rename_i quote
        have isQuote := List.contains_iff_mem.mp quote
        split
        · rename_i triple
          simp only [opensTriple, Bool.and_eq_true, List.isPrefixOf_iff_prefix] at triple
          have starts := (prefix_tail_replicate 2 triple.2).2
          exact Or.inr (Or.inr (Or.inl ⟨isQuote, starts, rfl⟩))
        · exact Or.inr (Or.inr (Or.inr (Or.inl ⟨isQuote, rfl⟩)))
      · exact Or.inr (Or.inr (Or.inr (Or.inr rfl)))

theorem fits_codeStep (regular : lexicon.Regular) (rest : Text) :
    (lexicon.codeStep letter rest).1.Fits rest := by
  rcases lexicon.codeStep_cases letter rest with
    step | ⟨_, step⟩ | ⟨quote, starts, step⟩ | ⟨quote, step⟩ | step
  · rw [step]
    trivial
  · rw [step]
    trivial
  · rw [step]
    exact ⟨regular.quotes letter quote, Nat.succ_pos 1, starts⟩
  · rw [step]
    exact regular.quotes letter quote
  · rw [step]
    trivial

/-- What a mode tells of the text behind stays true along the scan. -/
theorem fits_step (regular : lexicon.Regular) {rest : Text} (fits : mode.Fits (letter :: rest)) :
    (lexicon.step letter rest mode).1.Fits rest := by
  cases mode with
  | code => exact fits_codeStep regular rest
  | lineComment =>
      simp only [step]
      split <;> trivial
  | blockOpening => trivial
  | block =>
      simp only [step]
      split <;> trivial
  | blockClosing => trivial
  | opening quote left =>
      obtain ⟨isQuote, positive, starts⟩ := fits
      simp only [step]
      split
      · exact isQuote
      · rename_i more
        -- One quote of the delimiter is passed, the others are still in front.
        obtain ⟨count, rfl⟩ : ∃ count, left = count + 1 := ⟨left - 1, by omega⟩
        exact ⟨isQuote, by omega, (prefix_tail_replicate count starts).2⟩
  | literal quote triple =>
      simp only [step]
      split
      · exact fits
      · split
        · trivial
        · split
          · rename_i same
            split
            · trivial
            · split
              · rename_i starts
                refine ⟨Nat.succ_pos 1, quote, fits, ?_⟩
                exact (prefix_tail_replicate 2
                  (List.isPrefixOf_iff_prefix.mp starts)).2
              · exact fits
          · exact fits
  | escaped quote triple => exact fits
  | closing left =>
      obtain ⟨positive, quote, isQuote, starts⟩ := fits
      simp only [step]
      split
      · trivial
      · rename_i more
        obtain ⟨count, rfl⟩ : ∃ count, left = count + 1 := ⟨left - 1, by omega⟩
        exact ⟨by omega, quote, isQuote, (prefix_tail_replicate count starts).2⟩

theorem fits_modeBehind (regular : lexicon.Regular) {front rest : Text}
    (fits : mode.Fits (front ++ rest)) : (lexicon.modeBehind mode front rest).Fits rest := by
  induction front generalizing mode with
  | nil => exact fits
  | cons letter front inductionHypothesis => exact inductionHypothesis (fits_step regular fits)

/-- A firm character that stays is program text, and so is what follows it. -/
theorem step_of_isFirm (regular : lexicon.Regular) {rest : Text}
    (fits : mode.Fits (letter :: rest)) (stays : (lexicon.step letter rest mode).2 = true)
    (firm : isFirm letter = true) (notFeed : letter ≠ '\n') :
    mode = .code ∧ (lexicon.step letter rest mode).1 = .code := by
  -- A firm character is no quote, so no delimiter can be under way.
  have notQuote : ∀ quote, Text.isQuote quote = true → letter ≠ quote := by
    rintro quote isQuote rfl
    have sign := isSign_of_isQuote isQuote
    rw [not_isSign_of_isFirm firm] at sign
    cases sign
  cases mode with
  | code =>
      refine ⟨rfl, ?_⟩
      change (lexicon.codeStep letter rest).2 = true at stays
      change (lexicon.codeStep letter rest).1 = .code
      rcases lexicon.codeStep_cases letter rest with
        step | ⟨_, step⟩ | ⟨quote, _, step⟩ | ⟨quote, step⟩ | step
      · rw [step] at stays
        cases stays
      · rw [step] at stays
        cases stays
      · exact absurd rfl (notQuote letter (regular.quotes letter quote))
      · exact absurd rfl (notQuote letter (regular.quotes letter quote))
      · rw [step]
  | opening quote left =>
      obtain ⟨isQuote, positive, starts⟩ := fits
      obtain ⟨count, rfl⟩ : ∃ count, left = count + 1 := ⟨left - 1, by omega⟩
      exact absurd (prefix_tail_replicate count starts).1 (notQuote quote isQuote)
  | literal quote triple =>
      have different := notQuote quote fits
      simp only [step, notFeed, different, decide_false, Bool.false_and, Bool.false_eq_true,
        if_false] at stays
      split at stays <;> cases stays
  | closing left =>
      obtain ⟨positive, quote, isQuote, starts⟩ := fits
      obtain ⟨count, rfl⟩ : ∃ count, left = count + 1 := ⟨left - 1, by omega⟩
      exact absurd (prefix_tail_replicate count starts).1 (notQuote quote isQuote)
  | lineComment => simp [step, notFeed] at stays
  | blockOpening => cases stays
  | block =>
      simp only [step] at stays
      split at stays <;> cases stays
  | blockClosing => cases stays
  | escaped quote triple => cases stays

end Lexicon

end InputDemand

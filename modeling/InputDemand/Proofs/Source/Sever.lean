import InputDemand.Pattern.Basic
import InputDemand.Proofs.Source.Clean

/-!
# Pieces that can be masked alone

A place severs a source if no sign of a comment or of a literal runs over it.  The piece of masked
source from a clean place to one that severs is a piece of every source with that masked form, and
its masked form is the same by itself.
-/

namespace InputDemand

/-- Two texts meet where no sign runs over: nothing follows, or there is no sign on one side. -/
def Seam (front rest : Text) : Prop :=
  rest = [] ∨ (∃ letter, rest.head? = some letter ∧ isSign letter = false) ∨
    ∃ letter, front.getLast? = some letter ∧ isSign letter = false

/-- No sign runs over the place, as far as the masked source tells. -/
def Cursor.Severs (place : Cursor) : Prop :=
  place.rest = [] ∨ (∃ letter, place.rest.head? = some letter ∧ isFirm letter = true) ∨
    ∃ letter, place.before.head? = some letter ∧ isFirm letter = true

namespace Seam

variable {front rest mark : Text} {letter : Char}

theorem of_cons (seam : Seam (letter :: front) rest) : front = [] ∨ Seam front rest := by
  rcases seam with none | next | ⟨last, found, noSign⟩
  · exact Or.inr (Or.inl none)
  · exact Or.inr (Or.inr (Or.inl next))
  · cases front with
    | nil => exact Or.inl rfl
    | cons first front =>
        rw [List.getLast?_cons_cons] at found
        exact Or.inr (Or.inr (Or.inr ⟨last, found, noSign⟩))

/-- A word of signs that begins with the front text ends with it. -/
theorem isPrefixOf_append (seam : Seam front rest)
    (signs : ∀ letter ∈ mark, isSign letter = true) :
    mark.isPrefixOf (front ++ rest) = mark.isPrefixOf front := by
  have noSign : ∀ letter, isSign letter = false → letter ∉ mark := by
    intro letter noSign member
    rw [signs letter member] at noSign
    cases noSign
  rw [Bool.eq_iff_iff, List.isPrefixOf_iff_prefix, List.isPrefixOf_iff_prefix]
  constructor
  · intro starts
    rcases List.prefix_or_prefix_of_prefix starts (List.prefix_append front rest) with
      short | ⟨more, rfl⟩
    · exact short
    -- A longer word would have signs on both sides of the seam.
    · rcases seam with rfl | ⟨next, found, noSignNext⟩ | ⟨last, found, noSignLast⟩
      · simpa using starts
      · obtain ⟨behind, rfl⟩ := List.head?_eq_some_iff.mp found
        rw [List.prefix_append_right_inj] at starts
        cases more with
        | nil => simp
        | cons first more =>
            obtain ⟨rfl, _⟩ := List.cons_prefix_cons.mp starts
            exact absurd (List.mem_append_right front List.mem_cons_self) (noSign first noSignNext)
      · have member := List.mem_of_getLast? found
        exact absurd (List.mem_append_left more member) (noSign last noSignLast)
  · intro starts
    exact starts.trans (List.prefix_append front rest)

theorem codeStep {lexicon : Lexicon} (regular : lexicon.Regular)
    (seam : Seam (letter :: front) rest) :
    lexicon.codeStep letter (front ++ rest) = lexicon.codeStep letter front := by
  have mark : ∀ mark : Text, (∀ letter ∈ mark, isSign letter = true) →
      mark.isPrefixOf (letter :: (front ++ rest)) = mark.isPrefixOf (letter :: front) :=
    fun mark signs => seam.isPrefixOf_append signs
  have marks : lexicon.lineComments.any (fun mark => mark.isPrefixOf (letter :: (front ++ rest))) =
      lexicon.lineComments.any (fun mark => mark.isPrefixOf (letter :: front)) := by
    rw [Bool.eq_iff_iff, List.any_eq_true, List.any_eq_true]
    constructor
    · rintro ⟨word, member, starts⟩
      exact ⟨word, member, mark word (regular.marks word member).2 ▸ starts⟩
    · rintro ⟨word, member, starts⟩
      exact ⟨word, member, (mark word (regular.marks word member).2).symm ▸ starts⟩
  have block := mark ['/', '*'] (List.all_eq_true.mp rfl)
  unfold Lexicon.codeStep
  rw [marks, block]
  by_cases quote : lexicon.quotes.contains letter = true
  · have sign := isSign_of_isQuote (regular.quotes letter (List.contains_iff_mem.mp quote))
    have triple := mark [letter, letter, letter] (by simp [sign])
    rw [Lexicon.opensTriple, triple, Lexicon.opensTriple]
  · simp only [quote, Bool.false_eq_true, if_false]

/-- Before a seam a step of the scan does not depend on what is behind it. -/
theorem step {lexicon : Lexicon} (regular : lexicon.Regular) {mode : MaskMode}
    (fits : mode.Fits (letter :: (front ++ rest))) (seam : Seam (letter :: front) rest) :
    lexicon.step letter (front ++ rest) mode = lexicon.step letter front mode := by
  cases mode with
  | code => exact seam.codeStep regular
  | block =>
      have mark : ['*', '/'].isPrefixOf (letter :: (front ++ rest)) =
          ['*', '/'].isPrefixOf (letter :: front) :=
        seam.isPrefixOf_append (List.all_eq_true.mp rfl)
      simp only [Lexicon.step, mark]
  | literal quote triple =>
      have sign := isSign_of_isQuote fits
      have mark : [quote, quote, quote].isPrefixOf (letter :: (front ++ rest)) =
          [quote, quote, quote].isPrefixOf (letter :: front) :=
        seam.isPrefixOf_append (by simp [sign])
      simp only [Lexicon.step, mark]
  | _ => rfl

/-- What comes before a seam is masked as it is alone. -/
theorem maskFront {lexicon : Lexicon} (regular : lexicon.Regular) {mode : MaskMode}
    (fits : mode.Fits (front ++ rest)) (seam : Seam front rest) :
    lexicon.maskFront mode front rest = lexicon.maskFrom mode front := by
  induction front generalizing mode with
  | nil => rfl
  | cons letter front inductionHypothesis =>
      have alone := seam.step regular fits
      rw [Lexicon.maskFront, Lexicon.maskFrom_cons, Lexicon.shown, Lexicon.shown, alone]
      congr 1
      rcases seam.of_cons with rfl | behind
      · rfl
      · refine inductionHypothesis ?_ behind
        rw [← alone]
        exact Lexicon.fits_step regular fits

/-- What comes before a seam is masked as it is alone, from the start of a source. -/
theorem mask {lexicon : Lexicon} (regular : lexicon.Regular) (seam : Seam front rest) :
    lexicon.maskFront .code front rest = lexicon.mask front := by
  have fits : MaskMode.Fits (front ++ rest) .code := trivial
  exact seam.maskFront regular fits

end Seam

namespace Lexicon

variable {lexicon : Lexicon}

/-- What is masked up to a place that severs is masked so alone. -/
theorem exists_inside (regular : lexicon.Regular) {source : Text} {start stop : Cursor}
    (order : start ≤ stop) (severs : stop.Severs)
    (masked : lexicon.mask source = start.textUpTo stop ++ stop.rest) :
    ∃ inside behind, source = inside ++ behind ∧ lexicon.mask inside = start.textUpTo stop := by
  rcases severs with none | ⟨letter, found, firm⟩ | ⟨letter, found, firm⟩
  · rw [none, List.append_nil] at masked
    exact ⟨source, [], (List.append_nil source).symm, masked⟩
  · obtain ⟨back, split⟩ := List.head?_eq_some_iff.mp found
    rw [split] at masked
    obtain ⟨ahead, behind, rfl, front, _⟩ :=
      exists_front_of_maskFrom (ne_blank_of_isFirm firm) masked
    refine ⟨ahead, letter :: behind, rfl, ?_⟩
    have seam : Seam ahead (letter :: behind) :=
      Or.inr (Or.inl ⟨letter, rfl, not_isSign_of_isFirm firm⟩)
    rw [← seam.mask regular, front]
  · obtain ⟨before, split⟩ := List.head?_eq_some_iff.mp found
    have passed := Cursor.before_eq_textUpTo_append order
    rw [split] at passed
    rcases List.eq_nil_or_concat (start.textUpTo stop) with nothing | ⟨front, last, ends⟩
    · exact ⟨[], source, rfl, by rw [nothing]; rfl⟩
    -- The firm character in front of the cut is the last one inside.
    · rw [List.concat_eq_append] at ends
      rw [ends, List.reverse_append, List.reverse_singleton, List.singleton_append,
        List.cons_append, List.cons_eq_cons] at passed
      obtain ⟨rfl, _⟩ := passed
      rw [ends, List.append_assoc, List.singleton_append] at masked
      obtain ⟨ahead, behind, rfl, same, stays, _⟩ :=
        exists_front_of_maskFrom (ne_blank_of_isFirm firm) masked
      refine ⟨ahead ++ [letter], behind, by simp, ?_⟩
      have seam : Seam (ahead ++ [letter]) behind :=
        Or.inr (Or.inr ⟨letter, by simp, not_isSign_of_isFirm firm⟩)
      rw [← seam.mask regular, maskFront_concat, same, ends]
      congr 1
      unfold shown
      rcases stays with stays | rfl
      · rw [if_pos stays]
      · split <;> rfl

end Lexicon

/-- A piece of masked source that every source with that masked form has as well, and that masking
alone does not change. -/
structure Piece.Severable (lexicon : Lexicon) (piece : Piece) : Prop where
  order : piece.start ≤ piece.stop
  clean : lexicon.Clean piece.start
  severs : piece.stop.Severs

/-- The piece of the source that a severable piece covers, and its masked form. -/
theorem Piece.Severable.slice {lexicon : Lexicon} (regular : lexicon.Regular) {piece : Piece}
    (severable : piece.Severable lexicon) {source : Text}
    (masked : lexicon.mask source = piece.start.text) :
    ∃ inside, Text.slice source piece.span = .ok inside ∧ lexicon.mask inside = piece.text := by
  obtain ⟨there, same, offset, tail⟩ := severable.clean source masked
  rw [Cursor.rest_eq_textUpTo_append severable.order] at tail
  obtain ⟨inside, behind, split, alone⟩ :=
    Lexicon.exists_inside regular severable.order severable.severs tail
  refine ⟨inside, ?_, alone⟩
  have sized : Text.size inside = Text.size (piece.start.textUpTo piece.stop) := by
    rw [← alone, Lexicon.size_mask]
  have ends : piece.span = ⟨Text.size there.before.reverse,
      Text.size there.before.reverse + Text.size inside⟩ := by
    rw [span, Cursor.spanUpTo, Cursor.offset_eq_add_textUpTo severable.order, sized, ← offset,
      Text.size_reverse, Cursor.offset]
  rw [ends, ← same, Cursor.text, split]
  exact Text.slice_append _ _ _

end InputDemand

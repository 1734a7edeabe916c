import InputDemand.Source.Body
import InputDemand.Proofs.Source.Sever
import Mathlib.Data.List.DropRight

/-!
# Where bodies lie

Every body lies behind its header, and can be masked alone: it starts behind program text, and it
ends at a bracket, behind a semicolon, at a line feed or at the end of the source.
-/

namespace InputDemand

theorem isFirm_of_closes {letter : Char} (closing : closes letter = true) :
    isFirm letter = true ∧ letter ≠ '\n' := by
  simp only [closes, Bool.or_eq_true, decide_eq_true_eq] at closing
  rcases closing with (rfl | rfl) | rfl <;> decide

/-- Pieces behind a separator and joined by it are pieces with the separator in front of each. -/
theorem cons_intercalate (separator : Char) {pieces : List Text} (some : pieces ≠ []) :
    separator :: [separator].intercalate pieces = pieces.flatMap (separator :: ·) := by
  induction pieces with
  | nil => exact absurd rfl some
  | cons first pieces inductionHypothesis =>
      cases pieces with
      | nil => simp
      | cons second pieces =>
          rw [List.intercalate_cons_cons, List.flatMap_cons,
            ← inductionHypothesis (List.cons_ne_nil second pieces)]
          simp

/-- The lines of a text behind a separator, each with the separator in front. -/
theorem cons_eq_flatMap_splitOn (separator : Char) (text : Text) :
    separator :: text = (text.splitOn separator).flatMap (separator :: ·) := by
  have joined := cons_intercalate separator (List.splitOn_ne_nil separator text)
  rwa [List.intercalate_splitOn] at joined

theorem splitOn_flatMap_cons {separator : Char} {pieces : List Text} (some : pieces ≠ [])
    (whole : ∀ piece ∈ pieces, separator ∉ piece) :
    (pieces.flatMap (separator :: ·)).splitOn separator = [] :: pieces := by
  have joined : [] ++ separator :: [separator].intercalate pieces =
      pieces.flatMap (separator :: ·) := cons_intercalate separator some
  rw [← joined, List.splitOn_append_cons_self_of_not_mem List.not_mem_nil,
    List.splitOn_intercalate separator whole some]

namespace Cursor

variable {lexicon : Lexicon} {place stop : Cursor} {piece : Piece} {letter : Char}

theorem Severs.of_atClosing (closing : place.AtClosing) : place.Severs := by
  obtain ⟨letter, found, isClosing⟩ := closing
  exact Or.inr (Or.inl ⟨letter, found, (isFirm_of_closes isClosing).1⟩)

theorem Severs.next_of_atClosing (closing : place.AtClosing) : place.next.Severs := by
  obtain ⟨letter, found, isClosing⟩ := closing.before_next
  exact Or.inr (Or.inr ⟨letter, found, (isFirm_of_closes isClosing).1⟩)

theorem clean_next_of_atClosing (regular : lexicon.Regular) (closing : place.AtClosing) :
    lexicon.Clean place.next := by
  obtain ⟨letter, found, isClosing⟩ := closing.before_next
  obtain ⟨firm, notFeed⟩ := isFirm_of_closes isClosing
  exact Lexicon.clean_of_isFirm regular found firm notFeed

/-! ## Blocks and statements -/

theorem severable_of_block? (regular : lexicon.Regular) (brace : place.rest.head? = some '\x7b')
    (found : place.block? = some piece) :
    place.next ≤ piece.start ∧ piece.Severable lexicon := by
  obtain ⟨close, closed, rfl⟩ := Option.map_eq_some_iff.mp found
  refine ⟨le_refl _, next_le_matchingClose? closed brace rfl, ?_, ?_⟩
  · exact Lexicon.clean_of_isFirm regular (before_next brace) rfl (by decide)
  · exact .of_atClosing (matchingClose?_eq_some closed).2

theorem Severs.of_isFirm (before rest : Text) (firm : isFirm letter = true) :
    (⟨before, letter :: rest⟩ : Cursor).Severs :=
  Or.inr (Or.inl ⟨letter, rfl, firm⟩)

theorem le_and_severs_of_next {before rest : Text}
    (further : ⟨letter :: before, rest⟩ ≤ stop ∧ stop.Severs) :
    ⟨before, letter :: rest⟩ ≤ stop ∧ stop.Severs :=
  ⟨le_trans (le_next ⟨before, letter :: rest⟩) further.1, further.2⟩

/-- A statement goes on from where it starts to a place that severs. -/
theorem statementEnd?_eq_some {feedsEnd first : Bool} {depth : Nat} {before rest : Text}
    (found : statementEnd? feedsEnd first depth before rest = some stop) :
    ⟨before, rest⟩ ≤ stop ∧ stop.Severs := by
  fun_induction statementEnd? feedsEnd first depth before rest
  case case1 =>
    cases found
    exact ⟨le_refl _, Or.inl rfl⟩
  case case2 inductionHypothesis | case4 inductionHypothesis | case9 inductionHypothesis =>
    exact le_and_severs_of_next (inductionHypothesis found)
  case case3 before letter rest _ closing =>
    cases found
    refine ⟨le_refl _, .of_isFirm before rest ?_⟩
    simp only [Bool.or_eq_true, decide_eq_true_eq] at closing
    rcases closing with rfl | rfl <;> rfl
  case case5 block =>
    obtain ⟨close, closed, rfl⟩ := Option.map_eq_some_iff.mp found
    obtain ⟨behind, closing⟩ := matchingClose?_eq_some closed
    exact ⟨le_trans behind (le_next close), .next_of_atClosing closing⟩
  case case6 before letter rest _ _ _ brace =>
    simp only [Bool.and_eq_true, decide_eq_true_eq] at brace
    cases found
    refine ⟨le_refl _, .of_isFirm before rest ?_⟩
    rw [brace.2]
    rfl
  case case7 before letter rest _ _ _ _ semicolon =>
    -- The semicolon belongs to the statement, so it stands in front of the end.
    simp only [Bool.and_eq_true, decide_eq_true_eq] at semicolon
    cases found
    refine ⟨le_next ⟨before, letter :: rest⟩, Or.inr (Or.inr ⟨letter, rfl, ?_⟩)⟩
    rw [semicolon.2]
    rfl
  case case8 before letter rest _ _ _ _ _ feed =>
    simp only [Bool.and_eq_true, decide_eq_true_eq] at feed
    cases found
    refine ⟨le_refl _, .of_isFirm before rest ?_⟩
    rw [feed.1.1.2]
    rfl

/-- The body behind a header that ends with a clean place. -/
theorem severable_of_bodyAfter? (regular : lexicon.Regular) {feedsEnd : Bool}
    (clean : lexicon.Clean place) (found : place.bodyAfter? feedsEnd = some piece) :
    place ≤ piece.start ∧ piece.Severable lexicon := by
  have order : place ≤ place.skipBlank := le_skipBlank place
  simp only [bodyAfter?] at found
  split at found
  · cases found
  · rename_i letter rest split
    have head : place.skipBlank.rest.head? = some letter := by rw [split]; rfl
    split at found
    · rename_i brace
      obtain ⟨start, severable⟩ := severable_of_block? regular (brace ▸ head) found
      exact ⟨le_trans order (le_trans (le_next _) start), severable⟩
    · obtain ⟨stop, ended, rfl⟩ := Option.map_eq_some_iff.mp found
      obtain ⟨behind, severs⟩ := statementEnd?_eq_some ended
      exact ⟨order, behind, clean.skipBlank regular head, severs⟩

/-! ## Indented lines -/

theorem rest_lineEnd (place : Cursor) :
    place.lineEnd.rest = [] ∨ place.lineEnd.rest.head? = some '\n' := by
  cases split : place.lineEnd.rest with
  | nil => exact Or.inl rfl
  | cons letter rest =>
      have stopped := List.head?_dropWhile_not (fun letter => decide (letter ≠ '\n')) place.rest
      rw [show place.rest.dropWhile (fun letter => decide (letter ≠ '\n')) = letter :: rest
        from split] at stopped
      simp only [List.head?_cons, decide_not, Bool.not_eq_false', decide_eq_true_eq] at stopped
      exact Or.inr (by rw [stopped]; rfl)

theorem severs_of_feed (ends : place.rest = [] ∨ place.rest.head? = some '\n') : place.Severs := by
  rcases ends with none | feed
  · exact Or.inl none
  · exact Or.inr (Or.inl ⟨'\n', feed, rfl⟩)

theorem lineEnd_next (found : place.rest.head? = some letter) (notFeed : letter ≠ '\n') :
    place.next.lineEnd = place.lineEnd := by
  rcases place with ⟨before, _ | ⟨first, rest⟩⟩
  · cases found
  · cases found
    simp [next, lineEnd, skipWhile, notFeed]

theorem foldr_length_lines (lines : List Text) :
    lines.foldr (fun line behind => line.length + 1 + behind) 0 =
      (lines.flatMap ('\n' :: ·)).length := by
  induction lines with
  | nil => rfl
  | cons line lines inductionHypothesis =>
      rw [List.foldr_cons, inductionHypothesis, List.flatMap_cons, List.length_append,
        List.length_cons]

/-- Some lines in a row, from the line feed in front of the first, end where a line ends. -/
theorem rest_skip_lines {lines : List Text} (more : List Text)
    (split : place.rest = (lines ++ more).flatMap ('\n' :: ·)) :
    let letters := lines.foldr (fun line behind => line.length + 1 + behind) 0
    (place.skip letters).rest = [] ∨ (place.skip letters).rest.head? = some '\n' := by
  intro letters
  have behind : (place.skip letters).rest = more.flatMap ('\n' :: ·) := by
    rw [skip, split, List.flatMap_append, show letters = _ from foldr_length_lines lines,
      List.drop_left]
  rw [behind]
  cases more with
  | nil => exact Or.inl rfl
  | cons line more => exact Or.inr rfl

/-- The body of a header that ends with a colon. -/
theorem severable_of_suite? (regular : lexicon.Regular) (noBlocks : lexicon.blockComments = false)
    (colon : place.rest.head? = some ':') (found : place.suite? = some piece) :
    place.next ≤ piece.start ∧ piece.Severable lexicon := by
  have clean : lexicon.Clean place.next :=
    Lexicon.clean_of_isFirm regular (before_next colon) rfl (by decide)
  have sameLine : place.next.lineEnd = place.lineEnd := lineEnd_next colon (by decide)
  have order : place.next ≤ place.lineEnd := by
    rw [← sameLine]
    exact le_lineEnd place.next
  simp only [suite?] at found
  split at found
  · cases found
    exact ⟨le_refl _, order, clean, severs_of_feed (rest_lineEnd place)⟩
  · rename_i blank
    split at found
    · cases found
    · rename_i some
      cases found
      simp only [Bool.not_eq_true', Bool.not_eq_false, ← sameLine] at blank
      rcases rest_lineEnd place with none | feed
      · simp [none] at some
      -- Only blanks stand between the colon and the end of its line, where the body starts.
      · have lineClean : lexicon.Clean place.lineEnd := by
          rw [← sameLine] at feed ⊢
          exact clean.lineEnd regular noBlocks blank feed
        refine ⟨order, le_skip _ _, lineClean, severs_of_feed ?_⟩
        obtain ⟨tail, split⟩ := List.head?_eq_some_iff.mp feed
        have below : (place.lineEnd.rest.splitOn '\n').drop 1 = tail.splitOn '\n' := by
          rw [split, ← List.nil_append ('\n' :: tail),
            List.splitOn_append_cons_self_of_not_mem (by simp), List.drop_one, List.tail_cons]
        rw [below]
        -- The body is made of the first of the lines below, so it stops where one of them ends.
        have front : ∀ deeper : Text → Bool,
            ((tail.splitOn '\n').takeWhile deeper).rdropWhile Text.blank <+: tail.splitOn '\n' :=
          fun deeper => (List.rdropWhile_prefix Text.blank _).trans (List.takeWhile_prefix deeper)
        obtain ⟨more, whole⟩ := front fun line =>
          Text.blank line || decide (place.indentation < Text.blankWidth line)
        refine rest_skip_lines more ?_
        calc place.lineEnd.rest
            _ = '\n' :: tail := split
            _ = (tail.splitOn '\n').flatMap ('\n' :: ·) := cons_eq_flatMap_splitOn '\n' tail
            _ = _ := congrArg (List.flatMap ('\n' :: ·)) whole.symm

end Cursor

end InputDemand

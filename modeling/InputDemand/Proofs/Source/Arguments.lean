import InputDemand.Source.Calls
import InputDemand.Proofs.Source.Brackets
import Mathlib.Data.List.DropRight

/-!
# Where arguments stand

An argument of a call comes with the byte position at which it stands in the text.  Splitting a list
only drops the separators, and trimming only drops blanks at the ends, so the text can be cut at
the ends of every argument, and at the ends of the call.
-/

namespace InputDemand

/-- A piece stands in a text at a byte position. -/
def Text.Holds (text : Text) (offset : Nat) (piece : Text) : Prop :=
  ∃ front back, text = front ++ (piece ++ back) ∧ Text.size front = offset

/-- A span covers a piece of a text. -/
def Span.LiesIn (span : Span) (text : Text) : Prop :=
  ∃ piece, text.Holds span.start piece ∧ span.stop = span.start + Text.size piece

namespace Text

variable {text piece part : Text} {offset inset : Nat}

namespace Holds

theorem inside (outer : text.Holds offset piece) (inner : piece.Holds inset part) :
    text.Holds (offset + inset) part := by
  obtain ⟨front, back, rfl, rfl⟩ := outer
  obtain ⟨ahead, behind, rfl, rfl⟩ := inner
  refine ⟨front ++ ahead, behind ++ back, ?_, Text.size_append front ahead⟩
  simp only [List.append_assoc]

theorem at? (holds : text.Holds offset piece) : ∃ place, Cursor.at? text offset = .ok place := by
  obtain ⟨front, back, rfl, rfl⟩ := holds
  refine ⟨⟨front.reverse, piece ++ back⟩, Cursor.at?_eq_ok_iff.mpr ⟨?_, ?_⟩⟩
  · rw [Cursor.text, List.reverse_reverse]
  · exact Text.size_reverse front

theorem trim (holds : text.Holds offset piece) :
    text.Holds (offset + blankWidth piece) (trim piece) := by
  refine holds.inside ?_
  obtain ⟨dropped, split⟩ := List.rdropWhile_prefix isBlank (piece.dropWhile isBlank)
  refine ⟨piece.takeWhile isBlank, dropped, ?_, rfl⟩
  calc piece
      _ = piece.takeWhile isBlank ++ piece.dropWhile isBlank :=
        List.takeWhile_append_dropWhile.symm
      _ = _ := congrArg (piece.takeWhile isBlank ++ ·) split.symm

end Holds

theorem holds_zero (piece back : Text) : (piece ++ back).Holds 0 piece :=
  ⟨[], back, rfl, rfl⟩

/-- Pieces that were separated by one byte each stand where they are said to. -/
theorem holds_of_mem_located {separator : Char} (narrow : separator.utf8Size = 1)
    {pieces : List Text} {start : Nat} (member : (offset, piece) ∈ located start pieces) :
    ∃ inset, offset = start + inset ∧ Holds ([separator].intercalate pieces) inset piece := by
  induction pieces generalizing start with
  | nil => cases member
  | cons first pieces inductionHypothesis =>
      rcases List.mem_cons.mp member with here | later
      · cases here
        refine ⟨0, rfl, ?_⟩
        cases pieces with
        | nil =>
            rw [List.intercalate_singleton]
            simpa using holds_zero piece []
        | cons second pieces =>
            rw [List.intercalate_cons_cons, List.append_assoc]
            exact holds_zero piece _
      · obtain ⟨inset, rfl, holds⟩ := inductionHypothesis later
        refine ⟨size first + 1 + inset, by omega, ?_⟩
        cases pieces with
        | nil => cases later
        | cons second pieces =>
            rw [List.intercalate_cons_cons]
            refine Holds.inside ⟨first ++ [separator], [], ?_, ?_⟩ holds
            · rw [List.append_nil]
            · rw [size_append, size_cons, narrow, size_nil]

theorem splitOutsideFrom_ne_nil (separator : Char) (depth : Int) (begun rest : Text) :
    splitOutsideFrom separator depth begun rest ≠ [] := by
  fun_induction splitOutsideFrom separator depth begun rest <;> simp_all

/-- Splitting a list only drops the separators. -/
theorem intercalate_splitOutsideFrom (separator : Char) (depth : Int) (begun rest : Text) :
    [separator].intercalate (splitOutsideFrom separator depth begun rest) =
      begun.reverse ++ rest := by
  fun_induction splitOutsideFrom separator depth begun rest with
  | case1 => simp
  | case2 depth begun letter rest isOpening inductionHypothesis => simp [inductionHypothesis]
  | case3 depth begun letter rest _ isClosing inductionHypothesis => simp [inductionHypothesis]
  | case4 depth begun letter rest _ _ separates inductionHypothesis =>
      simp only [Bool.and_eq_true, decide_eq_true_eq] at separates
      rw [List.intercalate_cons_of_ne_nil (splitOutsideFrom_ne_nil _ _ _ _), inductionHypothesis,
        separates.1]
      simp
  | case5 depth begun letter rest _ _ _ inductionHypothesis => simp [inductionHypothesis]

theorem holds_of_mem_arguments (member : (offset, piece) ∈ arguments text) :
    text.Holds offset piece := by
  obtain ⟨⟨start, whole⟩, located, trimmed⟩ := List.mem_filterMap.mp member
  have narrow : Char.utf8Size ',' = 1 := rfl
  obtain ⟨inset, stands, holds⟩ := holds_of_mem_located narrow located
  rw [splitOutside, intercalate_splitOutsideFrom, List.reverse_nil, List.nil_append] at holds
  rw [Nat.zero_add] at stands
  simp only at trimmed
  split at trimmed
  · cases trimmed
  · cases trimmed
    rw [stands]
    exact holds.trim

theorem Holds.slice (holds : text.Holds offset piece) :
    Text.slice text ⟨offset, offset + size piece⟩ = .ok piece := by
  obtain ⟨front, back, rfl, rfl⟩ := holds
  exact slice_append front piece back

theorem holds_of_slice {span : Span} (cut : Text.slice text span = .ok piece) :
    text.Holds span.start piece ∧ span.stop = span.start + size piece := by
  unfold Text.slice at cut
  split at cut
  · cases cut
  · rename_i front back found
    obtain ⟨split, sized⟩ := cut?_eq_some_iff.mp found
    split at cut
    · rename_i order
      split at cut
      · cases cut
      · rename_i inside behind found
        cases cut
        obtain ⟨inner, taken⟩ := cut?_eq_some_iff.mp found
        refine ⟨⟨front, behind, by rw [split, inner], sized⟩, ?_⟩
        omega
    · cases cut

theorem Holds.behind (holds : text.Holds offset piece) : text.Holds (offset + size piece) [] := by
  obtain ⟨front, back, rfl, rfl⟩ := holds
  exact ⟨front ++ piece, back, by simp, size_append front piece⟩

end Text

namespace Span

variable {span : Span} {text : Text}

theorem LiesIn.slice (lies : span.LiesIn text) : ∃ piece, Text.slice text span = .ok piece := by
  obtain ⟨piece, holds, stop⟩ := lies
  have whole : span = ⟨span.start, span.start + Text.size piece⟩ := by rw [← stop]
  rw [whole]
  exact ⟨piece, holds.slice⟩

theorem LiesIn.at? (lies : span.LiesIn text) : ∃ place, Cursor.at? text span.stop = .ok place := by
  obtain ⟨piece, holds, stop⟩ := lies
  rw [stop]
  exact holds.behind.at?

end Span

namespace Cursor

variable {start opening other : Cursor} {offset : Nat} {argument : Text}

theorem holds_textUpTo (order : start ≤ other) :
    start.text.Holds start.offset (start.textUpTo other) := by
  refine ⟨start.before.reverse, other.rest, ?_, Text.size_reverse start.before⟩
  rw [← rest_eq_textUpTo_append order, text]

theorem liesIn_spanUpTo (order : start ≤ other) : (start.spanUpTo other).LiesIn start.text :=
  ⟨start.textUpTo other, holds_textUpTo order, offset_eq_add_textUpTo order⟩

/-- The arguments of a call stand in the text. -/
theorem holds_of_mem_callArguments (bracket : opening.rest.head? = some '(')
    (member : (offset, argument) ∈ opening.callArguments) :
    opening.text.Holds offset argument := by
  unfold callArguments at member
  split at member
  · cases member
  · rename_i close closed
    obtain ⟨⟨inset, argument⟩, listed, same⟩ := List.mem_map.mp member
    cases same
    have order := next_le_matchingClose? closed bracket rfl
    rw [← text_next]
    exact (holds_textUpTo order).inside (Text.holds_of_mem_arguments listed)

/-- A call lies in the text, whether its bracket is closed or not. -/
theorem liesIn_callSpan (bracket : opening.rest.head? = some '(') (order : start ≤ opening) :
    (callSpan start opening).LiesIn start.text := by
  unfold callSpan
  cases closed : opening.matchingClose? with
  | none =>
      have lies := liesIn_spanUpTo (le_trans order (le_next opening))
      rwa [spanUpTo, offset_next bracket] at lies
  | some close =>
      obtain ⟨behind, letter, found, isClosing⟩ := matchingClose?_eq_some closed
      have lies := liesIn_spanUpTo (le_trans order (le_trans behind (le_next close)))
      have narrow : letter.utf8Size = 1 := by
        simp only [closes, Bool.or_eq_true, decide_eq_true_eq] at isClosing
        rcases isClosing with (rfl | rfl) | rfl <;> rfl
      rwa [spanUpTo, offset_next found, narrow] at lies

end Cursor

end InputDemand

import InputDemand.Pane.Source
import InputDemand.Proofs.Text.Place

/-!
# Highlighting loses no character

The fragments of a highlighted line, one behind the other, are the line.  Each of them is a word, a
literal, a comment or a single sign, in the style of its kind, and so none is empty.
-/

namespace InputDemand

namespace Line

theorem text_cons (fragment : Fragment) (line : Line) :
    Line.text (fragment :: line) = fragment.text ++ Line.text line :=
  List.flatMap_cons

theorem text_append (front back : Line) :
    Line.text (front ++ back) = Line.text front ++ Line.text back :=
  List.flatMap_append

theorem text_map_style (line : Line) (style : Style) :
    Line.text (line.map fun fragment => { fragment with style }) = Line.text line := by
  rw [Line.text, List.flatMap_map]
  rfl

end Line

namespace Highlight

variable {signs : List Text} {held : Held} {rest : Text} {fragment : Fragment}

/-- What has been begun stands in front of the rest of the line, whichever way it goes on. -/
theorem text_fragments (signs : List Text) (held : Held) (rest : Text) :
    (fragments signs held rest).text = held.text ++ rest := by
  fun_induction fragments signs held rest with
  | case1 word => simp [Held.text]
  | case2 quote escaped text => simp [Line.text, Held.text]
  | case3 word letter rest commented =>
      rw [Line.text_append, text_wordFragment, Line.text_cons]
      simp [Line.text, Held.text]
  | case4 word letter rest bare quote inductionHypothesis =>
      rw [Line.text_append, text_wordFragment, inductionHypothesis]
      rfl
  | case5 word letter rest bare noQuote inside inductionHypothesis =>
      rw [inductionHypothesis, Held.text, List.append_assoc]
      rfl
  | case6 word letter rest bare noQuote outside inductionHypothesis =>
      rw [Line.text_append, text_wordFragment, Line.text_cons, inductionHypothesis]
      rfl
  | case7 quote text letter rest inductionHypothesis =>
      rw [inductionHypothesis, Held.text, List.append_assoc]
      rfl
  | case8 quote escaped text rest bare inductionHypothesis =>
      rw [inductionHypothesis, Held.text, List.append_assoc]
      rfl
  | case9 escaped text quote rest bare noEscape inductionHypothesis =>
      rw [Line.text_cons, inductionHypothesis, List.append_assoc]
      rfl
  | case10 quote escaped text letter rest bare noEscape inside inductionHypothesis =>
      rw [inductionHypothesis, Held.text, List.append_assoc]
      rfl

/-! ## What the fragments are -/

/-- A word, a literal from its quote on, a comment or a sign, in the style of its kind. -/
inductive Piece (signs : List Text) : Fragment → Prop where
  | word {text : Text} (called : Bool) (someLetter : text ≠ [])
      (letters : ∀ letter ∈ text, inWord letter = true) :
      Piece signs ⟨text, wordStyle called text⟩
  | literal {quote : Char} (contents : Text) (opens : quote = '"' ∨ quote = '\'') :
      Piece signs ⟨quote :: contents, .ink Palette.string⟩
  | comment {letter : Char} {text : Text}
      (opens : ∃ sign ∈ signs, sign <+: letter :: text) :
      Piece signs ⟨letter :: text, .ink Palette.comment⟩
  | sign {letter : Char} (outside : inWord letter = false) :
      Piece signs ⟨[letter], signStyle letter⟩

theorem Piece.text_ne_nil (piece : Piece signs fragment) : fragment.text ≠ [] := by
  cases piece with
  | word called someLetter letters => exact someLetter
  | literal contents opens => exact List.cons_ne_nil _ _
  | comment opens => exact List.cons_ne_nil _ _
  | sign outside => exact List.cons_ne_nil _ _

/-- What can have been begun: a word of letters, or a literal with its quote. -/
def Held.Begun : Held → Prop
  | .word text => ∀ letter ∈ text, inWord letter = true
  | .literal quote _ text => (quote = '"' ∨ quote = '\'') ∧ ∃ contents, text = quote :: contents

theorem Held.begun_nil : (Held.word []).Begun :=
  fun _ member => absurd member List.not_mem_nil

theorem Held.Begun.append {quote : Char} {escaped : Bool} {text : Text}
    (begun : (Held.literal quote escaped text).Begun) (letter : Char) (escaped' : Bool) :
    (Held.literal quote escaped' (text ++ [letter])).Begun := by
  obtain ⟨opens, contents, rfl⟩ := begun
  exact ⟨opens, contents ++ [letter], rfl⟩

theorem Held.Begun.piece {quote : Char} {escaped : Bool} {text : Text}
    (begun : (Held.literal quote escaped text).Begun) :
    Piece signs ⟨text, .ink Palette.string⟩ := by
  obtain ⟨opens, contents, rfl⟩ := begun
  exact .literal contents opens

theorem piece_of_mem_wordFragment {called : Bool} {word : Text} (begun : (Held.word word).Begun)
    (member : fragment ∈ wordFragment called word) : Piece signs fragment := by
  cases word with
  | nil => exact absurd member List.not_mem_nil
  | cons letter word =>
      rw [List.mem_singleton.mp member]
      exact .word called (List.cons_ne_nil _ _) begun

theorem piece_of_mem_fragments (begun : held.Begun)
    (member : fragment ∈ fragments signs held rest) : Piece signs fragment := by
  fun_induction fragments signs held rest with
  | case1 word => exact piece_of_mem_wordFragment begun member
  | case2 quote escaped text =>
      rw [List.mem_singleton.mp member]
      exact begun.piece
  | case3 word letter rest commented =>
      rcases List.mem_append.mp member with member | member
      · exact piece_of_mem_wordFragment begun member
      · rw [List.mem_singleton.mp member]
        obtain ⟨sign, known, starts⟩ := List.any_eq_true.mp commented
        exact .comment ⟨sign, known, List.isPrefixOf_iff_prefix.mp starts⟩
  | case4 word letter rest bare quote inductionHypothesis =>
      rcases List.mem_append.mp member with member | member
      · exact piece_of_mem_wordFragment begun member
      · exact inductionHypothesis ⟨by simpa using quote, [], rfl⟩ member
  | case5 word letter rest bare noQuote inside inductionHypothesis =>
      refine inductionHypothesis ?_ member
      intro other inside'
      rcases List.mem_append.mp inside' with inside' | inside'
      · exact begun other inside'
      · rwa [List.mem_singleton.mp inside']
  | case6 word letter rest bare noQuote outside inductionHypothesis =>
      rcases List.mem_append.mp member with member | member
      · exact piece_of_mem_wordFragment begun member
      · rcases List.mem_cons.mp member with rfl | member
        · exact .sign (Bool.eq_false_iff.mpr outside)
        · exact inductionHypothesis Held.begun_nil member
  | case7 quote text letter rest inductionHypothesis =>
      exact inductionHypothesis (begun.append letter false) member
  | case8 quote escaped text rest bare inductionHypothesis =>
      exact inductionHypothesis (begun.append '\\' true) member
  | case9 escaped text quote rest bare noEscape inductionHypothesis =>
      rcases List.mem_cons.mp member with rfl | member
      · exact (begun.append quote escaped).piece
      · exact inductionHypothesis Held.begun_nil member
  | case10 quote escaped text letter rest bare noEscape inside inductionHypothesis =>
      exact inductionHypothesis (begun.append letter false) member

end Highlight

/-! ## Highlighted lines -/

variable (language : Language)

theorem highlight_keeps_text (line : Text) : (highlight language line).text = line :=
  Highlight.text_fragments language.commentSigns (.word []) line

theorem piece_of_mem_highlight {line : Text} {fragment : Fragment}
    (member : fragment ∈ highlight language line) :
    Highlight.Piece language.commentSigns fragment :=
  Highlight.piece_of_mem_fragments Highlight.Held.begun_nil member

/-- The texts of the fragments make up the line, and every fragment is the piece of the line that
starts at the byte where the fragments in front of it end. -/
theorem text_highlight (line : Text) :
    (highlight language line).text = line ∧
      ∀ (front back : Line) (fragment : Fragment),
        highlight language line = front ++ fragment :: back →
          fragment.text ≠ [] ∧
            Text.slice line
                ⟨Text.size front.text, Text.size front.text + Text.size fragment.text⟩ =
              .ok fragment.text := by
  have whole := highlight_keeps_text language line
  refine ⟨whole, fun front back fragment split => ⟨?_, ?_⟩⟩
  · have member : fragment ∈ highlight language line := by
      rw [split]
      exact List.mem_append_right front List.mem_cons_self
    exact (piece_of_mem_highlight language member).text_ne_nil
  · have pieces : line = front.text ++ (fragment.text ++ back.text) := by
      rw [← whole, split, Line.text_append, Line.text_cons]
    rw [pieces]
    exact Text.slice_append _ _ _

/-- A literal without an end, and a character of several bytes in it. -/
example : (highlight .python "x = \"open é".toList).map Fragment.text =
    ["x".toList, " ".toList, "=".toList, " ".toList, "\"open é".toList] := by
  decide

namespace SourcePane

/-- In the pane a line stands behind its bar, its number and its mark, whether or not it is the line
of the open question. -/
theorem text_line (marks : SourceMarks) (number : Nat) (source : Text) :
    (line language marks number source).text =
      Line.text ((line language marks number source).take 3) ++ source := by
  unfold line
  rw [Line.text_append, List.take_left']
  · congr 1
    split
    · rw [Line.text_map_style, highlight_keeps_text]
    · exact highlight_keeps_text language source
  · rfl

end SourcePane

end InputDemand

import InputDemand.Source.Brackets
import InputDemand.Proofs.Text.Place

/-!
# Where brackets close

The bracket that closes another lies behind it in the same text.
-/

namespace InputDemand

namespace Cursor

/-- The place is at a bracket that closes. -/
def AtClosing (place : Cursor) : Prop :=
  ∃ letter, place.rest.head? = some letter ∧ closes letter = true

variable {opening close place : Cursor} {letter : Char}

theorem closeFrom?_eq_some {depth : Nat} {before rest : Text}
    (found : closeFrom? depth before rest = some close) :
    ⟨before, rest⟩ ≤ close ∧ close.AtClosing := by
  induction rest generalizing depth before with
  | nil => cases found
  | cons letter rest inductionHypothesis =>
      have step : (⟨before, letter :: rest⟩ : Cursor) ≤ ⟨letter :: before, rest⟩ :=
        le_next ⟨before, letter :: rest⟩
      unfold closeFrom? at found
      split at found
      · obtain ⟨behind, closing⟩ := inductionHypothesis found
        exact ⟨le_trans step behind, closing⟩
      · split at found
        · rename_i closing
          split at found
          · cases found
          · cases found
            exact ⟨le_refl _, letter, rfl, closing⟩
          · obtain ⟨behind, closing⟩ := inductionHypothesis found
            exact ⟨le_trans step behind, closing⟩
        · obtain ⟨behind, closing⟩ := inductionHypothesis found
          exact ⟨le_trans step behind, closing⟩

theorem matchingClose?_eq_some (found : opening.matchingClose? = some close) :
    opening ≤ close ∧ close.AtClosing :=
  closeFrom?_eq_some found

theorem next_le_matchingClose? (found : opening.matchingClose? = some close)
    (atOpening : opening.rest.head? = some letter) (isOpening : opens letter = true) :
    opening.next ≤ close := by
  rcases opening with ⟨before, _ | ⟨first, rest⟩⟩
  · cases atOpening
  · cases atOpening
    unfold matchingClose? closeFrom? at found
    rw [if_pos isOpening] at found
    exact (closeFrom?_eq_some found).1

theorem AtClosing.before_next (closing : close.AtClosing) :
    ∃ letter, close.next.before.head? = some letter ∧ closes letter = true := by
  obtain ⟨letter, found, isClosing⟩ := closing
  exact ⟨letter, Cursor.before_next found, isClosing⟩

theorem AtClosing.offset_lt_next (closing : close.AtClosing) :
    close.offset < close.next.offset := by
  obtain ⟨letter, found, _⟩ := closing
  exact Cursor.offset_lt_next found

end Cursor

end InputDemand

import InputDemand.Proofs.Source.Agree
import InputDemand.Proofs.Source.Clean

/-!
# Reading literals is safe

A literal is cut out of the source at places where quotes show in the masked form.  These are places
of the source as well, so the cut is never refused.
-/

namespace InputDemand

namespace Cursor

variable {lexicon : Lexicon} {source : Text} {place close : Cursor} {quote letter : Char}

/-- The source can be cut at two places of its masked form if something shows behind both, or in
front. -/
theorem exists_slice {start stop : Nat} (starts : ∃ there : Cursor,
    there.text = source ∧ there.offset = start)
    (stops : ∃ there : Cursor, there.text = source ∧ there.offset = stop) (order : start ≤ stop) :
    ∃ piece, Text.slice source ⟨start, stop⟩ = .ok piece := by
  obtain ⟨one, text, rfl⟩ := starts
  obtain ⟨other, same, rfl⟩ := stops
  have behind := le_of_offset_le (text.trans same.symm) order
  refine ⟨one.textUpTo other, ?_⟩
  rw [← text]
  exact slice_spanUpTo behind

theorem ne_blank_of_isQuote (isQuote : Text.isQuote quote = true) : quote ≠ ' ' := by
  rintro rfl
  revert isQuote
  decide

theorem before_skip_replicate (count : Nat)
    (starts : List.replicate (count + 1) quote <+: place.rest) :
    (place.skip (count + 1)).before.head? = some quote := by
  obtain ⟨behind, split⟩ := starts
  have taken : place.rest.take (count + 1) = List.replicate (count + 1) quote := by
    rw [← split, List.take_left' (List.length_replicate)]
  rw [skip, taken, List.reverse_replicate]
  rfl

/-- The contents of a literal can be cut out of the source. -/
theorem exists_contents (masked : lexicon.mask source = place.text)
    (isQuote : Text.isQuote quote = true) (count : Nat)
    (starts : List.replicate (count + 1) quote <+: place.rest)
    (found : (place.skip (count + 1)).find? (List.replicate (count + 1) quote) = some close) :
    ∃ contents, Text.slice source ((place.skip (count + 1)).spanUpTo close) = .ok contents := by
  -- Quotes show, so the places next to them are places of the source as well.
  have visible := ne_blank_of_isQuote isQuote
  obtain ⟨order, closes⟩ := find?_eq_some found
  have body : lexicon.mask source = (place.skip (count + 1)).text :=
    masked.trans (text_skip _ place).symm
  have behind := Lexicon.exists_place_behind_visible visible body
    (before_skip_replicate count starts)
  have atClose : close.rest.head? = some quote := by
    obtain ⟨rest, split⟩ := closes
    rw [← split]
    rfl
  obtain ⟨there, text, offset, _⟩ :=
    Lexicon.exists_place_of_visible visible (body.trans (text_eq_of_le order)) atClose
  exact exists_slice behind ⟨there, text, offset⟩ (offset_le_of_le order)

/-- What opens with some quotes is read up to as many quotes. -/
theorem exists_delimited (masked : lexicon.mask source = place.text)
    (isQuote : Text.isQuote quote = true) (count : Nat)
    (starts : List.replicate (count + 1) quote <+: place.rest) :
    ∃ literal?, (match (place.skip (count + 1)).find? (List.replicate (count + 1) quote) with
      | none => .ok none
      | some close => do
          let contents ← Text.slice source ((place.skip (count + 1)).spanUpTo close)
          return some (Text.unescape contents, close.skip (count + 1)) :
        Except Misplaced (Option (Text × Cursor))) = .ok literal? := by
  split
  · exact ⟨none, rfl⟩
  · rename_i close found
    obtain ⟨contents, cut⟩ := exists_contents masked isQuote count starts found
    rw [cut]
    exact ⟨_, rfl⟩

/-- Looking for a literal at a place of the masked source is never refused. -/
theorem exists_literal? (masked : lexicon.mask source = place.text) :
    ∃ literal?, place.literal? source = .ok literal? := by
  unfold literal?
  cases rest : place.rest with
  | nil => exact ⟨none, rfl⟩
  | cons quote behind =>
      by_cases isQuote : Text.isQuote quote = true
      · have single : List.replicate 1 quote <+: place.rest := by
          rw [rest]
          exact ⟨behind, rfl⟩
        have head : place.rest.head? = some quote := by
          rw [rest]
          rfl
        obtain ⟨there, text, offset, _⟩ :=
          Lexicon.exists_place_of_visible (ne_blank_of_isQuote isQuote) masked head
        have same : at? source place.offset = .ok there := at?_eq_ok_iff.mpr ⟨text, offset⟩
        simp only [isQuote, Bool.not_true, Bool.false_eq_true, if_false]
        split
        · rename_i triple
          rw [← rest, List.isPrefixOf_iff_prefix] at triple
          refine exists_ok_bind ⟨there, same⟩ fun there _ => ?_
          refine exists_ok_bind ⟨_, rfl⟩ fun isTriple _ => ?_
          cases isTriple with
          | false => exact exists_delimited masked isQuote 0 single
          | true => exact exists_delimited masked isQuote 2 triple
        · exact exists_delimited masked isQuote 0 single
      · simp only [isQuote, Bool.not_false, if_true]
        exact ⟨none, rfl⟩

/-- Looking for the lone literal of an argument is never refused. -/
theorem exists_soleLiteral? (marks : List Char) (masked : lexicon.mask source = place.text) :
    ∃ literal?, place.soleLiteral? source marks = .ok literal? := by
  unfold soleLiteral?
  have argument : ∀ count, lexicon.mask source = (place.skipBlank.skip count).text := by
    intro count
    rw [masked, text_skip, skipBlank, text_skipWhile]
  refine exists_ok_bind (exists_literal? (argument _)) fun literal? _ => ?_
  cases literal? with
  | none => exact ⟨none, rfl⟩
  | some literal =>
      obtain ⟨contents, stop⟩ := literal
      by_cases ends : Text.endsArgument (stop.skipWhile isIndent).rest = true
      · exact ⟨_, if_pos ends⟩
      · exact ⟨_, if_neg ends⟩

end Cursor

end InputDemand

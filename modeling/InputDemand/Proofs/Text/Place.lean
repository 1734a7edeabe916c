import InputDemand.Text.Cursor
import Mathlib.Order.Defs.PartialOrder

/-!
# The order of places in a text

A place comes before another if scanning on from it comes to the other; both are places of one text
then.  Byte positions follow this order, the piece between two places is what they are apart, and
cutting the text at their positions gives that piece.
-/

namespace InputDemand

namespace Cursor

/-- Scanning on from a place passes over some characters and comes to another place. -/
instance : LE Cursor where
  le one other := ∃ passed : Text,
    one.rest = passed ++ other.rest ∧ other.before = passed.reverse ++ one.before

instance : Preorder Cursor where
  le_refl place := ⟨[], rfl, rfl⟩
  le_trans := by
    rintro one other third ⟨first, rest, before⟩ ⟨second, rest', before'⟩
    refine ⟨first ++ second, ?_, ?_⟩
    · rw [rest, rest', List.append_assoc]
    · rw [before', before, List.reverse_append, List.append_assoc]

variable {one other place : Cursor} {letter : Char}

theorem text_eq_of_le (order : one ≤ other) : one.text = other.text := by
  obtain ⟨passed, rest, before⟩ := order
  rw [text, text, rest, before, List.reverse_append, List.reverse_reverse, List.append_assoc]

theorem offset_le_of_le (order : one ≤ other) : one.offset ≤ other.offset := by
  obtain ⟨passed, rest, before⟩ := order
  rw [offset, offset, before, Text.size_append]
  exact Nat.le_add_left _ _

theorem offset_le_size (place : Cursor) : place.offset ≤ Text.size place.text := by
  rw [offset, text, Text.size_append, Text.size_reverse]
  exact Nat.le_add_right _ _

/-- Of two places of one text the one at the lesser position comes first. -/
theorem le_of_offset_le (same : one.text = other.text) (order : one.offset ≤ other.offset) :
    one ≤ other := by
  rw [text, text] at same
  rcases List.append_eq_append_iff.mp same with ⟨passed, front, back⟩ | ⟨passed, front, back⟩
  · refine ⟨passed, back, ?_⟩
    have reversed := congrArg List.reverse front
    rwa [List.reverse_reverse, List.reverse_append, List.reverse_reverse] at reversed
  · have sized := congrArg Text.size front
    rw [Text.size_append, Text.size_reverse, Text.size_reverse] at sized
    have nothing : passed = [] := by
      cases passed with
      | nil => rfl
      | cons letter passed =>
          have positive := letter.utf8Size_pos
          rw [Text.size_cons] at sized
          rw [offset, offset] at order
          omega
    rw [nothing, List.append_nil, List.reverse_inj] at front
    rw [nothing, List.nil_append] at back
    exact ⟨[], back.symm, front.symm⟩

/-! ## Moving a place -/

theorem le_next (place : Cursor) : place ≤ place.next := by
  rcases place with ⟨before, _ | ⟨letter, rest⟩⟩
  · exact le_refl _
  · exact ⟨[letter], rfl, rfl⟩

theorem offset_next (found : place.rest.head? = some letter) :
    place.next.offset = place.offset + letter.utf8Size := by
  rcases place with ⟨before, _ | ⟨first, rest⟩⟩
  · cases found
  · cases found
    exact Nat.add_comm _ _

theorem offset_lt_next (found : place.rest.head? = some letter) :
    place.offset < place.next.offset := by
  rw [offset_next found]
  exact Nat.lt_add_of_pos_right letter.utf8Size_pos

theorem before_next (found : place.rest.head? = some letter) :
    place.next.before.head? = some letter := by
  rcases place with ⟨before, _ | ⟨first, rest⟩⟩
  · cases found
  · exact found

theorem back_le (place : Cursor) : place.back ≤ place := by
  rcases place with ⟨_ | ⟨letter, before⟩, rest⟩
  · exact le_refl _
  · exact ⟨[letter], rfl, rfl⟩

theorem rest_back (found : place.before.head? = some letter) :
    place.back.rest.head? = some letter := by
  rcases place with ⟨_ | ⟨first, before⟩, rest⟩
  · cases found
  · exact found

theorem next_back (found : place.before.head? = some letter) : place.back.next = place := by
  rcases place with ⟨_ | ⟨first, before⟩, rest⟩
  · cases found
  · rfl

theorem le_skipWhile (skip : Char → Bool) (place : Cursor) : place ≤ place.skipWhile skip :=
  ⟨place.rest.takeWhile skip, List.takeWhile_append_dropWhile.symm, rfl⟩

theorem le_skip (count : Nat) (place : Cursor) : place ≤ place.skip count :=
  ⟨place.rest.take count, (List.take_append_drop count place.rest).symm, rfl⟩

theorem text_skip (count : Nat) (place : Cursor) : (place.skip count).text = place.text :=
  (text_eq_of_le (le_skip count place)).symm

theorem le_skipBlank (place : Cursor) : place ≤ place.skipBlank :=
  le_skipWhile isBlank place

theorem le_lineEnd (place : Cursor) : place ≤ place.lineEnd :=
  le_skipWhile _ place

/-- Skipping stops at a character that is not to be skipped. -/
theorem skipWhile_le {skip : Char → Bool} (order : one ≤ other)
    (found : other.rest.head? = some letter) (kept : skip letter = false) :
    one.skipWhile skip ≤ other := by
  obtain ⟨passed, rest, before⟩ := order
  obtain ⟨behind, split⟩ : ∃ behind, other.rest = letter :: behind :=
    List.head?_eq_some_iff.mp found
  induction passed generalizing one with
  | nil =>
      refine ⟨[], ?_, ?_⟩
      · simp [skipWhile, rest, split, kept]
      · simp [skipWhile, rest, split, kept, before]
  | cons first passed inductionHypothesis =>
      by_cases skipped : skip first = true
      · have step : one.skipWhile skip = one.next.skipWhile skip := by
          rcases one with ⟨ahead, here⟩
          subst rest
          simp [skipWhile, next, skipped]
        rw [step]
        refine inductionHypothesis ?_ ?_
        · rcases one with ⟨ahead, here⟩
          subst rest
          rfl
        · rcases one with ⟨ahead, here⟩
          subst rest
          simpa [next] using before
      · refine ⟨first :: passed, ?_, ?_⟩
        · simp [skipWhile, rest, skipped]
        · simp [skipWhile, rest, skipped, before]

theorem find?_go_eq_some {word before rest : Text}
    (found : find?.go word before rest = some place) :
    ⟨before, rest⟩ ≤ place ∧ word <+: place.rest := by
  induction rest generalizing before with
  | nil =>
      unfold find?.go at found
      split at found
      · rename_i empty
        cases found
        rw [List.isEmpty_iff.mp empty]
        exact ⟨le_refl _, List.nil_prefix⟩
      · cases found
  | cons letter rest inductionHypothesis =>
      unfold find?.go at found
      split at found
      · rename_i starts
        cases found
        exact ⟨le_refl _, List.isPrefixOf_iff_prefix.mp starts⟩
      · obtain ⟨behind, starts⟩ := inductionHypothesis found
        exact ⟨le_trans (le_next ⟨before, letter :: rest⟩) behind, starts⟩

theorem find?_eq_some {word : Text} (found : one.find? word = some other) :
    one ≤ other ∧ word <+: other.rest :=
  find?_go_eq_some found

/-! ## The piece between two places -/

theorem rest_eq_textUpTo_append (order : one ≤ other) :
    one.rest = one.textUpTo other ++ other.rest := by
  obtain ⟨passed, rest, before⟩ := order
  simp [textUpTo, rest]

theorem before_eq_textUpTo_append (order : one ≤ other) :
    other.before = (one.textUpTo other).reverse ++ one.before := by
  obtain ⟨passed, rest, before⟩ := order
  simp [textUpTo, rest, before]

theorem offset_eq_add_textUpTo (order : one ≤ other) :
    other.offset = one.offset + Text.size (one.textUpTo other) := by
  rw [offset, before_eq_textUpTo_append order, Text.size_append, Text.size_reverse, offset,
    Nat.add_comm]

theorem textUpTo_of_rest {text : Text} (split : one.rest = text ++ other.rest) :
    one.textUpTo other = text := by
  rw [textUpTo, split, List.length_append, Nat.add_sub_cancel, List.take_left]

theorem eq_of_le_of_rest {text rest : Text} (order : one ≤ other)
    (split : one.rest = text ++ rest) (ahead : other.rest = rest) :
    other = ⟨text.reverse ++ one.before, rest⟩ := by
  subst ahead
  have before := before_eq_textUpTo_append order
  rw [textUpTo_of_rest split] at before
  rw [← before]

theorem textUpTo_skipWhile (skip : Char → Bool) (place : Cursor) :
    place.textUpTo (place.skipWhile skip) = place.rest.takeWhile skip := by
  have split := rest_eq_textUpTo_append (le_skipWhile skip place)
  have whole : place.rest.takeWhile skip ++ place.rest.dropWhile skip = place.rest :=
    List.takeWhile_append_dropWhile
  exact List.append_cancel_right (split.symm.trans whole.symm)

/-! ## The place at or behind a position -/

theorem cutFrom_append (text : Text) (offset : Nat) :
    (Text.cutFrom text offset).1 ++ (Text.cutFrom text offset).2 = text := by
  induction text generalizing offset with
  | nil => cases offset <;> rfl
  | cons letter text inductionHypothesis =>
      cases offset with
      | zero => rfl
      | succ offset => exact congrArg (letter :: ·) (inductionHypothesis _)

theorem le_size_cutFrom {text : Text} {offset : Nat} (inside : offset ≤ Text.size text) :
    offset ≤ Text.size (Text.cutFrom text offset).1 := by
  induction text generalizing offset with
  | nil =>
      rw [Nat.le_zero.mp inside]
      exact Nat.zero_le _
  | cons letter text inductionHypothesis =>
      cases offset with
      | zero => exact Nat.zero_le _
      | succ offset =>
          rw [Text.size_cons] at inside
          have behind : offset + 1 - letter.utf8Size ≤ Text.size text := by omega
          have further := inductionHypothesis behind
          simp only [Text.cutFrom, Text.size_cons]
          omega

theorem text_seek (text : Text) (offset : Nat) : (seek text offset).text = text := by
  simpa [seek, Cursor.text] using cutFrom_append text offset

theorem seek_zero (text : Text) : seek text 0 = start text := by
  cases text <;> rfl

theorem le_offset_seek {text : Text} {offset : Nat} (inside : offset ≤ Text.size text) :
    offset ≤ (seek text offset).offset := by
  simpa [seek, Cursor.offset] using le_size_cutFrom inside

end Cursor

/-- A text between two others is what cutting at its ends gives. -/
theorem Text.slice_append (front inside back : Text) :
    Text.slice (front ++ (inside ++ back))
        ⟨Text.size front, Text.size front + Text.size inside⟩ = .ok inside := by
  have first : Text.cut? (front ++ (inside ++ back)) (Text.size front) =
      some (front, inside ++ back) :=
    Text.cut?_eq_some_iff.mpr ⟨rfl, rfl⟩
  have second : Text.cut? (inside ++ back) (Text.size inside) = some (inside, back) :=
    Text.cut?_eq_some_iff.mpr ⟨rfl, rfl⟩
  simp [slice, first, second]

theorem Cursor.slice_spanUpTo {one other : Cursor} (order : one ≤ other) :
    Text.slice one.text (one.spanUpTo other) = .ok (one.textUpTo other) := by
  have split : one.text = one.before.reverse ++ (one.textUpTo other ++ other.rest) := by
    rw [← rest_eq_textUpTo_append order, text]
  have ends : one.spanUpTo other = ⟨Text.size one.before.reverse,
      Text.size one.before.reverse + Text.size (one.textUpTo other)⟩ := by
    rw [spanUpTo, offset_eq_add_textUpTo order, Text.size_reverse, offset]
  rw [split, ends]
  exact Text.slice_append _ _ _

end InputDemand

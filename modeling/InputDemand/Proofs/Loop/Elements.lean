import InputDemand.Proofs.Loop.Range

/-!
# Lists of elements

An element of a list holds commas only inside brackets, and its brackets close each other.  So the
bracket that opens the list is closed behind its last element, and as many elements are counted as
are listed.
-/

namespace InputDemand

/-- A text whose brackets close each other. -/
inductive Text.Balanced : Text → Prop
  | nil : Balanced []
  | letter {letter : Char} {text : Text} : isUnbracketed letter = true → Balanced text →
      Balanced (letter :: text)
  | brackets {opening closing : Char} {inside text : Text} : opens opening = true →
      closes closing = true → Balanced inside → Balanced text →
      Balanced (opening :: (inside ++ closing :: text))

/-- A text whose brackets close each other, without commas outside all brackets. -/
inductive Text.IsElement : Text → Prop
  | nil : IsElement []
  | letter {letter : Char} {text : Text} : isUnbracketed letter = true → letter ≠ ',' →
      IsElement text → IsElement (letter :: text)
  | brackets {opening closing : Char} {inside text : Text} : opens opening = true →
      closes closing = true → Balanced inside → IsElement text →
      IsElement (opening :: (inside ++ closing :: text))

/-- The number of elements that a text lists between brackets. -/
inductive Text.Lists : Text → Nat → Prop
  | none {gap : Text} : blank gap = true → Lists gap 0
  | elements {elements : List Text} {text : Text} : ListsArguments elements text →
      (∀ element ∈ elements, IsElement element ∧ trim element ≠ []) → Lists text elements.length

namespace Text

variable {text items : Text} {count : Nat}

/-! ## Commas inside brackets -/

theorem opens_eq_false {closing : Char} (isClosing : closes closing = true) :
    opens closing = false := by
  simp only [closes, Bool.or_eq_true, decide_eq_true_eq] at isClosing
  rcases isClosing with (rfl | rfl) | rfl <;> rfl

theorem splitOutsideFrom_of_opens {separator opening : Char} (isOpening : opens opening = true)
    (depth : Int) (begun rest : Text) : splitOutsideFrom separator depth begun (opening :: rest) =
      splitOutsideFrom separator (depth + 1) (opening :: begun) rest := by
  rw [splitOutsideFrom, if_pos isOpening]

theorem splitOutsideFrom_of_closes {separator closing : Char} (isClosing : closes closing = true)
    (depth : Int) (begun rest : Text) :
    splitOutsideFrom separator (depth + 1) begun (closing :: rest) =
      splitOutsideFrom separator depth (closing :: begun) rest := by
  rw [splitOutsideFrom, opens_eq_false isClosing, isClosing, Int.add_sub_cancel]
  rfl

theorem splitOutsideFrom_of_unbracketed {separator letter : Char} {depth : Int}
    (unbracketed : isUnbracketed letter = true) (within : letter ≠ separator ∨ depth ≠ 0)
    (begun rest : Text) : splitOutsideFrom separator depth begun (letter :: rest) =
      splitOutsideFrom separator depth (letter :: begun) rest := by
  rw [isUnbracketed, Bool.and_eq_true, Bool.not_eq_true', Bool.not_eq_true'] at unbracketed
  have unsplit : (decide (letter = separator) && decide (depth = 0)) = false := by
    simpa only [Bool.and_eq_false_iff, decide_eq_false_iff_not] using within
  rw [splitOutsideFrom, unbracketed.1, unbracketed.2, unsplit]
  rfl

theorem Balanced.splitOutsideFrom {separator : Char} (balanced : Balanced text) {depth : Int}
    (inBrackets : 0 < depth) (begun rest : Text) :
    Text.splitOutsideFrom separator depth begun (text ++ rest) =
      Text.splitOutsideFrom separator depth (text.reverse ++ begun) rest := by
  induction balanced generalizing depth begun rest with
  | nil => rfl
  | letter unbracketed _ inductionHypothesis =>
      rw [List.cons_append,
        splitOutsideFrom_of_unbracketed unbracketed (Or.inr (Int.ne_of_gt inBrackets)),
        inductionHypothesis inBrackets, List.reverse_cons, List.append_assoc]
      rfl
  | brackets isOpening isClosing _ _ insideHypothesis behindHypothesis =>
      rw [List.cons_append, splitOutsideFrom_of_opens isOpening, List.append_assoc,
        insideHypothesis (Int.lt_add_one_of_le (Int.le_of_lt inBrackets)), List.cons_append,
        splitOutsideFrom_of_closes isClosing, behindHypothesis inBrackets]
      simp

theorem IsElement.undivided (isElement : IsElement text) : Undivided ',' text := by
  intro begun rest
  induction isElement generalizing begun rest with
  | nil => rfl
  | letter unbracketed noComma _ inductionHypothesis =>
      rw [List.cons_append, splitOutsideFrom_of_unbracketed unbracketed (Or.inl noComma),
        inductionHypothesis, List.reverse_cons, List.append_assoc]
      rfl
  | brackets isOpening isClosing balanced _ inductionHypothesis =>
      rw [List.cons_append, splitOutsideFrom_of_opens isOpening, List.append_assoc,
        balanced.splitOutsideFrom (by decide), List.cons_append,
        splitOutsideFrom_of_closes isClosing, inductionHypothesis]
      simp

theorem Lists.length_arguments (lists : Lists items count) : (arguments items).length = count := by
  rw [← List.length_map Prod.snd]
  cases lists with
  | none blankGap =>
      have undivided : Undivided ',' items :=
        (unsplit_of_isPlain List.mem_cons_self (all_isPlain_of_blank blankGap)).undivided
      rw [map_snd_arguments, undivided.splitOutside, List.map_singleton, trim_of_blank blankGap]
      rfl
  | elements lists isElement =>
      rw [lists.map_snd_arguments_of_undivided fun element member =>
        ⟨(isElement element member).1.undivided, (isElement element member).2⟩, List.length_map]

/-! ## Closing brackets -/

theorem Balanced.append {front back : Text} (balancedFront : Balanced front)
    (balancedBack : Balanced back) : Balanced (front ++ back) := by
  induction balancedFront with
  | nil => exact balancedBack
  | letter unbracketed _ inductionHypothesis => exact .letter unbracketed inductionHypothesis
  | brackets isOpening isClosing inside _ _ behindHypothesis =>
      rw [List.cons_append, List.append_assoc]
      exact .brackets isOpening isClosing inside behindHypothesis

theorem Balanced.of_all (unbracketed : text.all isUnbracketed = true) : Balanced text := by
  induction text with
  | nil => exact .nil
  | cons letter text inductionHypothesis =>
      rw [List.all_cons, Bool.and_eq_true] at unbracketed
      exact .letter unbracketed.1 (inductionHypothesis unbracketed.2)

theorem Balanced.of_blank (isBlank : blank text = true) : Balanced text :=
  .of_all (List.all_eq_true.mpr fun letter member =>
    (Bool.and_eq_true_iff.mp (List.all_eq_true.mp (all_isPlain_of_blank isBlank) letter member)).1)

theorem IsElement.balanced (isElement : IsElement text) : Balanced text := by
  induction isElement with
  | nil => exact .nil
  | letter unbracketed _ _ inductionHypothesis => exact .letter unbracketed inductionHypothesis
  | brackets isOpening isClosing inside _ inductionHypothesis =>
      exact .brackets isOpening isClosing inside inductionHypothesis

theorem Lists.balanced (lists : Lists items count) : Balanced items := by
  cases lists with
  | none blankGap => exact .of_blank blankGap
  | elements lists isElement =>
      have comma : ∀ {text}, Balanced text → Balanced (',' :: text) := .letter rfl
      induction lists with
      | last => exact (isElement _ List.mem_cons_self).1.balanced
      | closed blankGap =>
          exact (isElement _ List.mem_cons_self).1.balanced.append (comma (.of_blank blankGap))
      | next _ inductionHypothesis =>
          exact (isElement _ List.mem_cons_self).1.balanced.append (comma (inductionHypothesis
            fun later member => isElement later (List.mem_cons_of_mem _ member)))

end Text

/-- The search for a closing bracket passes over brackets that close each other. -/
theorem Cursor.closeFrom?_of_balanced {text : Text} (balanced : Text.Balanced text) (depth : Nat)
    (before rest : Text) : closeFrom? (depth + 1) before (text ++ rest) =
      closeFrom? (depth + 1) (text.reverse ++ before) rest := by
  induction balanced generalizing depth before rest with
  | nil => rfl
  | letter unbracketed _ inductionHypothesis =>
      rw [List.cons_append, closeFrom?_of_unbracketed unbracketed, inductionHypothesis,
        List.reverse_cons, List.append_assoc]
      rfl
  | brackets isOpening isClosing _ _ insideHypothesis behindHypothesis =>
      rw [List.cons_append, closeFrom?_of_opens isOpening, List.append_assoc, insideHypothesis,
        List.cons_append, closeFrom?_of_closes (Text.opens_eq_false isClosing) isClosing,
        behindHypothesis]
      simp

/-- The bracket that opens a list is closed behind its elements. -/
theorem Cursor.matchingClose?_of_balanced {opening closing : Char} {items : Text}
    (balanced : Text.Balanced items) (isOpening : opens opening = true)
    (isClosing : closes closing = true) (before rest : Text) :
    matchingClose? ⟨before, opening :: (items ++ closing :: rest)⟩ =
      some ⟨items.reverse ++ opening :: before, closing :: rest⟩ := by
  rw [matchingClose?, closeFrom?_of_opens isOpening, closeFrom?_of_balanced balanced,
    closeFrom?_one (Text.opens_eq_false isClosing) isClosing]

end InputDemand

import InputDemand.Proofs.Program.Template
import InputDemand.Source.Brackets

/-!
# Brackets and separators in filled templates

Names hold no brackets and no separators, so a template tells where its brackets close and where it
is split.
-/

namespace InputDemand

def isUnbracketed (letter : Char) : Bool :=
  !opens letter && !closes letter

/-- How many brackets deep a template leads from a depth, if it does not close the outermost. -/
def Template.depth? (depth : Nat) : Template → Option Nat
  | [] => some depth
  | .name _ :: template => depth? depth template
  | .letter found :: template =>
      if opens found then depth? (depth + 1) template
      else if closes found then
        match depth with
        | 0 | 1 => none
        | depth + 2 => depth? (depth + 1) template
      else depth? depth template

section Close

variable {names : Nat → Text} {before rest : Text} {depth depth' : Nat} {template : Template}
  {letter : Char}

namespace Cursor

theorem closeFrom?_of_opens (isOpening : opens letter = true) :
    closeFrom? depth before (letter :: rest) = closeFrom? (depth + 1) (letter :: before) rest := by
  conv => lhs; unfold closeFrom?
  rw [if_pos isOpening]

theorem closeFrom?_of_unbracketed (unbracketed : isUnbracketed letter = true) :
    closeFrom? depth before (letter :: rest) = closeFrom? depth (letter :: before) rest := by
  rw [isUnbracketed, Bool.and_eq_true, Bool.not_eq_true', Bool.not_eq_true'] at unbracketed
  conv => lhs; unfold closeFrom?
  rw [unbracketed.1, unbracketed.2]
  rfl

theorem closeFrom?_of_closes (noOpening : opens letter = false) (isClosing : closes letter = true) :
    closeFrom? (depth + 2) before (letter :: rest) =
      closeFrom? (depth + 1) (letter :: before) rest := by
  conv => lhs; unfold closeFrom?
  rw [noOpening, isClosing]
  rfl

theorem closeFrom?_one (noOpening : opens letter = false) (isClosing : closes letter = true) :
    closeFrom? 1 before (letter :: rest) = some ⟨before, letter :: rest⟩ := by
  unfold closeFrom?
  rw [noOpening, isClosing]
  rfl

theorem closeFrom?_append {text : Text} (unbracketed : text.all isUnbracketed = true) :
    closeFrom? depth before (text ++ rest) = closeFrom? depth (text.reverse ++ before) rest := by
  induction text generalizing before with
  | nil => rfl
  | cons letter text inductionHypothesis =>
      rw [List.all_cons, Bool.and_eq_true] at unbracketed
      rw [List.cons_append, closeFrom?_of_unbracketed unbracketed.1, List.reverse_cons,
        List.append_assoc]
      exact inductionHypothesis unbracketed.2

/-- The search for a closing bracket passes over a template that does not close the outermost. -/
theorem closeFrom?_fill (areNames : ∀ index, Text.isName (names index) = true)
    (leads : Template.depth? depth template = some depth') :
    closeFrom? depth before (fill names template ++ rest) =
      closeFrom? depth' ((fill names template).reverse ++ before) rest := by
  induction template generalizing depth before with
  | nil =>
      cases leads
      rfl
  | cons sign template inductionHypothesis =>
      rw [fill_cons, List.reverse_append, List.append_assoc, List.append_assoc]
      cases sign with
      | name index =>
          have passed : passedByNames isUnbracketed = true := by decide +kernel
          rw [Sign.fill, closeFrom?_append (Text.all_of_isName passed (areNames index))]
          exact inductionHypothesis leads
      | letter found =>
          show closeFrom? depth before (found :: (fill names template ++ rest)) = _
          unfold Template.depth? at leads
          split at leads
          · rename_i isOpening
            rw [closeFrom?_of_opens isOpening]
            exact inductionHypothesis leads
          · rename_i noOpening
            rw [Bool.not_eq_true] at noOpening
            split at leads
            · rename_i isClosing
              -- A bracket that closes the outermost one has no depth behind it.
              rcases depth with _ | _ | depth
              · cases leads
              · cases leads
              · rw [closeFrom?_of_closes noOpening isClosing]
                exact inductionHypothesis leads
            · rename_i noClosing
              rw [Bool.not_eq_true] at noClosing
              rw [closeFrom?_of_unbracketed (by rw [isUnbracketed, noOpening, noClosing]; rfl)]
              exact inductionHypothesis leads

/-- The bracket behind a template that leads from an opening bracket into no other. -/
theorem matchingClose?_fill (areNames : ∀ index, Text.isName (names index) = true)
    {opening closing : Char} (isOpening : opens opening = true) (noOpening : opens closing = false)
    (isClosing : closes closing = true) (leads : Template.depth? 1 template = some 1) :
    matchingClose? ⟨before, opening :: (fill names template ++ closing :: rest)⟩ =
      some ⟨(fill names template).reverse ++ opening :: before, closing :: rest⟩ := by
  rw [matchingClose?, closeFrom?_of_opens isOpening, closeFrom?_fill areNames leads,
    closeFrom?_one noOpening isClosing]

end Cursor

end Close

section Split

variable {separator : Char} {depth : Int} {begun text rest : Text}

/-- Splitting goes on behind letters that are neither brackets nor separators. -/
theorem Text.splitOutsideFrom_append
    (plain : text.all (fun letter => isUnbracketed letter && letter != separator) = true) :
    splitOutsideFrom separator depth begun (text ++ rest) =
      splitOutsideFrom separator depth (text.reverse ++ begun) rest := by
  induction text generalizing begun with
  | nil => rfl
  | cons letter text inductionHypothesis =>
      rw [List.all_cons, Bool.and_eq_true, isUnbracketed, Bool.and_eq_true, Bool.and_eq_true,
        Bool.not_eq_true', Bool.not_eq_true', bne_iff_ne] at plain
      obtain ⟨⟨⟨noOpen, noClose⟩, other⟩, others⟩ := plain
      have unsplit : (decide (letter = separator) && decide (depth = 0)) = false := by
        rw [decide_eq_false other, Bool.false_and]
      rw [List.cons_append, splitOutsideFrom, noOpen, noClose, unsplit, List.reverse_cons,
        List.append_assoc]
      exact inductionHypothesis others

theorem Text.splitOutsideFrom_eq
    (plain : text.all (fun letter => isUnbracketed letter && letter != separator) = true) :
    splitOutsideFrom separator depth begun text = [begun.reverse ++ text] := by
  have whole := @splitOutsideFrom_append separator depth begun text [] plain
  rw [List.append_nil] at whole
  rw [whole, splitOutsideFrom, List.reverse_append, List.reverse_reverse]

theorem Text.splitOutside_append (noBracket : isUnbracketed separator = true)
    (plain : text.all (fun letter => isUnbracketed letter && letter != separator) = true) :
    splitOutside separator (text ++ separator :: rest) = text :: splitOutside separator rest := by
  rw [isUnbracketed, Bool.and_eq_true, Bool.not_eq_true', Bool.not_eq_true'] at noBracket
  rw [splitOutside, splitOutsideFrom_append plain, splitOutsideFrom, noBracket.1, noBracket.2]
  simp [splitOutside]

theorem Text.splitOutside_eq
    (plain : text.all (fun letter => isUnbracketed letter && letter != separator) = true) :
    splitOutside separator text = [text] :=
  splitOutsideFrom_eq plain

theorem Text.arguments_eq
    (plain : text.all (fun letter => isUnbracketed letter && letter != ',') = true)
    (trimmed : trim text = text) (visible : text ≠ []) :
    arguments text = [(blankWidth text, text)] := by
  have some : text.isEmpty = false := List.isEmpty_eq_false_iff.mpr visible
  rw [arguments, splitOutside_eq plain, located, located, List.filterMap_cons, List.filterMap_nil]
  simp only [trimmed, some, Nat.zero_add, Bool.false_eq_true, if_false]

end Split

end InputDemand

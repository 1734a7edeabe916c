import InputDemand.Proofs.Text.Names
import InputDemand.Text.Basic
import Mathlib.Data.List.Induction

/-!
# Texts with names filled in

A template is a text with holes for names.  What is asked of a text here looks at a name only as at
a run of name letters, so it can be decided on the template for all names at once.
-/

namespace InputDemand

/-- A sign of a template: a letter, or a hole for the name with an index. -/
inductive Sign where
  | letter (letter : Char)
  | name (index : Nat)
deriving DecidableEq, Repr

/-- A text with holes for names. -/
abbrev Template := List Sign

namespace Template

instance : Coe String Template := ⟨fun text => text.toList.map Sign.letter⟩

def name (index : Nat) : Template :=
  [.name index]

end Template

def Sign.fill (names : Nat → Text) : Sign → Text
  | .letter found => [found]
  | .name index => names index

/-- A template with its holes filled. -/
def fill (names : Nat → Text) (template : Template) : Text :=
  template.flatMap (Sign.fill names)

section Fill

variable {names : Nat → Text} {template : Template}

@[simp]
theorem Sign.fill_letter (found : Char) : Sign.fill names (.letter found) = [found] := rfl

@[simp]
theorem Sign.fill_name (index : Nat) : Sign.fill names (.name index) = names index := rfl

@[simp]
theorem fill_nil : fill names [] = [] := rfl

@[simp]
theorem fill_cons (sign : Sign) (template : Template) :
    fill names (sign :: template) = sign.fill names ++ fill names template := rfl

@[simp]
theorem fill_append (one other : Template) :
    fill names (one ++ other) = fill names one ++ fill names other :=
  List.flatMap_append

@[simp]
theorem fill_name (index : Nat) : fill names (Template.name index) = names index :=
  List.append_nil _

@[simp]
theorem fill_map_letter (text : Text) : fill names (text.map Sign.letter) = text := by
  induction text with
  | nil => rfl
  | cons letter text inductionHypothesis =>
      rw [List.map_cons, fill_cons, inductionHypothesis]
      rfl

/-- Whether a letter passes a test; names are taken to pass. -/
def Sign.passes (test : Char → Bool) : Sign → Bool
  | .letter found => test found
  | .name _ => true

/-- A test that names pass is passed by a filled template if its letters pass it. -/
theorem all_fill {test : Char → Bool} (passed : passedByNames test = true)
    (areNames : ∀ index, Text.isName (names index) = true)
    (checked : template.all (Sign.passes test) = true) : (fill names template).all test = true := by
  induction template with
  | nil => rfl
  | cons sign template inductionHypothesis =>
      rw [List.all_cons, Bool.and_eq_true] at checked
      rw [fill_cons, List.all_append, inductionHypothesis checked.2, Bool.and_true]
      cases sign with
      | letter found =>
          rw [Sign.fill, List.all_cons, List.all_nil, Bool.and_true]
          exact checked.1
      | name index => exact Text.all_of_isName passed (areNames index)

end Fill

/-! ## Blanks -/

/-- Whether a sign is a blank; names are not. -/
def Sign.isBlank : Sign → Bool
  | .letter found => InputDemand.isBlank found
  | .name _ => false

def Template.trim (template : Template) : Template :=
  ((template.dropWhile Sign.isBlank).reverse.dropWhile Sign.isBlank).reverse

section Trim

variable {names : Nat → Text} {name : Text}

theorem fill_dropWhile_isBlank (areNames : ∀ index, Text.isName (names index) = true)
    (template : Template) :
    (fill names template).dropWhile isBlank = fill names (template.dropWhile Sign.isBlank) := by
  induction template with
  | nil => rfl
  | cons sign template inductionHypothesis =>
      cases sign with
      | letter found =>
          rw [fill_cons, Sign.fill_letter, List.singleton_append, List.dropWhile_cons,
            List.dropWhile_cons, Sign.isBlank, inductionHypothesis]
          split
          · rfl
          · rfl
      | name index =>
          have visible := Text.not_isBlank_of_isName (areNames index)
          obtain ⟨first, more, split, _⟩ := Text.exists_cons_of_isName (areNames index)
          rw [split, List.all_cons, Bool.and_eq_true, Bool.not_eq_true'] at visible
          rw [fill_cons, Sign.fill_name, split, List.cons_append, List.dropWhile_cons, visible.1,
            List.dropWhile_cons, Sign.isBlank]
          simp [split]

theorem fill_rdropWhile_isBlank (areNames : ∀ index, Text.isName (names index) = true)
    (template : Template) :
    ((fill names template).reverse.dropWhile isBlank).reverse =
      fill names ((template.reverse.dropWhile Sign.isBlank).reverse) := by
  -- From the end: the last sign tells whether anything is dropped.
  induction template using List.reverseRecOn with
  | nil => rfl
  | append_singleton template sign inductionHypothesis =>
      rw [List.reverse_append, List.reverse_singleton, List.singleton_append, fill_append,
        List.reverse_append]
      cases sign with
      | letter found =>
          rw [fill_cons, fill_nil, Sign.fill_letter, List.append_nil, List.reverse_singleton,
            List.singleton_append, List.dropWhile_cons, List.dropWhile_cons, Sign.isBlank]
          split
          · exact inductionHypothesis
          · simp
      | name index =>
          have visible : (names index).reverse.all (fun letter => !isBlank letter) = true := by
            rw [List.all_reverse]
            exact Text.not_isBlank_of_isName (areNames index)
          obtain ⟨first, more, split, _⟩ := Text.exists_cons_of_isName (areNames index)
          have reversed : (names index).reverse ≠ [] := by simp [split]
          obtain ⟨last, others, ends⟩ := List.exists_cons_of_ne_nil reversed
          rw [ends, List.all_cons, Bool.and_eq_true, Bool.not_eq_true'] at visible
          rw [fill_cons, fill_nil, Sign.fill_name, List.append_nil, ends, List.cons_append,
            List.dropWhile_cons, visible.1, List.dropWhile_cons, Sign.isBlank]
          simp [← List.cons_append, ← ends]

theorem trim_fill (areNames : ∀ index, Text.isName (names index) = true) (template : Template) :
    Text.trim (fill names template) = fill names template.trim := by
  rw [Text.trim, Text.trimLeftBy, Text.trimRightBy, fill_dropWhile_isBlank areNames,
    fill_rdropWhile_isBlank areNames, Template.trim]

theorem fill_takeWhile_isBlank (areNames : ∀ index, Text.isName (names index) = true)
    (template : Template) :
    (fill names template).takeWhile isBlank = fill names (template.takeWhile Sign.isBlank) := by
  have whole : fill names (template.takeWhile Sign.isBlank) ++
      fill names (template.dropWhile Sign.isBlank) = fill names template := by
    rw [← fill_append, List.takeWhile_append_dropWhile]
  have split : (fill names template).takeWhile isBlank ++ (fill names template).dropWhile isBlank =
      fill names template := List.takeWhile_append_dropWhile
  rw [fill_dropWhile_isBlank areNames] at split
  exact List.append_cancel_right (split.trans whole.symm)

theorem not_blank_fill (areNames : ∀ index, Text.isName (names index) = true) {template : Template}
    (visible : template.any (fun sign => !sign.isBlank) = true) :
    Text.blank (fill names template) = false := by
  obtain ⟨sign, member, shown⟩ := List.any_eq_true.mp visible
  apply List.all_eq_false.mpr
  cases sign with
  | letter found =>
      refine ⟨found, List.mem_flatMap.mpr ⟨_, member, List.mem_singleton_self _⟩, ?_⟩
      rwa [Bool.not_eq_true', Sign.isBlank, ← Bool.not_eq_true] at shown
  | name index =>
      obtain ⟨first, more, split, _⟩ := Text.exists_cons_of_isName (areNames index)
      have inName : first ∈ names index := by rw [split]; exact List.mem_cons_self
      have plain := List.all_eq_true.mp (Text.not_isBlank_of_isName (areNames index)) first inName
      refine ⟨first, List.mem_flatMap.mpr ⟨_, member, inName⟩, ?_⟩
      rwa [Bool.not_eq_true', ← Bool.not_eq_true] at plain

end Trim

end InputDemand

import InputDemand.Demand.Outline
import InputDemand.Proofs.Source.Assignments

/-!
# Rows of assignments

A match of an assignment takes the punctuation behind the number, and the next assignment on the
line needs that punctuation in front of it.  So of the assignments on one line every second one is
found, from the first on.
-/

namespace InputDemand

open Pattern

/-- What stands between two assignments. -/
inductive Separator where
  | semicolon
  | comma
  /-- A semicolon and the end of the line. -/
  | line
deriving DecidableEq, Repr

namespace Separator

def sign : Separator → Char
  | comma => ','
  | semicolon | line => ';'

def gap : Separator → Char
  | line => '\n'
  | semicolon | comma => ' '

def text (separator : Separator) : Text :=
  [separator.sign, separator.gap]

/-- The number of an assignment on its line, behind the one with another number. -/
def follow (separator : Separator) (number : Nat) : Nat :=
  if separator = line then 0 else number + 1

end Separator

namespace Assignment

/-- The text behind the first assignment of a row. -/
def tail : List (Separator × Assignment) → Text
  | [] => [';']
  | (separator, assignment) :: others => separator.text ++ (assignment.text ++ tail others)

/-- A row of assignments, each but the first with what stands in front of it. -/
def row (first : Assignment) (others : List (Separator × Assignment)) : Text :=
  first.text ++ tail others

/-- What the assignments behind some text state, with their numbers on their lines. -/
def numberedBehind (number : Nat) (front : Text) :
    List (Separator × Assignment) → List (Nat × Binding)
  | [] => []
  | (separator, assignment) :: others =>
      (separator.follow number, assignment.binding (front ++ separator.text)) ::
        numberedBehind (separator.follow number) (front ++ separator.text ++ assignment.text) others

def numbered (first : Assignment) (others : List (Separator × Assignment)) : List (Nat × Binding) :=
  (0, first.binding []) :: numberedBehind 0 first.text others

/-- The text of any number of assignments.  What goes with the first one is not written. -/
def written : List (Separator × Assignment) → Text
  | [] => [';']
  | (_, first) :: others => row first others

/-- What any number of assignments state, with their numbers on their lines. -/
def stated : List (Separator × Assignment) → List (Nat × Binding)
  | [] => []
  | (_, first) :: others => numbered first others

/-- The first, the third, the fifth binding of each line and so on. -/
def everySecond (bindings : List (Nat × Binding)) : List Binding :=
  (bindings.filter fun numbered => numbered.1 % 2 = 0).map Prod.snd

theorem everySecond_cons_even {number : Nat} (even : number % 2 = 0) (binding : Binding)
    (others : List (Nat × Binding)) :
    everySecond ((number, binding) :: others) = binding :: everySecond others := by
  simp [everySecond, even]

theorem everySecond_cons_odd {number : Nat} (odd : ¬number % 2 = 0) (binding : Binding)
    (others : List (Nat × Binding)) :
    everySecond ((number, binding) :: others) = everySecond others := by
  simp [everySecond, odd]

/-! ## Searches through rows -/

section Rows

variable {assignment : Assignment} {others : List (Separator × Assignment)} {front : Text}

theorem isEnd_sign (separator : Separator) : isEnd separator.sign = true := by
  cases separator <;> rfl

theorem exists_tail (others : List (Separator × Assignment)) :
    ∃ sign rest, tail others = sign :: rest ∧ isEnd sign = true := by
  cases others with
  | nil => exact ⟨';', [], rfl, rfl⟩
  | cons next others =>
      obtain ⟨separator, assignment⟩ := next
      exact ⟨separator.sign, _, rfl, isEnd_sign separator⟩

/-- The place from which a search goes on behind an assignment: behind its punctuation if the
assignment has been found, and in front of it otherwise. -/
def onward (number : Nat) (front : Text) (others : List (Separator × Assignment)) : Cursor :=
  if number % 2 = 0 then Cursor.next ⟨front.reverse, tail others⟩ else ⟨front.reverse, tail others⟩

theorem onward_of_even {number : Nat} (even : number % 2 = 0) (front : Text)
    (others : List (Separator × Assignment)) :
    onward number front others = Cursor.next ⟨front.reverse, tail others⟩ :=
  if_pos even

theorem onward_of_odd {number : Nat} (odd : ¬number % 2 = 0) (front : Text)
    (others : List (Separator × Assignment)) :
    onward number front others = ⟨front.reverse, tail others⟩ :=
  if_neg odd

theorem exists_hit {place : Cursor} (leads : ways numberAssignment ⟨place, []⟩ =
      ways (many typeWord ++ assignedName)
        ⟨⟨front.reverse, assignment.text ++ tail others⟩, []⟩) :
    ∃ hit, Hunt numberAssignment place [hit]
        (Cursor.next ⟨(front ++ assignment.text).reverse, tail others⟩) ∧
      bindingOf? hit = some (assignment.binding front) := by
  obtain ⟨sign, rest, split, ends⟩ := exists_tail others
  rw [split] at leads ⊢
  obtain ⟨hit, matched, stops, stated⟩ := exists_matchAt? assignment front ends leads
  refine ⟨hit, .hit matched ?_, stated⟩
  rw [stops]
  exact .done _

/-- At the start of a line an assignment is found. -/
theorem exists_hit_line (number : Nat) (assignment : Assignment)
    (others : List (Separator × Assignment)) (inside : atBreak front.reverse.head? = false) :
    ∃ hit, Hunt numberAssignment (onward number front ((.line, assignment) :: others)) [hit]
        (Cursor.next ⟨(front ++ Separator.line.text ++ assignment.text).reverse, tail others⟩) ∧
      bindingOf? hit = some (assignment.binding (front ++ Separator.line.text)) := by
  have feed : Hunt numberAssignment
      ⟨';' :: front.reverse, '\n' :: (assignment.text ++ tail others)⟩ []
      ⟨'\n' :: ';' :: front.reverse, assignment.text ++ tail others⟩ :=
    .past (matchAt?_of_inside rfl rfl) (.done _)
  have toLine : Hunt numberAssignment (onward number front ((.line, assignment) :: others)) []
      ⟨(front ++ Separator.line.text).reverse, assignment.text ++ tail others⟩ := by
    rw [List.reverse_append]
    by_cases even : number % 2 = 0
    · rw [onward_of_even even]
      exact feed
    · rw [onward_of_odd even]
      exact .past (matchAt?_of_last inside rfl (Or.inr rfl)) feed
  have break' : atBreak (front ++ Separator.line.text).reverse.head? = true := by
    rw [List.reverse_append]
    rfl
  obtain ⟨hit, hunt, stated⟩ := exists_hit (ways_of_break break' assignment)
  exact ⟨hit, toLine.append hunt, stated⟩

/-- Behind an assignment that has not been found, the next one on the line is. -/
theorem exists_hit_odd {number : Nat} {separator : Separator} (odd : ¬number % 2 = 0)
    (gap : separator.gap = ' ') (assignment : Assignment) (others : List (Separator × Assignment))
    (inside : atBreak front.reverse.head? = false) :
    ∃ hit, Hunt numberAssignment (onward number front ((separator, assignment) :: others)) [hit]
        (Cursor.next ⟨(front ++ separator.text ++ assignment.text).reverse, tail others⟩) ∧
      bindingOf? hit = some (assignment.binding (front ++ separator.text)) := by
  have place : onward number front ((separator, assignment) :: others) =
      ⟨front.reverse, separator.sign :: ' ' :: (assignment.text ++ tail others)⟩ := by
    rw [onward_of_odd odd, tail, Separator.text, gap]
    rfl
  apply exists_hit
  rw [place, ways_of_sign inside (isEnd_sign separator),
    ways_indent_append rfl (stops_text assignment), Separator.text, gap, List.reverse_append]
  rfl

/-- Behind an assignment that has been found, the next one on the line is not. -/
theorem hunt_even {number : Nat} {separator : Separator} (even : number % 2 = 0)
    (gap : separator.gap = ' ') (assignment : Assignment)
    (others : List (Separator × Assignment)) :
    Hunt numberAssignment (onward number front ((separator, assignment) :: others)) []
      ⟨(front ++ separator.text ++ assignment.text).reverse, tail others⟩ := by
  have place : onward number front ((separator, assignment) :: others) =
      ⟨separator.sign :: front.reverse, ' ' :: assignment.text ++ tail others⟩ := by
    rw [onward_of_even even, tail, Separator.text, gap]
    rfl
  have inner : (' ' :: assignment.text).all isInner = true := by
    rw [List.all_cons, all_isInner_text]
    rfl
  have inside : atBreak (separator.sign :: front.reverse).head? = false := by
    cases separator <;> rfl
  have past := @hunt_inner (separator.sign :: front.reverse) (tail others) _ inside inner
  rw [place]
  simpa [Separator.text, gap] using past

/-- A search behind an assignment finds every second one. -/
theorem exists_hunt_behind (number : Nat) (front : Text) (others : List (Separator × Assignment))
    (inside : atBreak front.reverse.head? = false) :
    ∃ found stop, Hunt numberAssignment (onward number front others) found ⟨stop, []⟩ ∧
      found.filterMap bindingOf? = everySecond (numberedBehind number front others) := by
  -- By induction on the rest of the row.  The number of the assignment in front tells whether it
  -- has been found, and so where the search goes on.
  induction others generalizing number front with
  | nil =>
      by_cases found : number % 2 = 0
      · refine ⟨[], ';' :: front.reverse, ?_, rfl⟩
        rw [onward, if_pos found]
        exact .done _
      · refine ⟨[], ';' :: front.reverse, ?_, rfl⟩
        rw [onward, if_neg found]
        exact .past (matchAt?_of_last inside rfl (Or.inl rfl)) (.done _)
  | cons next others inductionHypothesis =>
      obtain ⟨separator, assignment⟩ := next
      obtain ⟨more, stop, goesOn, same⟩ := inductionHypothesis (separator.follow number)
        (front ++ separator.text ++ assignment.text) (not_atBreak_text assignment _)
      by_cases line : separator = .line
      · subst line
        obtain ⟨hit, hunt, stated⟩ := exists_hit_line number assignment others inside
        refine ⟨hit :: more, stop, hunt.append goesOn, ?_⟩
        rw [List.filterMap_cons_some stated, numberedBehind, everySecond_cons_even rfl, same]
      · have gap : separator.gap = ' ' := by
          cases separator <;> first | rfl | exact absurd rfl line
        have follow : separator.follow number = number + 1 := if_neg line
        rw [follow] at goesOn same
        by_cases even : number % 2 = 0
        · have odd : ¬(number + 1) % 2 = 0 := by omega
          rw [onward_of_odd odd] at goesOn
          refine ⟨more, stop, (hunt_even even gap assignment others).append goesOn, ?_⟩
          rw [numberedBehind, follow, everySecond_cons_odd odd, same]
        · have even' : (number + 1) % 2 = 0 := by omega
          rw [onward_of_even even'] at goesOn
          obtain ⟨hit, hunt, stated⟩ := exists_hit_odd even gap assignment others inside
          refine ⟨hit :: more, stop, hunt.append goesOn, ?_⟩
          rw [List.filterMap_cons_some stated, numberedBehind, follow, everySecond_cons_even even',
            same]

theorem filterMap_findAll_row (first : Assignment) (others : List (Separator × Assignment)) :
    (numberAssignment.findAll (row first others)).filterMap bindingOf? =
      everySecond (numbered first others) := by
  have leads : ways numberAssignment ⟨Cursor.start (row first others), []⟩ =
      ways (many typeWord ++ assignedName) ⟨⟨[].reverse, first.text ++ tail others⟩, []⟩ :=
    ways_of_break rfl first
  obtain ⟨hit, start, stated⟩ := exists_hit leads
  obtain ⟨more, stop, goesOn, same⟩ :=
    exists_hunt_behind 0 first.text others (not_atBreak_text first [])
  have hunt : Hunt numberAssignment (.start (row first others)) (hit :: more) ⟨stop, []⟩ :=
    start.append goesOn
  rw [hunt.findAll (shortens_of_takesLetter rfl), List.filterMap_cons_some stated, same, numbered,
    everySecond_cons_even rfl]

theorem hash_not_mem_row (first : Assignment) (others : List (Separator × Assignment)) :
    '#' ∉ row first others := by
  have plain (assignment : Assignment) : assignment.text.all (· ≠ '#') = true := by
    apply all_text _ rfl
    intro letter named
    rw [decide_eq_true_eq]
    rintro rfl
    cases named
  have behind : (tail others).all (· ≠ '#') = true := by
    induction others with
    | nil => rfl
    | cons next others inductionHypothesis =>
        obtain ⟨separator, assignment⟩ := next
        have signs : separator.text.all (· ≠ '#') = true := by
          cases separator <;> rfl
        rw [tail, List.all_append, List.all_append, signs, plain, inductionHypothesis]
        rfl
  intro member
  have whole : (row first others).all (· ≠ '#') = true := by
    rw [row, List.all_append, plain, behind]
    rfl
  exact of_decide_eq_true (List.all_eq_true.mp whole '#' member) rfl

theorem findAll_numberDefinition_row (first : Assignment)
    (others : List (Separator × Assignment)) :
    numberDefinition.findAll (row first others) = [] := by
  have needs : Needs numberDefinition '#' := by
    unfold numberDefinition
    iterate 6 apply Needs.append_left
    exact Needs.append_right ((needs_letter '#').append_left _) _
  exact needs.findAll_eq_nil (hash_not_mem_row first others)

theorem size_le_of_mem_numberedBehind {number : Nat} {one : Nat × Binding}
    {others : List (Separator × Assignment)} (member : one ∈ numberedBehind number front others) :
    Text.size front ≤ one.2.offset := by
  induction others generalizing number front with
  | nil => cases member
  | cons next others inductionHypothesis =>
      obtain ⟨separator, assignment⟩ := next
      rw [numberedBehind] at member
      cases List.mem_cons.mp member with
      | inl here =>
          rw [here, binding, Text.size_append]
          exact Nat.le_add_right _ _
      | inr later =>
          have further := inductionHypothesis later
          rw [Text.size_append, Text.size_append] at further
          omega

theorem pairwise_numberedBehind (number : Nat) (front : Text)
    (others : List (Separator × Assignment)) :
    (numberedBehind number front others).Pairwise fun one other =>
      one.2.offset ≤ other.2.offset := by
  induction others generalizing number front with
  | nil => exact .nil
  | cons next others inductionHypothesis =>
      obtain ⟨separator, assignment⟩ := next
      apply List.Pairwise.cons _ (inductionHypothesis _ _)
      intro other later
      have further := size_le_of_mem_numberedBehind later
      change Text.size (front ++ separator.text) ≤ other.2.offset
      rw [Text.size_append] at further
      omega

theorem pairwise_everySecond_numbered (first : Assignment)
    (others : List (Separator × Assignment)) :
    (everySecond (numbered first others)).Pairwise fun one other => one.offset ≤ other.offset := by
  have whole : (numbered first others).Pairwise fun one other =>
      one.2.offset ≤ other.2.offset := by
    apply List.Pairwise.cons _ (pairwise_numberedBehind _ _ _)
    exact fun other _ => Nat.zero_le _
  exact (whole.filter _).map Prod.snd fun _ _ order => order

theorem numberBindings_eq_everySecond (first : Assignment)
    (others : List (Separator × Assignment)) :
    numberBindings (row first others) = everySecond (numbered first others) := by
  rw [numberBindings, findAll_numberDefinition_row, List.append_nil, filterMap_findAll_row]
  apply List.mergeSort_of_pairwise
  exact (pairwise_everySecond_numbered first others).imp fun order => decide_eq_true order

/-! ## What a row binds -/

theorem numberedBehind_even_iff {number : Nat} (even : number % 2 = 0)
    (others : List (Separator × Assignment)) :
    (∀ one ∈ numberedBehind number front others, one.1 % 2 = 0) ↔
      ∀ later ∈ others, later.1 = .line := by
  induction others generalizing number front with
  | nil => exact iff_of_true (fun _ member => nomatch member) (fun _ member => nomatch member)
  | cons next others inductionHypothesis =>
      obtain ⟨separator, assignment⟩ := next
      rw [numberedBehind, List.forall_mem_cons, List.forall_mem_cons]
      by_cases line : separator = .line
      · subst line
        exact and_congr (iff_of_true rfl rfl) (inductionHypothesis rfl)
      · have odd : ¬separator.follow number % 2 = 0 := by
          rw [Separator.follow, if_neg line]
          omega
        exact iff_of_false (fun both => odd both.1) (fun both => line both.1)

theorem everySecond_eq_iff (first : Assignment) (others : List (Separator × Assignment)) :
    everySecond (numbered first others) = (numbered first others).map Prod.snd ↔
      ∀ later ∈ others, later.1 = .line := by
  rw [← numberedBehind_even_iff (rfl : 0 % 2 = 0)]
  constructor
  · intro same one member
    have count := congrArg List.length same
    rw [everySecond, List.length_map, List.length_map, List.length_filter_eq_length_iff] at count
    exact of_decide_eq_true (count one (List.mem_cons_of_mem _ member))
  · intro even
    have all : ∀ one ∈ numbered first others, decide (one.1 % 2 = 0) = true :=
      List.forall_mem_cons.mpr ⟨rfl, fun one member => decide_eq_true (even one member)⟩
    rw [everySecond, List.filter_eq_self.mpr all]

theorem numberBindings_written_eq (assignments : List (Separator × Assignment)) :
    numberBindings (written assignments) = everySecond (stated assignments) := by
  cases assignments with
  | nil =>
      have none : numberBindings [';'] = [] := by decide +kernel
      exact none
  | cons first others => exact numberBindings_eq_everySecond first.2 others

theorem everySecond_stated_iff (assignments : List (Separator × Assignment)) :
    everySecond (stated assignments) = (stated assignments).map Prod.snd ↔
      ∀ later ∈ assignments.tail, later.1 = .line := by
  cases assignments with
  | nil => exact iff_of_true rfl (fun _ member => nomatch member)
  | cons first others => exact everySecond_eq_iff first.2 others

end Rows

end Assignment

theorem Outline.valueBefore?_eq (outline : Outline) (name : Text) (offset : Nat) :
    outline.valueBefore? name offset = (outline.bindings.filter fun binding =>
      binding.name = name && binding.offset < offset).getLast?.map Binding.value := by
  rw [valueBefore?, List.getLast?_eq_head?_reverse, ← List.filter_reverse, List.head?_filter]

/-- Of the assignments of a text just every second one on its line is bound, from the first on, with
its name, its value and the position of its name.  So all are bound if each has its own line, and
only then, and the value of a name is that of the last one bound. -/
theorem numberBindings_written (assignments : List (Separator × Assignment)) :
    numberBindings (Assignment.written assignments) =
        Assignment.everySecond (Assignment.stated assignments) ∧
      (numberBindings (Assignment.written assignments) =
          (Assignment.stated assignments).map Prod.snd ↔
        ∀ later ∈ assignments.tail, later.1 = .line) ∧
      ∀ (outline : Outline) (name : Text) (offset : Nat),
        { outline with bindings := numberBindings (Assignment.written assignments) }.valueBefore?
            name offset =
          ((Assignment.everySecond (Assignment.stated assignments)).filter fun binding =>
            binding.name = name && binding.offset < offset).getLast?.map Binding.value := by
  have bound := Assignment.numberBindings_written_eq assignments
  refine ⟨bound, ?_, ?_⟩
  · rw [bound]
    exact Assignment.everySecond_stated_iff assignments
  · intro outline name offset
    rw [bound, Outline.valueBefore?_eq]

/-- The second of two assignments on a line is not bound. -/
theorem numberBindings_pair :
    "a = 1; b = 2;".toList = Assignment.written
        [(.semicolon, ⟨"a".toList, 1, rfl, rfl⟩), (.semicolon, ⟨"b".toList, 2, rfl, rfl⟩)] ∧
      (Assignment.stated
        [(.semicolon, ⟨"a".toList, 1, rfl, rfl⟩), (.semicolon, ⟨"b".toList, 2, rfl, rfl⟩)]).map
          Prod.snd = [⟨"a".toList, 1, 0⟩, ⟨"b".toList, 2, 7⟩] ∧
      numberBindings "a = 1; b = 2;".toList = [⟨"a".toList, 1, 0⟩] := by
  decide +kernel

end InputDemand

import InputDemand.Text.Basic

/-!
# Lines and their numbers

A line feed belongs to the line that it ends.  Which line a byte position stands on is told by the
lines in front of it, without counting line feeds.  Counting the line feeds in front of a position,
and counting the lines of what has been read up to a position, come to the same: the number of lines
of a text is the number of the line on which its last byte stands.
-/

namespace InputDemand

namespace Text

/-- Lines, each with the line feed that ends it. -/
def ended (lines : List Text) : Text :=
  lines.flatMap (· ++ ['\n'])

/-- A byte position stands on the line of a number: on the line itself or at its end, in front of
the line feed, with the lines of smaller numbers in front. -/
inductive OnLine : Text → Nat → Nat → Prop
  | of_split {earlier : List Text} {line later : Text} {offset : Nat} :
      (∀ other ∈ line :: earlier, '\n' ∉ other) → later = [] ∨ ['\n'] <+: later →
      size (ended earlier) ≤ offset → offset ≤ size (ended earlier) + size line →
      OnLine (ended earlier ++ (line ++ later)) offset (earlier.length + 1)

variable {text front back line : Text} {earlier : List Text} {offset other number number' : Nat}

theorem ended_cons (line : Text) (lines : List Text) :
    ended (line :: lines) = line ++ '\n' :: ended lines := by
  rw [ended, List.flatMap_cons, List.append_assoc]
  rfl

/-! ## Line feeds in front of a position -/

theorem feedsBefore_zero (text : Text) : feedsBefore text 0 = 0 := by
  cases text <;> rfl

theorem feedsBefore_le (order : offset ≤ other) :
    feedsBefore text offset ≤ feedsBefore text other := by
  induction text generalizing offset other with
  | nil => exact Nat.le_refl 0
  | cons letter text inductionHypothesis =>
      cases offset with
      | zero =>
          rw [feedsBefore_zero]
          exact Nat.zero_le _
      | succ offset =>
          cases other with
          | zero => exact absurd order (Nat.not_succ_le_zero offset)
          | succ other =>
              apply Nat.add_le_add_left
              apply inductionHypothesis
              omega

theorem feedsBefore_append (fits : offset ≤ size front) (back : Text) :
    feedsBefore (front ++ back) offset = feedsBefore front offset := by
  induction front generalizing offset with
  | nil => rw [Nat.le_zero.mp fits, feedsBefore_zero, feedsBefore_zero]
  | cons letter front inductionHypothesis =>
      cases offset with
      | zero => rfl
      | succ offset =>
          rw [size_cons] at fits
          rw [List.cons_append, feedsBefore, feedsBefore, inductionHypothesis (by omega)]

theorem feedsBefore_add (front back : Text) (offset : Nat) :
    feedsBefore (front ++ back) (size front + offset) =
      feedsBefore front (size front) + feedsBefore back offset := by
  induction front with
  | nil => rw [List.nil_append, size_nil, Nat.zero_add, feedsBefore_zero, Nat.zero_add]
  | cons letter front inductionHypothesis =>
      obtain ⟨width, wide⟩ := Nat.exists_eq_add_one.mpr letter.utf8Size_pos
      have far : size (letter :: front) + offset = width + size front + offset + 1 := by
        rw [size_cons, wide]
        omega
      have near : size (letter :: front) = width + size front + 1 := by
        rw [size_cons, wide]
        omega
      have behind : width + size front + offset + 1 - letter.utf8Size = size front + offset := by
        omega
      have behind' : width + size front + 1 - letter.utf8Size = size front := by omega
      rw [List.cons_append, far, near, feedsBefore, feedsBefore, behind, behind',
        inductionHypothesis, Nat.add_assoc]

theorem feedsBefore_of_not_mem (noFeed : '\n' ∉ line) : feedsBefore line offset = 0 := by
  induction line generalizing offset with
  | nil => rfl
  | cons letter line inductionHypothesis =>
      rw [List.mem_cons, not_or] at noFeed
      cases offset with
      | zero => rfl
      | succ offset => rw [feedsBefore, if_neg (Ne.symm noFeed.1), inductionHypothesis noFeed.2]

theorem feedsBefore_ended (noFeeds : ∀ line ∈ earlier, '\n' ∉ line) :
    feedsBefore (ended earlier) (size (ended earlier)) = earlier.length := by
  induction earlier with
  | nil => rfl
  | cons line earlier inductionHypothesis =>
      have further := inductionHypothesis fun other member => noFeeds other (by simp [member])
      have feed : feedsBefore ('\n' :: ended earlier) (size ('\n' :: ended earlier)) =
          earlier.length + 1 := by
        have whole := feedsBefore_add ['\n'] (ended earlier) (size (ended earlier))
        rw [further] at whole
        rw [Nat.add_comm]
        exact whole
      rw [ended_cons, size_append, feedsBefore_add,
        feedsBefore_of_not_mem (noFeeds line List.mem_cons_self), feed, Nat.zero_add,
        List.length_cons]

/-! ## The line of a position -/

theorem exists_ended (text : Text) : ∃ earlier line, text = ended earlier ++ line ∧
    ∀ other ∈ line :: earlier, '\n' ∉ other := by
  induction text with
  | nil => exact ⟨[], [], rfl, by simp⟩
  | cons letter text inductionHypothesis =>
      obtain ⟨earlier, line, rfl, noFeeds⟩ := inductionHypothesis
      by_cases feed : letter = '\n'
      · subst feed
        exact ⟨[] :: earlier, line, by rw [ended_cons]; rfl, by simpa using noFeeds⟩
      · have extended : ∀ {line : Text}, '\n' ∉ line → '\n' ∉ letter :: line := by
          intro line noFeed member
          exact (List.mem_cons.mp member).elim (fun same => feed same.symm) noFeed
        cases earlier with
        | nil => exact ⟨[], letter :: line, rfl, by simpa using extended (noFeeds line (by simp))⟩
        | cons first earlier =>
            refine ⟨(letter :: first) :: earlier, line, by simp [ended_cons], ?_⟩
            intro other member
            rcases List.mem_cons.mp member with rfl | member
            · exact noFeeds other (by simp)
            · rcases List.mem_cons.mp member with rfl | member
              · exact extended (noFeeds first (by simp))
              · exact noFeeds other (by simp [member])

namespace OnLine

theorem number_eq (onLine : OnLine text offset number) :
    number = feedsBefore text offset + 1 := by
  obtain ⟨noFeeds, ends, start, stop⟩ := onLine
  rename_i earlier line later
  obtain ⟨inset, rfl⟩ := Nat.exists_eq_add_of_le start
  have inLine : feedsBefore (line ++ later) inset = 0 := by
    rw [feedsBefore_append (by omega), feedsBefore_of_not_mem (noFeeds line List.mem_cons_self)]
  have before := feedsBefore_ended fun other member =>
    noFeeds other (List.mem_cons_of_mem line member)
  rw [feedsBefore_add, before, inLine, Nat.add_zero]

theorem le_of_le (onLine : OnLine text offset number) (further : OnLine text other number')
    (order : offset ≤ other) : number ≤ number' := by
  rw [onLine.number_eq, further.number_eq]
  exact Nat.succ_le_succ (feedsBefore_le order)

theorem cons (onLine : OnLine text offset number) (noFeed : '\n' ∉ line) :
    OnLine (line ++ '\n' :: text) (size line + 1 + offset) (number + 1) := by
  obtain ⟨noFeeds, ends, start, stop⟩ := onLine
  rename_i earlier inside later
  have sized : size (ended (line :: earlier)) = size line + 1 + size (ended earlier) := by
    rw [ended_cons, size_append, size_cons, ← Nat.add_assoc]
    rfl
  have split : line ++ '\n' :: (ended earlier ++ (inside ++ later)) =
      ended (line :: earlier) ++ (inside ++ later) := by
    rw [ended_cons, List.append_assoc, List.cons_append]
  rw [split]
  refine .of_split (fun other member => ?_) ends (by omega) (by omega)
  simp only [List.mem_cons] at member noFeeds
  rcases member with rfl | rfl | member
  · exact noFeeds other (Or.inl rfl)
  · exact noFeed
  · exact noFeeds other (Or.inr member)

end OnLine

/-- Every position of a text stands on a line. -/
theorem exists_onLine (inside : offset ≤ size text) : ∃ number, OnLine text offset number := by
  obtain ⟨earlier, line, rfl, noFeeds⟩ := exists_ended text
  induction earlier generalizing offset with
  | nil =>
      have alone := @OnLine.of_split [] line [] offset noFeeds (Or.inl rfl) (Nat.zero_le _)
      rw [List.append_nil] at alone
      exact ⟨1, alone (by simpa [ended] using inside)⟩
  | cons first earlier inductionHypothesis =>
      have noFeed := noFeeds first (by simp)
      rw [ended_cons, List.append_assoc, List.cons_append] at inside ⊢
      rcases Nat.lt_or_ge (size first) offset with beyond | within
      · obtain ⟨inset, rfl⟩ := Nat.exists_eq_add_of_lt beyond
        rw [size_append, size_cons, show Char.utf8Size '\n' = 1 from rfl] at inside
        have others : ∀ other ∈ line :: earlier, '\n' ∉ other := fun other member =>
          noFeeds other (List.cons_subset_cons line (List.subset_cons_self first earlier) member)
        obtain ⟨number, onLine⟩ := inductionHypothesis others (by omega : inset ≤ _)
        rw [Nat.add_right_comm]
        exact ⟨number + 1, onLine.cons noFeed⟩
      · have here : ∀ other ∈ first :: [], '\n' ∉ other := by simpa using noFeed
        refine ⟨1, .of_split here (Or.inr ⟨_, rfl⟩) (Nat.zero_le _) ?_⟩
        rwa [ended, List.flatMap_nil, size_nil, Nat.zero_add]

/-- The line of a position is the one behind as many line feeds as there are in front of it. -/
theorem onLine_iff (inside : offset ≤ size text) :
    OnLine text offset number ↔ number = feedsBefore text offset + 1 := by
  constructor
  · exact OnLine.number_eq
  · rintro rfl
    obtain ⟨number, onLine⟩ := exists_onLine inside
    rwa [← onLine.number_eq]

theorem OnLine.append (onLine : OnLine front offset number) (inside : offset ≤ size front)
    (back : Text) : OnLine (front ++ back) offset number := by
  have fits : offset ≤ size (front ++ back) := by
    rw [size_append]
    omega
  rw [onLine_iff fits, feedsBefore_append inside]
  exact onLine.number_eq

/-! ## The number of lines -/

theorem splitOn_ended (noFeeds : ∀ other ∈ line :: earlier, '\n' ∉ other) :
    (ended earlier ++ line).splitOn '\n' = earlier ++ [line] := by
  induction earlier with
  | nil => exact List.splitOn_eq_singleton (noFeeds line List.mem_cons_self)
  | cons first earlier inductionHypothesis =>
      rw [ended_cons, List.append_assoc, List.cons_append,
        List.splitOn_append_cons_self_of_not_mem (noFeeds first (by simp)),
        inductionHypothesis fun other member =>
          noFeeds other (List.cons_subset_cons line (List.subset_cons_self first earlier) member)]
      rfl

/-- The last byte of a text stands on its last line. -/
theorem onLine_length_lines (visible : text ≠ []) :
    OnLine text (size text - 1) (lines text).length := by
  obtain ⟨earlier, line, rfl, noFeeds⟩ := exists_ended text
  cases line with
  | cons letter line =>
      have counted : (lines (ended earlier ++ letter :: line)).length = earlier.length + 1 := by
        simp [lines, splitOn_ended noFeeds]
      have positive := letter.utf8Size_pos
      rw [counted, ← List.append_nil (letter :: line)]
      refine .of_split noFeeds (Or.inl rfl) ?_ ?_
      · rw [size_append, List.append_nil, size_cons]
        omega
      · rw [size_append, List.append_nil]
        omega
  | nil =>
      -- A line feed at the end opens no further line, so the last byte is that line feed.
      have counted : (lines (ended earlier ++ [])).length = earlier.length := by
        have split := splitOn_ended noFeeds
        rw [List.append_nil] at split ⊢
        simp [lines, split]
      rcases List.eq_nil_or_concat earlier with rfl | ⟨earlier, last, rfl⟩
      · exact absurd rfl visible
      · have split : ended (earlier ++ [last]) ++ [] = ended earlier ++ (last ++ ['\n']) := by
          rw [List.append_nil, ended, List.flatMap_append, List.flatMap_singleton]
          rfl
        have sized : size (ended earlier ++ (last ++ ['\n'])) =
            size (ended earlier) + size last + 1 := by
          rw [size_append, size_append, ← Nat.add_assoc]
          rfl
        rw [List.concat_eq_append] at counted noFeeds ⊢
        rw [counted, split, sized, List.length_append, List.length_singleton]
        refine .of_split (fun other member => noFeeds other ?_) (Or.inr ⟨[], rfl⟩) ?_ ?_
        · simp only [List.mem_cons, List.mem_append, List.not_mem_nil, or_false] at member ⊢
          exact Or.inr member.symm
        · omega
        · omega

end Text

end InputDemand

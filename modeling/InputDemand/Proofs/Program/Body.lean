import InputDemand.Proofs.Program.Brackets
import InputDemand.Proofs.Program.Search
import InputDemand.Proofs.Source.Body

/-!
# The body of a counted loop

The body of the loop in a counted program is made of the reading lines inside: in braces it goes up
to the brace that closes, and below a colon up to the last line that is indented.
-/

namespace InputDemand

variable {line : ReadLine} {names : List Text} {before rest : Text}

/-! ## Bodies in braces -/

theorem Cursor.closeFrom?_below {depth : Nat}
    (areNames : ∀ name ∈ names, Text.isName name = true)
    (level : Template.depth? depth line.fed = some depth) :
    closeFrom? depth before (line.below names ++ rest) =
      closeFrom? depth ((line.below names).reverse ++ before) rest := by
  induction names generalizing before with
  | nil => rfl
  | cons name names inductionHypothesis =>
      have isName := areNames name List.mem_cons_self
      have others := fun other member => areNames other (List.mem_cons_of_mem name member)
      have across := @Cursor.closeFrom?_fill (fun _ => name) before (line.below names ++ rest) _ _ _
        (fun _ => isName) level
      rw [ReadLine.fill_fed] at across
      simpa [inductionHypothesis others] using across

/-- Lines in braces with a line feed behind them are a body. -/
theorem Cursor.block?_below (areNames : ∀ name ∈ names, Text.isName name = true)
    (level : Template.depth? 1 line.fed = some 1) :
    (⟨before, '\x7b' :: (line.below names ++ '\n' :: '\x7d' :: rest)⟩ : Cursor).block? =
      some ⟨⟨'\x7b' :: before, line.below names ++ '\n' :: '\x7d' :: rest⟩,
        ⟨'\n' :: ((line.below names).reverse ++ '\x7b' :: before), '\x7d' :: rest⟩⟩ := by
  rw [block?, matchingClose?, closeFrom?_of_opens rfl, closeFrom?_below areNames level,
    closeFrom?_of_unbracketed rfl, closeFrom?_one rfl rfl]
  rfl

theorem Cursor.bodyAfter?_brace (feedsEnd : Bool) (before rest : Text) :
    (⟨before, ' ' :: '\x7b' :: rest⟩ : Cursor).bodyAfter? feedsEnd =
      (⟨' ' :: before, '\x7b' :: rest⟩ : Cursor).block? := by
  rfl

/-! ## Indented bodies -/

section Suite

theorem feed_not_mem_fill {filling : Nat → Text} {template : Template}
    (areNames : ∀ index, Text.isName (filling index) = true)
    (whole : template.all (Sign.passes (· ≠ '\n')) = true) : '\n' ∉ fill filling template := by
  have letters : (fill filling template).all (· ≠ '\n') = true :=
    all_fill (by decide +kernel) areNames whole
  intro member
  exact of_decide_eq_true (List.all_eq_true.mp letters '\n' member) rfl

theorem reverse_dropWhile_blank {lines others : List Text}
    (visible : ∀ line ∈ lines, Text.blank line = false)
    (blank : ∀ line ∈ others, Text.blank line = true) :
    ((lines ++ others).reverse.dropWhile Text.blank).reverse = lines := by
  have kept : lines.reverse.dropWhile Text.blank = lines.reverse := by
    cases ends : lines.reverse with
    | nil => rfl
    | cons last front =>
        have shown := visible last (List.mem_reverse.mp (ends ▸ List.mem_cons_self))
        rw [List.dropWhile_cons, shown]
        rfl
  rw [List.reverse_append, List.dropWhile_append_of_pos fun line member =>
    blank line (List.mem_reverse.mp member), kept, List.reverse_reverse]

theorem Cursor.indentation_eq_zero {head : Text} (inLine : '\n' ∉ head)
    (visible : head.head?.any (fun letter => !isBlank letter) = true) :
    (⟨head.reverse ++ '\n' :: before, rest⟩ : Cursor).indentation = 0 := by
  have passed : ∀ letter ∈ head.reverse, decide (letter ≠ '\n') = true := by
    intro letter member
    apply decide_eq_true
    rintro rfl
    exact inLine (List.mem_reverse.mp member)
  have front : (⟨head.reverse ++ '\n' :: before, rest⟩ : Cursor).lineStart.rest = head ++ rest := by
    show ((head.reverse ++ '\n' :: before).takeWhile (fun letter =>
      decide (letter ≠ '\n'))).reverse ++ rest = _
    rw [List.takeWhile_append_of_pos passed]
    simp
  rw [indentation]
  simp only [front]
  cases head with
  | nil => cases visible
  | cons first more =>
      have shown : isBlank first = false := by simpa using visible
      have noFeed : decide (first ≠ '\n') = true := passed first (by simp)
      rw [List.cons_append, List.takeWhile_cons, noFeed, if_pos rfl, Text.blankWidth,
        List.takeWhile_cons, shown]
      rfl

theorem Cursor.lineEnd_colon {tail : Text} (feed : tail.head? = some '\n') :
    (⟨before, ':' :: tail⟩ : Cursor).lineEnd = ⟨':' :: before, tail⟩ := by
  obtain ⟨more, rfl⟩ := List.head?_eq_some_iff.mp feed
  rfl

/-- The body below a colon at the end of its line: the lines that are indented deeper, if a line
that is not blank and not indented follows, or nothing but a last line feed. -/
theorem Cursor.suite?_eq {tail : Text} {lines others : List Text}
    (feed : tail.head? = some '\n') (flush : (⟨before, ':' :: tail⟩ : Cursor).indentation = 0)
    (split : (tail.splitOn '\n').drop 1 = lines ++ others) (visible : lines ≠ [])
    (indented : ∀ line ∈ lines, Text.blank line = false ∧ 0 < Text.blankWidth line)
    (stops : others.takeWhile (fun line => Text.blank line || decide (0 < Text.blankWidth line)) =
      others.takeWhile Text.blank) :
    (⟨before, ':' :: tail⟩ : Cursor).suite? =
      some ⟨⟨':' :: before, tail⟩,
        (⟨':' :: before, tail⟩ : Cursor).skip (lines.flatMap ('\n' :: ·)).length⟩ := by
  have blank : Text.blank ((⟨before, ':' :: tail⟩ : Cursor).next.textUpTo ⟨':' :: before, tail⟩) =
      true := by
    rw [next, textUpTo, Nat.sub_self]
    rfl
  have run : (lines ++ others).takeWhile
      (fun line => Text.blank line || decide (0 < Text.blankWidth line)) =
        lines ++ others.takeWhile Text.blank := by
    rw [List.takeWhile_append_of_pos, stops]
    intro line member
    rw [decide_eq_true (indented line member).2, Bool.or_true]
  have kept := reverse_dropWhile_blank (fun line member => (indented line member).1)
    (fun line member => List.mem_takeWhile_imp (l := others) member)
  have some : lines.isEmpty = false := List.isEmpty_eq_false_iff.mpr visible
  simp only [suite?, lineEnd_colon feed, blank, flush, split, run, kept, some,
    foldr_length_lines]
  rfl

variable {other : ReadLine} {names' : List Text} {head : Text}

theorem ReadLine.below_eq (line : ReadLine) (names : List Text) :
    line.below names = (names.map line.text).flatMap ('\n' :: ·) := by
  rw [List.flatMap_map]
  rfl

/-- Whether a template is one line, not blank, and indented or not. -/
def ReadLine.isSet (line : ReadLine) (indented : Bool) : Bool :=
  line.template.all (Sign.passes (· ≠ '\n')) && line.template.any (fun sign => !sign.isBlank) &&
    (line.template.takeWhile Sign.isBlank).isEmpty != indented

theorem ReadLine.of_isSet {indented : Bool} {name : Text} (isName : Text.isName name = true)
    (checked : line.isSet indented = true) :
    '\n' ∉ line.text name ∧ Text.blank (line.text name) = false ∧
      (0 < Text.blankWidth (line.text name) ↔ indented = true) := by
  simp only [ReadLine.isSet, Bool.and_eq_true] at checked
  obtain ⟨⟨whole, visible⟩, width⟩ := checked
  have areNames : ∀ index : Nat, Text.isName ((fun _ => name) index) = true := fun _ => isName
  refine ⟨feed_not_mem_fill areNames whole, not_blank_fill areNames visible, ?_⟩
  rw [Text.blankWidth, text, fill_takeWhile_isBlank areNames]
  cases blanks : line.template.takeWhile Sign.isBlank with
  | nil =>
      rw [blanks] at width
      cases indented with
      | true => cases width
      | false => simp
  | cons sign more =>
      have first : sign.isBlank = true :=
        List.mem_takeWhile_imp (blanks ▸ List.mem_cons_self)
      rw [blanks] at width
      cases sign with
      | name index => cases first
      | letter found =>
          have positive := found.utf8Size_pos
          cases indented with
          | false => cases width
          | true =>
              rw [fill_cons, Sign.fill_letter, Text.size_append, Text.size_cons]
              refine iff_of_true ?_ rfl
              omega

/-- The lines that are indented below a header are its body. -/
theorem Cursor.suite?_below (inLine : '\n' ∉ head)
    (visible : head.head?.any (fun letter => !isBlank letter) = true)
    (areNames : ∀ name ∈ names, Text.isName name = true)
    (areNames' : ∀ name ∈ names', Text.isName name = true) (filled : names ≠ [])
    (indented : line.isSet true = true) (flush : other.isSet false = true) :
    (⟨head.reverse ++ '\n' :: before,
        ':' :: (line.below names ++ (other.below names' ++ ['\n']))⟩ : Cursor).suite? =
      some ⟨⟨':' :: (head.reverse ++ '\n' :: before),
          line.below names ++ (other.below names' ++ ['\n'])⟩,
        ⟨(line.below names).reverse ++ ':' :: (head.reverse ++ '\n' :: before),
          other.below names' ++ ['\n']⟩⟩ := by
  have inside : ∀ text ∈ names.map line.text, '\n' ∉ text ∧
      Text.blank text = false ∧ 0 < Text.blankWidth text := by
    intro text member
    obtain ⟨name, listed, rfl⟩ := List.mem_map.mp member
    obtain ⟨whole, shown, deep⟩ := ReadLine.of_isSet (areNames name listed) indented
    exact ⟨whole, shown, deep.mpr rfl⟩
  have behind : ∀ name ∈ names', '\n' ∉ other.text name ∧
      Text.blank (other.text name) = false ∧ Text.blankWidth (other.text name) = 0 := by
    intro name listed
    obtain ⟨whole, shown, deep⟩ := ReadLine.of_isSet (areNames' name listed) flush
    exact ⟨whole, shown, Nat.eq_zero_of_not_pos fun positive => nomatch deep.mp positive⟩
  have lines : ((line.below names ++ (other.below names' ++ ['\n'])).splitOn '\n').drop 1 =
      names.map line.text ++ (names'.map other.text ++ [[]]) := by
    have joined : line.below names ++ (other.below names' ++ ['\n']) =
        (names.map line.text ++ (names'.map other.text ++ [[]])).flatMap ('\n' :: ·) := by
      rw [line.below_eq, other.below_eq, List.flatMap_append, List.flatMap_append,
        List.flatMap_singleton]
    rw [joined, splitOn_flatMap_cons (by simp)]
    · rfl
    · intro text member
      rcases List.mem_append.mp member with listed | listed
      · exact (inside text listed).1
      · rcases List.mem_append.mp listed with listed | listed
        · obtain ⟨name, listed', rfl⟩ := List.mem_map.mp listed
          exact (behind name listed').1
        · rw [List.mem_singleton.mp listed]
          exact List.not_mem_nil
  -- The first line behind the loop is not indented; without one, only an empty line is left.
  have stops : (names'.map other.text ++ [[]]).takeWhile
      (fun line => Text.blank line || decide (0 < Text.blankWidth line)) =
        (names'.map other.text ++ [[]]).takeWhile Text.blank := by
    cases names' with
    | nil => rfl
    | cons name names' =>
        obtain ⟨_, shown, width⟩ := behind name List.mem_cons_self
        rw [List.map_cons, List.cons_append, List.takeWhile_cons, List.takeWhile_cons, shown, width]
        rfl
  have feed : (line.below names ++ (other.below names' ++ ['\n'])).head? = some '\n' := by
    obtain ⟨name, others, rfl⟩ := List.exists_cons_of_ne_nil filled
    rfl
  rw [Cursor.suite?_eq feed (indentation_eq_zero inLine visible) lines
    (fun empty => filled (List.map_eq_nil_iff.mp empty)) (fun text member => (inside text member).2)
    stops, ← line.below_eq, skip, List.take_left, List.drop_left]

end Suite

end InputDemand

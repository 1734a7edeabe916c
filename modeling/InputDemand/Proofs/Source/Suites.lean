import InputDemand.Proofs.Source.Body
import InputDemand.Proofs.Text.Lines
import InputDemand.Proofs.Text.Names

/-!
# Suites of indented lines

A line of a text lies between two breaks and holds no line feed.  The body below a colon is told in
terms of the lines of the source: of the lines below that of the colon, it takes those up to the
first that is neither blank nor indented deeper, and ends where the last one ends that is not blank.
-/

namespace InputDemand

/-- A piece of a text from one line break to the next; both ends of the text count as breaks. -/
structure Piece.IsLine (text : Text) (line : Piece) : Prop where
  text : line.start.text = text
  order : line.start ≤ line.stop
  noFeed : '\n' ∉ line.text
  opens : Pattern.atBreak line.start.before.head? = true
  closes : Pattern.atBreak line.stop.rest.head? = true

/-- Whether a line goes on with a suite below a line of some indentation: it is blank or indented
deeper. -/
def Piece.goesOn (depth : Nat) (line : Piece) : Bool :=
  Text.blank line.text || depth < Text.blankWidth line.text

/-- A line belongs to the run below another one: it is below, and all lines from there down to it
are blank or indented deeper than the other one. -/
structure Piece.InRun (home line : Piece) : Prop where
  isLine : line.IsLine home.start.text
  below : home.stop.offset < line.start.offset
  goesOn : ∀ upTo : Piece, upTo.IsLine home.start.text → home.stop.offset < upTo.start.offset →
    upTo.start.offset ≤ line.start.offset → upTo.goesOn (Text.blankWidth home.text) = true

/-- A line is the last one that is not blank in the run below another one. -/
structure Piece.EndsRun (home line : Piece) : Prop where
  inRun : home.InRun line
  visible : Text.blank line.text = false
  last : ∀ later : Piece, home.InRun later → Text.blank later.text = false →
    later.stop.offset ≤ line.stop.offset

section Lists

variable {Member : Type} {keep : Member → Bool} {key : Member → Nat} {members : List Member}
  {member : Member}

/-- In a list in order, the members in front of the first that is not kept are those up to which
all are kept. -/
theorem mem_takeWhile_iff (order : members.Pairwise fun one other => key one < key other) :
    member ∈ members.takeWhile keep ↔
      member ∈ members ∧ ∀ other ∈ members, key other ≤ key member → keep other = true := by
  induction members with
  | nil => simp
  | cons first members inductionHypothesis =>
      obtain ⟨ahead, order⟩ := List.pairwise_cons.mp order
      by_cases kept : keep first = true
      · rw [List.takeWhile_cons_of_pos kept, List.mem_cons, inductionHypothesis order,
          List.mem_cons]
        constructor
        · rintro (rfl | ⟨listed, allKept⟩)
          · refine ⟨Or.inl rfl, fun other listed upTo => ?_⟩
            rcases List.mem_cons.mp listed with rfl | listed
            · exact kept
            · exact absurd (ahead other listed) (Nat.not_lt_of_le upTo)
          · refine ⟨Or.inr listed, fun other listed' upTo => ?_⟩
            rcases List.mem_cons.mp listed' with rfl | listed'
            · exact kept
            · exact allKept other listed' upTo
        · rintro ⟨rfl | listed, allKept⟩
          · exact Or.inl rfl
          · exact Or.inr ⟨listed, fun other listed' =>
              allKept other (List.mem_cons_of_mem first listed')⟩
      · rw [List.takeWhile_cons_of_neg kept]
        constructor
        · intro listed
          exact (List.not_mem_nil listed).elim
        · rintro ⟨listed, allKept⟩
          refine absurd (allKept first List.mem_cons_self ?_) kept
          rcases List.mem_cons.mp listed with rfl | listed
          · exact Nat.le_refl _
          · exact Nat.le_of_lt (ahead member listed)

/-- The last member left when members are dropped from the back is the last that is not to be
dropped. -/
theorem getLast?_rdropWhile {before : Member → Member → Prop} {drop : Member → Bool}
    (order : members.Pairwise before) (last : (members.rdropWhile drop).getLast? = some member) :
    member ∈ members ∧ drop member = false ∧
      ∀ other ∈ members, drop other = false → other = member ∨ before other member := by
  obtain ⟨front, left⟩ := List.getLast?_eq_some_iff.mp last
  have split : front ++ [member] ++ members.rtakeWhile drop = members := by
    rw [← left]
    exact List.rdropWhile_append_rtakeWhile
  have stays : drop member = false := by
    have visible : members.rdropWhile drop ≠ [] := by
      rw [left]
      exact List.concat_ne_nil member front
    have stops := List.rdropWhile_last_not drop members visible
    simpa [left] using stops
  have apart : ∀ other ∈ front, before other member := by
    rw [← split] at order
    have kept := (List.pairwise_append.mp order).1
    exact fun other listed => (List.pairwise_append.mp kept).2.2 other listed member (by simp)
  refine ⟨by rw [← split]; simp, stays, ?_⟩
  intro other listed staysToo
  rw [← split, List.append_assoc, List.singleton_append, List.mem_append, List.mem_cons] at listed
  rcases listed with ahead | rfl | dropped
  · exact Or.inr (apart other ahead)
  · exact Or.inl rfl
  · rw [List.mem_rtakeWhile_imp dropped] at staysToo
    cases staysToo

end Lists

/-! ## Lines -/

/-- Text up to a break is told by what it is a part of. -/
theorem Text.eq_of_append_eq {line text rest rest' : Text} (same : line ++ rest = text ++ rest')
    (noFeed : '\n' ∉ line) (noFeed' : '\n' ∉ text) (closes : Pattern.atBreak rest.head? = true)
    (closes' : Pattern.atBreak rest'.head? = true) : line = text ∧ rest = rest' := by
  have kept : ∀ {line : Text}, '\n' ∉ line → ∀ letter ∈ line, (letter != '\n') = true := by
    intro line noFeed letter member
    refine bne_iff_ne.mpr ?_
    rintro rfl
    exact noFeed member
  have stops : ∀ {rest : Text}, Pattern.atBreak rest.head? = true →
      rest.head?.all (fun letter => !(letter != '\n')) = true := by
    intro rest closes
    simpa [Pattern.atBreak, bne] using closes
  obtain ⟨taken, dropped⟩ := Text.span_append (kept noFeed) (stops closes)
  obtain ⟨taken', dropped'⟩ := Text.span_append (kept noFeed') (stops closes')
  exact ⟨taken.symm.trans (same ▸ taken'), dropped.symm.trans (same ▸ dropped')⟩

/-- A line is told by where it starts. -/
theorem Piece.IsLine.eq_of_start {text : Text} {piece piece' : Piece}
    (isLine : piece.IsLine text) (isLine' : piece'.IsLine text)
    (start : piece.start = piece'.start) : piece = piece' := by
  rcases piece with ⟨first, last⟩
  rcases piece' with ⟨first', last'⟩
  have start : first = first' := start
  subst start
  have split := Cursor.rest_eq_textUpTo_append isLine.order
  have split' := Cursor.rest_eq_textUpTo_append isLine'.order
  obtain ⟨text, rest⟩ := Text.eq_of_append_eq (split.symm.trans split') isLine.noFeed isLine'.noFeed
    isLine.closes isLine'.closes
  have stop := Cursor.eq_of_le_of_rest isLine.order split rfl
  have stop' := Cursor.eq_of_le_of_rest isLine'.order split' rfl
  simp only at stop stop' text rest
  rw [stop, stop', text, rest]

namespace Cursor

variable {place one other : Cursor} {lines front back : List Text} {line text : Text}

theorem backWhile_le (skip : Char → Bool) (place : Cursor) : place.backWhile skip ≤ place :=
  ⟨(place.before.takeWhile skip).reverse, rfl, by
    rw [List.reverse_reverse]
    exact List.takeWhile_append_dropWhile.symm⟩

theorem skip_length {text rest : Text} (split : place.rest = text ++ rest) :
    place.skip text.length = ⟨text.reverse ++ place.before, rest⟩ := by
  rw [skip, split, List.take_left, List.drop_left]

/-! ## Lines one below the other -/

/-- The lines below a place at which a line ends, given their characters. -/
def linesBelow (place : Cursor) : List Text → List Piece
  | [] => []
  | line :: lines =>
      let stop := place.next.skip line.length
      ⟨place.next, stop⟩ :: linesBelow stop lines

/-- Some lines, each with the line feed in front of it, stand behind a place. -/
structure Heads (place : Cursor) (lines : List Text) : Prop where
  rest : place.rest = lines.flatMap ('\n' :: ·)
  noFeed : ∀ line ∈ lines, '\n' ∉ line

namespace Heads

theorem closes (heads : place.Heads lines) : Pattern.atBreak place.rest.head? = true := by
  rw [heads.rest]
  cases lines <;> rfl

theorem next (heads : place.Heads (line :: lines)) :
    place.next = ⟨'\n' :: place.before, line ++ lines.flatMap ('\n' :: ·)⟩ := by
  have rest := heads.rest
  rcases place with ⟨before, _ | ⟨letter, behind⟩⟩
  · cases rest
  · cases rest
    rfl

theorem stop (heads : place.Heads (line :: lines)) : place.next.skip line.length =
    ⟨line.reverse ++ '\n' :: place.before, lines.flatMap ('\n' :: ·)⟩ := by
  rw [skip_length (by rw [heads.next]), heads.next]

theorem later (heads : place.Heads (line :: lines)) :
    (place.next.skip line.length).Heads lines := by
  refine ⟨?_, fun other member => heads.noFeed other (List.mem_cons_of_mem line member)⟩
  rw [heads.stop]

theorem text_line (heads : place.Heads (line :: lines)) :
    place.next.textUpTo (place.next.skip line.length) = line := by
  refine textUpTo_of_rest ?_
  rw [heads.stop, heads.next]

theorem offset_next (heads : place.Heads (line :: lines)) :
    place.next.offset = place.offset + 1 := by
  rw [heads.next, offset, Text.size_cons, Nat.add_comm]
  rfl

theorem map_text_linesBelow (heads : place.Heads lines) :
    (place.linesBelow lines).map Piece.text = lines := by
  induction lines generalizing place with
  | nil => rfl
  | cons line lines inductionHypothesis =>
      rw [linesBelow, List.map_cons, inductionHypothesis heads.later, Piece.text, heads.text_line]

theorem isLine (heads : place.Heads (line :: lines)) :
    Piece.IsLine place.text ⟨place.next, place.next.skip line.length⟩ where
  text := text_next place
  order := le_skip _ _
  noFeed := by
    rw [Piece.text, heads.text_line]
    exact heads.noFeed line List.mem_cons_self
  opens := by
    rw [heads.next]
    rfl
  closes := heads.later.closes

/-- What starts behind a place at which a line ends, but not behind the line below, is that line. -/
theorem eq_of_isLine {piece : Piece} (heads : place.Heads (line :: lines))
    (isLine : piece.IsLine place.text) (below : place.offset < piece.start.offset)
    (within : piece.start.offset ≤ (place.next.skip line.length).offset) :
    piece = ⟨place.next, place.next.skip line.length⟩ := by
  have same : place.next.text = piece.start.text := by rw [text_next, isLine.text]
  have ahead : place.next ≤ piece.start :=
    le_of_offset_le same (by rw [heads.offset_next]; exact below)
  have behind : piece.start ≤ place.next.skip line.length :=
    le_of_offset_le (by rw [text_skip, same]) within
  obtain ⟨passed, front, before⟩ := ahead
  obtain ⟨left, back, _⟩ := behind
  have whole : line = passed ++ left := by
    rw [heads.stop] at back
    rw [back, heads.next, ← List.append_assoc] at front
    exact List.append_cancel_right front
  -- A line does not start inside another one, since no line feed stands in front of it there.
  have nothing : passed = [] := by
    rcases List.eq_nil_or_concat passed with rfl | ⟨passed, letter, rfl⟩
    · rfl
    · have feed := isLine.opens
      rw [before] at feed
      have same : letter = '\n' := by simpa [Pattern.atBreak] using feed
      refine absurd ?_ (heads.noFeed line List.mem_cons_self)
      rw [whole, same]
      simp
  have start : piece.start = place.next := by
    rw [nothing] at front before
    rcases piece with ⟨⟨ahead, rest⟩, stop⟩
    simp only [List.nil_append, List.reverse_nil] at front before
    rw [before, ← front]
  exact isLine.eq_of_start heads.isLine start

/-- The lines below a place are those of its text that start behind it. -/
theorem mem_linesBelow {piece : Piece} (heads : place.Heads lines) :
    piece ∈ place.linesBelow lines ↔
      piece.IsLine place.text ∧ place.offset < piece.start.offset := by
  induction lines generalizing place with
  | nil =>
      rw [linesBelow, List.mem_nil_iff, false_iff]
      rintro ⟨isLine, below⟩
      have inside := piece.start.offset_le_size
      have all : Text.size place.text = place.offset := by
        rw [text, heads.rest, List.flatMap_nil, List.append_nil, Text.size_reverse, offset]
      rw [isLine.text, all] at inside
      omega
  | cons line lines inductionHypothesis =>
      have stop := offset_le_of_le (le_skip line.length place.next)
      have next := heads.offset_next
      have later := inductionHypothesis heads.later
      rw [text_skip, text_next] at later
      rw [linesBelow, List.mem_cons, later]
      constructor
      · rintro (rfl | ⟨isLine, below⟩)
        · refine ⟨heads.isLine, ?_⟩
          rw [next]
          exact Nat.lt_add_one _
        · exact ⟨isLine, by omega⟩
      · rintro ⟨isLine, below⟩
        by_cases within : piece.start.offset ≤ (place.next.skip line.length).offset
        · exact Or.inl (heads.eq_of_isLine isLine below within)
        · exact Or.inr ⟨isLine, by omega⟩

theorem pairwise_linesBelow (heads : place.Heads lines) :
    (place.linesBelow lines).Pairwise fun one other => one.stop.offset < other.start.offset := by
  induction lines generalizing place with
  | nil => exact List.Pairwise.nil
  | cons line lines inductionHypothesis =>
      refine List.pairwise_cons.mpr ⟨fun piece listed => ?_, inductionHypothesis heads.later⟩
      exact (heads.later.mem_linesBelow.mp listed).2

end Heads

theorem skip_add (place : Cursor) (count more : Nat) :
    place.skip (count + more) = (place.skip count).skip more := by
  simp [skip, List.take_add, List.drop_drop]

theorem next_eq_skip (place : Cursor) : place.next = place.skip 1 := by
  rcases place with ⟨before, _ | ⟨letter, rest⟩⟩
  · rfl
  · rfl

theorem linesBelow_take (place : Cursor) (lines : List Text) (count : Nat) :
    (place.linesBelow lines).take count = place.linesBelow (lines.take count) := by
  induction lines generalizing place count with
  | nil => cases count <;> rfl
  | cons line lines inductionHypothesis =>
      cases count with
      | zero => rfl
      | succ count => exact congrArg (_ :: ·) (inductionHypothesis _ count)

/-- The last of some lines ends behind all their characters and line feeds. -/
theorem stop_of_getLast? {last : Piece} (found : (place.linesBelow lines).getLast? = some last) :
    last.stop = place.skip (lines.foldr (fun line behind => line.length + 1 + behind) 0) := by
  induction lines generalizing place with
  | nil => cases found
  | cons line lines inductionHypothesis =>
      have step : place.next.skip line.length = place.skip (line.length + 1) := by
        rw [next_eq_skip, ← skip_add, Nat.add_comm]
      rw [List.foldr_cons, skip_add, ← step]
      cases lines with
      | nil =>
          cases found
          rfl
      | cons second lines =>
          rw [linesBelow, linesBelow, List.getLast?_cons_cons] at found
          exact inductionHypothesis found

/-! ## The body below a colon -/

theorem heads_lineEnd (place : Cursor) :
    place.lineEnd.Heads ((place.lineEnd.rest.splitOn '\n').drop 1) := by
  rcases rest_lineEnd place with nothing | feed
  · rw [nothing]
    exact ⟨nothing, fun line listed => (List.not_mem_nil listed).elim⟩
  · obtain ⟨tail, split⟩ := List.head?_eq_some_iff.mp feed
    obtain ⟨earlier, line, rfl, noFeeds⟩ := Text.exists_ended tail
    have below : (place.lineEnd.rest.splitOn '\n').drop 1 =
        (Text.ended earlier ++ line).splitOn '\n' := by
      rw [split, ← List.nil_append ('\n' :: _),
        List.splitOn_append_cons_self_of_not_mem List.not_mem_nil, List.drop_one, List.tail_cons]
    rw [below]
    refine ⟨split.trans (cons_eq_flatMap_splitOn '\n' _), ?_⟩
    rw [Text.splitOn_ended noFeeds]
    intro other listed
    exact noFeeds other (by simpa [or_comm] using listed)

/-- The line that a place is on. -/
def lineOf (place : Cursor) : Piece :=
  ⟨place.lineStart, place.lineEnd⟩

theorem text_lineOf (place : Cursor) : place.lineOf.text =
    (place.before.takeWhile (· ≠ '\n')).reverse ++ place.rest.takeWhile (· ≠ '\n') := by
  refine textUpTo_of_rest ?_
  simp only [lineOf, lineStart, lineEnd, backWhile, skipWhile, List.append_assoc,
    List.takeWhile_append_dropWhile]

theorem isLine_lineOf (place : Cursor) : place.lineOf.IsLine place.text where
  text := text_backWhile _ place
  order := le_trans (backWhile_le _ place) (le_lineEnd place)
  noFeed := by
    rw [text_lineOf, List.mem_append, List.mem_reverse]
    rintro (listed | listed)
    · simpa using List.mem_takeWhile_imp listed
    · simpa using List.mem_takeWhile_imp listed
  opens := by
    have stopped := List.head?_dropWhile_not (fun letter => decide (letter ≠ '\n')) place.before
    rw [lineOf, lineStart, backWhile]
    cases split : place.before.dropWhile (fun letter => decide (letter ≠ '\n')) with
    | nil => rfl
    | cons letter before =>
        rw [split] at stopped
        simpa [Pattern.atBreak] using stopped
  closes := (heads_lineEnd place).closes

theorem indentation_eq (place : Cursor) :
    place.indentation = Text.blankWidth place.lineOf.text := by
  have ahead : ∀ letter ∈ (place.before.takeWhile fun letter => decide (letter ≠ '\n')).reverse,
      decide (letter ≠ '\n') = true := by
    intro letter listed
    exact List.mem_takeWhile_imp
      (p := fun letter => decide (letter ≠ '\n')) (List.mem_reverse.mp listed)
  rw [text_lineOf, ← List.takeWhile_append_of_pos (p := fun letter => decide (letter ≠ '\n')) ahead]
  rfl

/-- The characters of the lines that are left of a run when the blank ones behind are dropped. -/
theorem Heads.map_text_run (heads : place.Heads lines) (depth : Nat) :
    (((place.linesBelow lines).takeWhile (Piece.goesOn depth)).rdropWhile
      fun line => Text.blank line.text).map Piece.text =
        (lines.takeWhile fun line =>
          Text.blank line || decide (depth < Text.blankWidth line)).rdropWhile Text.blank := by
  have texts : ((place.linesBelow lines).takeWhile (Piece.goesOn depth)).map Piece.text =
      lines.takeWhile fun line => Text.blank line || decide (depth < Text.blankWidth line) := by
    conv_rhs => rw [← heads.map_text_linesBelow, List.takeWhile_map]
    rfl
  rw [← texts, List.rdropWhile, List.rdropWhile, ← List.map_reverse, List.dropWhile_map,
    List.map_reverse]
  rfl

/-- The last of the first lines below a place ends behind the characters of those lines. -/
theorem Heads.stop_of_prefix (heads : place.Heads lines) {left : List Piece} {last : Piece}
    (front : left <+: place.linesBelow lines) (isLast : left.getLast? = some last) :
    last.stop = place.skip
      ((left.map Piece.text).foldr (fun line behind => line.length + 1 + behind) 0) := by
  have cut := List.prefix_iff_eq_take.mp front
  have texts : left.map Piece.text = lines.take left.length := by
    conv_lhs => rw [cut, List.map_take, heads.map_text_linesBelow]
  rw [linesBelow_take, ← texts] at cut
  exact stop_of_getLast? (cut ▸ isLast)

/-- The body of a colon with nothing behind it, by the lines below: it ends with the last line that
is not blank of those in front of the first line that does not go on with it. -/
theorem suite?_eq_linesBelow {colon : Cursor}
    (blank : Text.blank (colon.next.textUpTo colon.lineEnd) = true) :
    let lines := (colon.lineEnd.rest.splitOn '\n').drop 1
    let run := (colon.lineEnd.linesBelow lines).takeWhile (Piece.goesOn colon.indentation)
    colon.suite? = (run.rdropWhile fun line => Text.blank line.text).getLast?.map
      fun last => ⟨colon.lineEnd, last.stop⟩ := by
  intro lines run
  have heads : colon.lineEnd.Heads lines := heads_lineEnd colon
  have texts := heads.map_text_run colon.indentation
  have front : (run.rdropWhile fun line => Text.blank line.text) <+:
      colon.lineEnd.linesBelow lines :=
    (List.rdropWhile_prefix _ run).trans (List.takeWhile_prefix _)
  change (run.rdropWhile fun line => Text.blank line.text).map Piece.text = _ at texts
  generalize (run.rdropWhile fun line => Text.blank line.text) = left at texts front ⊢
  have body : colon.suite? = if (left.map Piece.text).isEmpty then none else
      some ⟨colon.lineEnd, colon.lineEnd.skip
        ((left.map Piece.text).foldr (fun line behind => line.length + 1 + behind) 0)⟩ := by
    rw [texts, suite?, if_neg (by rw [blank]; decide)]
    rfl
  rw [body]
  cases last : left.getLast? with
  | none =>
      rw [List.getLast?_eq_none_iff.mp last]
      rfl
  | some piece =>
      have visible : (left.map Piece.text).isEmpty = false := by
        rw [List.isEmpty_map, List.isEmpty_eq_false_iff]
        rintro rfl
        cases last
      rw [visible, Option.map_some, heads.stop_of_prefix front last]
      rfl

/-- The run below the line of a place is what stands in front of the first line that does not go on
with it. -/
theorem inRun_lineOf_iff (place : Cursor) (line : Piece) : place.lineOf.InRun line ↔
    line ∈ (place.lineEnd.linesBelow ((place.lineEnd.rest.splitOn '\n').drop 1)).takeWhile
      (Piece.goesOn place.indentation) := by
  have text : place.lineOf.start.text = place.lineEnd.text := by
    rw [lineEnd, text_skipWhile]
    exact text_backWhile _ place
  have heads := heads_lineEnd place
  have starts := heads.pairwise_linesBelow.imp_of_mem fun {one other} listed _ apart =>
    Nat.lt_of_le_of_lt (offset_le_of_le (heads.mem_linesBelow.mp listed).1.order) apart
  rw [mem_takeWhile_iff starts, heads.mem_linesBelow, ← text, indentation_eq]
  constructor
  · rintro ⟨isLine, below, goesOn⟩
    refine ⟨⟨isLine, below⟩, fun other listed upTo => ?_⟩
    obtain ⟨otherLine, otherBelow⟩ := heads.mem_linesBelow.mp listed
    exact goesOn other (text ▸ otherLine) otherBelow upTo
  · rintro ⟨⟨isLine, below⟩, goesOn⟩
    refine ⟨isLine, below, fun other otherLine otherBelow upTo => ?_⟩
    exact goesOn other (heads.mem_linesBelow.mpr ⟨text ▸ otherLine, otherBelow⟩) upTo

/-- The body below a colon.  If anything but blanks stands behind the colon on its line, that is the
body.  Otherwise the body starts where the line ends, and it ends where the last line ends that is
not blank in the run below; there is none if and only if all lines of that run are blank. -/
theorem suite?_ends_run {colon : Cursor} (isColon : colon.rest.head? = some ':') :
    let home := colon.lineOf
    home.IsLine colon.text ∧ home.start ≤ colon ∧ colon.next ≤ home.stop ∧
      (Text.blank (colon.next.textUpTo home.stop) = false →
        colon.suite? = some ⟨colon.next, home.stop⟩) ∧
      (Text.blank (colon.next.textUpTo home.stop) = true →
        (colon.suite? = none ↔ ∀ line, home.InRun line → Text.blank line.text = true) ∧
        ∀ body, colon.suite? = some body →
          body.start = home.stop ∧ ∃ line, home.EndsRun line ∧ body.stop = line.stop) := by
  have sameLine : colon.next.lineEnd = colon.lineEnd := lineEnd_next isColon (by decide)
  refine ⟨isLine_lineOf colon, backWhile_le _ colon, ?_, ?_, ?_⟩
  · have order := le_lineEnd colon.next
    rwa [sameLine] at order
  · intro visible
    have behind : (!Text.blank (colon.next.textUpTo colon.lineEnd)) = true := by
      rw [show colon.lineEnd = colon.lineOf.stop from rfl, visible]
      rfl
    rw [suite?, if_pos behind]
    rfl
  · intro blank
    have body := suite?_eq_linesBelow blank
    have order := (heads_lineEnd colon).pairwise_linesBelow.sublist
      (List.takeWhile_sublist (Piece.goesOn colon.indentation))
    simp only at body
    rw [body]
    constructor
    · rw [Option.map_eq_none_iff, List.getLast?_eq_none_iff, List.rdropWhile_eq_nil_iff]
      exact forall_congr' fun line => imp_congr_left (inRun_lineOf_iff colon line).symm
    · intro body found
      obtain ⟨last, isLast, rfl⟩ := Option.map_eq_some_iff.mp found
      obtain ⟨listed, visible, others⟩ := getLast?_rdropWhile order isLast
      have inRun := (inRun_lineOf_iff colon last).mpr listed
      refine ⟨rfl, last, ⟨inRun, visible, fun later isLater visible => ?_⟩, rfl⟩
      rcases others later ((inRun_lineOf_iff colon later).mp isLater) visible with rfl | ahead
      · exact Nat.le_refl _
      · exact Nat.le_of_lt (Nat.lt_of_lt_of_le ahead (offset_le_of_le inRun.isLine.order))

/-- A loop with a blank line between the two lines of its body, and a line behind it. -/
def gappedSuite : Text :=
  "for i in range(2):\n  f()\n\n  g()\nh()".toList

/-- The body of the loop ends with the second of its two lines. -/
theorem suite?_ends_run_gappedSuite :
    let colon := (start gappedSuite).skip 17
    colon.rest.head? = some ':' ∧ ∃ body line : Piece, colon.suite? = some body ∧
      body.span = ⟨18, 31⟩ ∧ colon.lineOf.EndsRun line ∧ body.stop = line.stop := by
  intro colon
  have isColon : colon.rest.head? = some ':' := by decide
  have found : colon.suite? = some ⟨colon.skip 1, colon.skip 14⟩ := by rfl
  have blank : Text.blank (colon.next.textUpTo colon.lineOf.stop) = true := by decide
  obtain ⟨_, _, _, _, below⟩ := suite?_ends_run isColon
  obtain ⟨_, line, ends, stop⟩ := (below blank).2 _ found
  exact ⟨isColon, _, line, found, by decide, ends, stop⟩

end Cursor

end InputDemand

import InputDemand.Proofs.Program.Body
import InputDemand.Proofs.Program.Clauses
import InputDemand.Recognition.CounterLoops

/-!
# The loop of a counted program

The first counting loop of a counted program is the one it was written with: it runs as often as the
value of the bound says, and its body is made of the lines inside.
-/

namespace InputDemand

open Pattern

namespace Language

variable {language : Language} {names : CountedNames} {pattern : Pattern}
  {front rest : Template} {mark : Char} {test : Trace → Bool}

/-- What stands between the header of the loop and its last line in braces. -/
def bodyEnd : Language → Template
  | python | sql => []
  | _ => "\n"

def bodySpan (language : Language) (names : CountedNames) : Span :=
  ⟨Text.size (language.toBody names), Text.size (language.toBody names) +
    Text.size (language.shownLine.indented.below names.inside ++
      fill names.inHeader language.bodyEnd)⟩

/-- The loop that a counted program was written with. -/
structure IsCounted (language : Language) (names : CountedNames) (loop : Loop) : Prop where
  kind : loop.kind = .counter
  trip : loop.trip = ⟨.name names.bound, 0, 1⟩
  body : loop.body? = some (language.bodySpan names)

/-! ## Places in the header -/

def toLoop (language : Language) (names : CountedNames) : Text :=
  language.shownLine.text names.bound ++ ['\n']

def behindHeader (language : Language) (names : CountedNames) : Text :=
  language.shownLine.indented.below names.inside ++ language.fromBody names

/-- The place between two parts of the header. -/
def headerPlace (language : Language) (names : CountedNames) (front rest : Template) : Cursor :=
  ⟨(fill names.inHeader front).reverse ++ (language.toLoop names).reverse,
    fill names.inHeader rest ++ language.behindHeader names⟩

theorem toBody_eq : language.toBody names =
    language.toLoop names ++ fill names.inHeader language.loopHeader := by
  simp [toBody, toLoop]

theorem countedBy_eq : language.countedBy language.shownLine names =
    language.toLoop names ++
      (fill names.inHeader language.loopHeader ++ language.behindHeader names) := by
  rw [countedBy_shownLine, toBody_eq, List.append_assoc, behindHeader]

theorem next_headerPlace :
    (language.headerPlace names front (.letter mark :: rest)).next =
      language.headerPlace names (front ++ [.letter mark]) rest := by
  simp [headerPlace, Cursor.next]

theorem textUpTo_headerPlace (front front' inside rest : Template) :
    (language.headerPlace names front (inside ++ rest)).textUpTo
      (language.headerPlace names front' rest) = fill names.inHeader inside := by
  apply Cursor.textUpTo_of_rest
  rw [headerPlace, headerPlace, fill_append, List.append_assoc]

theorem matchingClose?_headerPlace (areNames : names.AreNames) {inside : Template}
    (leads : Template.depth? 1 inside = some 1) :
    (language.headerPlace names front
        (.letter '(' :: (inside ++ .letter ')' :: rest))).matchingClose? =
      some (language.headerPlace names (front ++ .letter '(' :: inside) (.letter ')' :: rest)) := by
  have closes := @Cursor.matchingClose?_fill _
    ((fill names.inHeader front).reverse ++ (language.toLoop names).reverse)
    (fill names.inHeader rest ++ language.behindHeader names) _
    areNames.inHeader '(' ')' rfl rfl rfl leads
  simpa [headerPlace] using closes

/-! ## Where the header is found -/

/-- Whether a pattern first matches in front of the loop's header and takes the front of it up to a
letter, with a trace that passes a test. -/
def opensAt (language : Language) (pattern : Pattern) (front : Template) (mark : Char)
    (rest : Template) (test : Trace → Bool) : Bool :=
  pattern.takesLetter && pattern.misses false [] language.shownLine.template &&
    pattern.misses false language.loopHeader "\n" &&
    language.loopHeader = front ++ .letter mark :: rest &&
    pattern.hits false .lineStart language.loopHeader fun trace => trace.stopsAt rest && test trace

/-- A match that takes the front of the loop's header. -/
structure Opening (language : Language) (names : CountedNames) (front : Template) (mark : Char)
    (rest : Template) (found : Match) : Prop where
  header : language.loopHeader = front ++ .letter mark :: rest
  start : found.start = language.headerPlace names [] language.loopHeader
  last : found.last = language.headerPlace names front (.letter mark :: rest)
  stop : found.stop = language.headerPlace names (front ++ [.letter mark]) rest
  kept : ∀ slot piece, found.piece? slot = some piece → found.start ≤ piece.start

theorem exists_opening (areNames : names.AreNames)
    (opens : language.opensAt pattern front mark rest test = true) :
    ∃ found more trace,
      pattern.findAll (language.countedBy language.shownLine names) = found :: more ∧
      language.Opening names front mark rest found ∧
      trace.Shows names.inHeader (language.behindHeader names) ⟨found.stop, found.kept⟩ ∧
      test trace = true := by
  simp only [opensAt, Bool.and_eq_true, decide_eq_true_eq] at opens
  obtain ⟨⟨⟨⟨takes, overFirst⟩, overFeed⟩, split⟩, hits⟩ := opens
  have isOpen : false = true → language.behindHeader names = [] := nofun
  have atLine : Front.lineStart.Shows ('\n' :: (language.shownLine.text names.bound).reverse) := rfl
  obtain ⟨found, trace, matched, start, shown, tested⟩ :=
    exists_matchAt?_of_hits areNames.inHeader isOpen atLine hits
  rw [Bool.and_eq_true] at tested
  have first := @hunt_fill pattern [] ('\n' :: (fill names.inHeader language.loopHeader ++
    language.behindHeader names)) (fun _ => names.bound) _ (fun _ => areNames.bound) overFirst
  have feed := @hunt_of_misses _ (language.behindHeader names) _ pattern
    (language.shownLine.text names.bound).reverse _ _ areNames.inHeader isOpen overFeed
  rw [fill_map_letter] at feed
  rw [List.append_nil] at first
  -- The search passes the first line and its line feed, and then it is at the header.
  have whole := first.append (feed.append (.hit matched (.done _)))
  have text : fill (fun _ => names.bound) language.shownLine.template ++
      '\n' :: (fill names.inHeader language.loopHeader ++ language.behindHeader names) =
        language.countedBy language.shownLine names := by
    rw [countedBy_eq, toLoop, List.append_assoc]
    rfl
  rw [text] at whole
  obtain ⟨more, found'⟩ := whole.exists_findAll (shortens_of_takesLetter takes)
  have behind := liesBehind_of_matchAt? matched
  have atStart : found.start = language.headerPlace names [] language.loopHeader := by
    rw [start, headerPlace, toLoop, List.reverse_append]
    rfl
  have ahead : found.start.rest = fill names.inHeader ((front ++ [.letter mark]) ++ rest) ++
      language.behindHeader names := by
    rw [start, split, List.append_assoc]
    rfl
  have atStop := shown.stop_eq tested.1 behind.stop ahead
  have stop : found.stop = language.headerPlace names (front ++ [.letter mark]) rest := by
    rw [atStop, atStart]
    rfl
  refine ⟨found, more, trace, found', ⟨split, atStart, ?_, stop, ?_⟩, shown, tested.2⟩
  · rw [Match.last, stop]
    simp [headerPlace, Cursor.back]
  · intro slot piece looked
    obtain ⟨newer, older, kept, _⟩ := List.lookup_eq_some_iff.mp looked
    exact (behind.kept slot piece (kept ▸ List.mem_append_right _ List.mem_cons_self)).1

theorem Opening.start_piece {found : Match} {piece : Piece} {slot : Nat} {front' rest' : Template}
    (opening : language.Opening names front mark rest found)
    (looked : found.piece? slot = some piece)
    (ahead : piece.start.rest = fill names.inHeader rest' ++ language.behindHeader names)
    (split : language.loopHeader = front' ++ rest') :
    piece.start = language.headerPlace names front' rest' := by
  -- A piece never starts in front of its match, so what is ahead of it tells where it is.
  have order := opening.kept slot piece looked
  rw [opening.start, split] at order
  exact Cursor.eq_of_le_of_rest order (by simp [headerPlace]) ahead

/-! ## Bodies -/

section Bodies

/-- Whether the lines inside can stand in braces. -/
def isBraced (language : Language) : Bool :=
  language.loopEnd = "\n\x7d" && language.bodyEnd = "\n" &&
    Template.depth? 1 language.shownLine.indented.fed = some 1

theorem block?_headerPlace (areNames : names.AreNames) (braced : language.isBraced = true)
    (header : language.loopHeader = front ++ "\x7b") :
    (language.headerPlace names front "\x7b").block?.map Piece.span =
      some (language.bodySpan names) := by
  simp only [isBraced, Bool.and_eq_true, decide_eq_true_eq] at braced
  obtain ⟨⟨ending, bodyEnd⟩, level⟩ := braced
  have place : language.headerPlace names front "\x7b" =
      ⟨(fill names.inHeader front).reverse ++ (language.toLoop names).reverse,
        '\x7b' :: (language.shownLine.indented.below names.inside ++
          '\n' :: '\x7d' :: (language.shownLine.below names.behind ++ ['\n']))⟩ := by
    rw [headerPlace, behindHeader, fromBody, ending, fill_map_letter, fill_map_letter]
    rfl
  have size : Text.size (language.toBody names) = Text.size (language.toLoop names) +
      (Text.size (fill names.inHeader front) + '\x7b'.utf8Size) := by
    rw [toBody_eq, header, fill_append, Text.size_append, Text.size_append, fill_map_letter]
    rfl
  rw [place, Cursor.block?_below areNames.inside level, Option.map_some]
  simp only [Piece.span, Cursor.spanUpTo, bodySpan, Cursor.offset, bodyEnd, size,
    fill_map_letter, Text.size_append, Text.size_cons, Text.size_reverse]
  have feed : Text.size "\n".toList = '\n'.utf8Size := rfl
  simp only [Option.some.injEq, Span.mk.injEq, feed]
  omega

theorem bodyAfter?_headerPlace (areNames : names.AreNames) (braced : language.isBraced = true)
    (header : language.loopHeader = front ++ " \x7b") (feedsEnd : Bool) :
    ((language.headerPlace names front " \x7b").bodyAfter? feedsEnd).map Piece.span =
      some (language.bodySpan names) := by
  have brace : language.loopHeader = (front ++ " ") ++ "\x7b" := by
    rw [header, List.append_assoc]
    rfl
  have block := block?_headerPlace areNames braced brace
  have skipped : (language.headerPlace names front " \x7b").bodyAfter? feedsEnd =
      (language.headerPlace names (front ++ " ") "\x7b").block? := by
    rw [headerPlace, headerPlace, fill_append, List.reverse_append, fill_map_letter,
      fill_map_letter]
    exact Cursor.bodyAfter?_brace feedsEnd _ _
  rw [skipped, block]

end Bodies

/-! ## Headers of three clauses -/

section Clauses

variable {clauses : InputDemand.Clauses} {sigil assigned : Template} {more : List ClauseHeader}
  {header : ClauseHeader}

theorem exists_firstClauseLoop? (areNames : names.AreNames) (free : names.bound ∉ Linear.reserved)
    (isSigil : fill names.inHeader sigil ∈ sigils) (counts : clauses.counts sigil assigned = true)
    (spelled : header.clauses = fill names.inHeader clauses.template)
    (body : header.body?.map Piece.span = some (language.bodySpan names)) :
    ∃ loop, firstClauseLoop? 0 (header :: more) = some loop ∧ language.IsCounted names loop := by
  have counted := counterHeader?_of_counts areNames.inHeader free isSigil counts
  rw [firstClauseLoop?, if_neg (Nat.not_lt_zero _), spelled, counted]
  exact ⟨_, rfl, rfl, rfl, body⟩

/-- Whether a header has three clauses in brackets that count up to the bound. -/
def countsInBrackets (language : Language) (clauses : InputDemand.Clauses)
    (sigil assigned : Template) : Bool :=
  language.isBraced && clauses.counts sigil assigned &&
    Template.depth? 1 clauses.template = some 1 &&
    language.opensAt forOpening "for " '(' (clauses.template ++ .letter ')' :: " \x7b")
      fun _ => true

theorem exists_bracketedClauses? {found : Match} (areNames : names.AreNames)
    (braced : language.isBraced = true) (counts : clauses.counts sigil assigned = true)
    (leads : Template.depth? 1 clauses.template = some 1)
    (opening : language.Opening names "for " '('
      (clauses.template ++ .letter ')' :: " \x7b") found) :
    ∃ header, bracketedClauses? found = some header ∧
      header.clauses = fill names.inHeader clauses.template ∧
      header.body?.map Piece.span = some (language.bodySpan names) := by
  simp only [InputDemand.Clauses.counts, Bool.and_eq_true] at counts
  obtain ⟨⟨⟨⟨⟨start, condition⟩, step⟩, _⟩, _⟩, _⟩ := counts
  have three := splitOutside_clauses areNames.inHeader start condition step
  rw [bracketedClauses?, opening.last, matchingClose?_headerPlace areNames leads]
  simp only [Option.bind_eq_bind, Option.bind_some, opening.stop, textUpTo_headerPlace, three,
    next_headerPlace]
  refine ⟨_, rfl, rfl, bodyAfter?_headerPlace areNames braced ?_ false⟩
  rw [opening.header]
  simp

theorem exists_loop_of_countsInBrackets (areNames : names.AreNames)
    (free : names.bound ∉ Linear.reserved) (isSigil : fill names.inHeader sigil ∈ sigils)
    (counts : language.countsInBrackets clauses sigil assigned = true) :
    ∃ loop, firstClauseLoop? 0 ((forOpening.findAll
      (language.countedBy language.shownLine names)).filterMap bracketedClauses?) = some loop ∧
        language.IsCounted names loop := by
  simp only [countsInBrackets, Bool.and_eq_true, decide_eq_true_eq] at counts
  obtain ⟨⟨⟨braced, counts⟩, leads⟩, opens⟩ := counts
  obtain ⟨found, more, _, all, opening, _, _⟩ := exists_opening areNames opens
  obtain ⟨header, read, spelled, body⟩ :=
    exists_bracketedClauses? areNames braced counts leads opening
  rw [all, List.filterMap_cons, read]
  exact exists_firstClauseLoop? areNames free isSigil counts spelled body

/-- Whether a header has three bare clauses that count up to the bound, up to its brace. -/
def countsBare (language : Language) (front : Template) (spellings : List InputDemand.Clauses)
    (assigned : Template) : Bool :=
  language.isBraced && spellings.all (fun clauses => clauses.counts [] assigned) &&
    language.opensAt bareClauses front '\x7b' [] fun trace =>
      spellings.any fun clauses =>
        trace.keeps 1 clauses.template "\x7b" || trace.keeps 1 clauses.template " \x7b"

theorem exists_loop_of_countsBare {spellings : List InputDemand.Clauses} (areNames : names.AreNames)
    (free : names.bound ∉ Linear.reserved)
    (counts : language.countsBare front spellings assigned = true) :
    ∃ loop, firstClauseLoop? 0 ((bareClauses.findAll
      (language.countedBy language.shownLine names)).map bareClauseHeader) = some loop ∧
        language.IsCounted names loop := by
  simp only [countsBare, Bool.and_eq_true] at counts
  obtain ⟨⟨braced, counts⟩, opens⟩ := counts
  obtain ⟨found, more, trace, all, opening, shown, tested⟩ := exists_opening areNames opens
  obtain ⟨clauses, listed, keeps⟩ := List.any_eq_true.mp tested
  have spelled : found.group 1 = fill names.inHeader clauses.template := by
    rcases Bool.or_eq_true_iff.mp keeps with keeps | keeps
    · exact shown.group keeps
    · exact shown.group keeps
  have isSigil : fill names.inHeader [] ∈ sigils := List.mem_cons_self
  have counted := List.all_eq_true.mp counts clauses listed
  have body : found.last.block?.map Piece.span = some (language.bodySpan names) := by
    rw [opening.last]
    exact block?_headerPlace areNames braced opening.header
  rw [all, List.map_cons]
  exact exists_firstClauseLoop? areNames free isSigil counted spelled body

end Clauses

/-! ## Ranges and sequences -/

section Ranges

theorem ofText?_of_isName {name : Text} (isName : Text.isName name = true)
    (free : name ∉ Linear.reserved) : Linear.ofText? name = some ⟨some name, 0⟩ :=
  @ofText?_sigil [] List.mem_cons_self name name isName free (Or.inl rfl)

/-- A range up to a name has as many numbers as the value of the name says. -/
theorem rangeCount?_of_isName {name : Text} (isName : Text.isName name = true)
    (free : name ∉ Linear.reserved) :
    rangeCount? name = some ⟨⟨.name name, 0, 1⟩, .ascending⟩ := by
  have plain : name.all (fun letter => isUnbracketed letter && letter != ',') = true :=
    Text.all_of_isName (by decide +kernel) isName
  have trimmed : Text.trim name = name := Text.trim_eq_self (Text.not_isBlank_of_isName isName)
  have visible : name ≠ [] := by
    obtain ⟨first, more, split, _⟩ := Text.exists_cons_of_isName isName
    rw [split]
    exact List.cons_ne_nil _ _
  have single : (Text.arguments name).map Prod.snd = [name] := by
    rw [Text.arguments_eq plain trimmed visible]
    rfl
  have zero : Linear.ofText? ['0'] = some ⟨none, 0⟩ := by decide +kernel
  rw [rangeCount?, single]
  simp only
  rw [countTo?, tripBetween_name zero (ofText?_of_isName isName free) rfl]
  exact Nat.one_ne_zero

/-- A sequence from one up to a name has as many numbers as the value of the name says. -/
theorem sequenceTextCount?_of_isName {name : Text} (isName : Text.isName name = true)
    (free : name ∉ Linear.reserved) :
    sequenceTextCount? ('1' :: ':' :: name) = some ⟨⟨.name name, 0, 1⟩, .ascending⟩ := by
  have plain : name.all (fun letter => isUnbracketed letter && letter != ':') = true :=
    Text.all_of_isName (by decide +kernel) isName
  have split : Text.splitOutside ':' (['1'] ++ ':' :: name) = [['1'], name] := by
    rw [Text.splitOutside_append rfl rfl, Text.splitOutside_eq plain]
  have one : Linear.ofText? ['1'] = some ⟨none, 1⟩ := by decide +kernel
  have last := ofText?_of_isName isName free
  have counted : sequenceCount? ['1'] name = some ⟨⟨.name name, 0, 1⟩, .ascending⟩ := by
    rw [sequenceCount?, one, last]
    simp only
    rw [countTo?, tripBetween_name one last rfl]
    exact Nat.one_ne_zero
  rw [List.singleton_append] at split
  rw [sequenceTextCount?, split]
  simp only [counted]
  rfl

theorem suite?_headerPlace (areNames : names.AreNames) (filled : names.inside ≠ [])
    (bare : language.loopEnd = [] ∧ language.bodyEnd = [])
    (indented : language.shownLine.indented.isSet true = true)
    (flush : language.shownLine.isSet false = true)
    (whole : front.all (Sign.passes (· ≠ '\n')) = true)
    (visible : (fill names.inHeader front).head?.any (fun letter => !isBlank letter) = true)
    (header : language.loopHeader = front ++ ":") :
    (language.headerPlace names front ":").suite?.map Piece.span =
      some (language.bodySpan names) := by
  have inLine := feed_not_mem_fill areNames.inHeader whole
  have suite := @Cursor.suite?_below language.shownLine.indented names.inside
    (language.shownLine.text names.bound).reverse language.shownLine names.behind
    (fill names.inHeader front) inLine visible areNames.inside areNames.behind filled indented flush
  have place : language.headerPlace names front ":" =
      ⟨(fill names.inHeader front).reverse ++ '\n' :: (language.shownLine.text names.bound).reverse,
        ':' :: (language.shownLine.indented.below names.inside ++
          (language.shownLine.below names.behind ++ ['\n']))⟩ := by
    simp [headerPlace, toLoop, behindHeader, fromBody, bare.1]
  have size : Text.size (language.toBody names) =
      Text.size (fill names.inHeader front) + (':'.utf8Size +
        ('\n'.utf8Size + Text.size (language.shownLine.text names.bound))) := by
    rw [toBody_eq, header, toLoop]
    simp only [fill_append, fill_map_letter, Text.size_append]
    have colon : Text.size ":".toList = ':'.utf8Size := rfl
    have feed : Text.size ['\n'] = '\n'.utf8Size := rfl
    omega
  rw [place, suite, Option.map_some]
  simp only [Piece.span, Cursor.spanUpTo, bodySpan, Cursor.offset, bare.2, size, fill_nil,
    Text.size_append, Text.size_cons, Text.size_reverse, Text.size_nil]
  simp only [Option.some.injEq, Span.mk.injEq]
  omega

theorem exists_rangeLoop? (areNames : names.AreNames) (free : names.bound ∉ Linear.reserved)
    (filled : names.inside ≠ []) {found : Match}
    (opening : python.Opening names ("for " ++ Template.name 0 ++ " in range") '('
      (Template.name 1 ++ .letter ')' :: ":") found) :
    ∃ loop, rangeLoop? found = some loop ∧ python.IsCounted names loop := by
  have counted := rangeCount?_of_isName areNames.bound free
  have leads : Template.depth? 1 (Template.name 1) = some 1 := rfl
  have inside : fill names.inHeader (Template.name 1) = names.bound := fill_name 1
  have toColon : ∀ front, (python.headerPlace names front (.letter ')' :: ":")).find? [':'] =
      some (python.headerPlace names (front ++ [.letter ')']) ":") := by
    intro front
    rw [← next_headerPlace]
    rfl
  rw [rangeLoop?, opening.last, matchingClose?_headerPlace areNames leads]
  simp only [Option.bind_eq_bind, Option.bind_some, opening.stop, textUpTo_headerPlace, toColon,
    inside, counted]
  refine ⟨_, rfl, rfl, rfl, ?_⟩
  exact suite?_headerPlace areNames filled ⟨rfl, rfl⟩ (by decide +kernel) (by decide +kernel)
    (by decide +kernel) rfl rfl

theorem exists_loop_of_range (areNames : names.AreNames) (free : names.bound ∉ Linear.reserved)
    (filled : names.inside ≠ []) :
    ∃ loop, python.counterLoop? (python.countedBy python.shownLine names) 0 = some loop ∧
      python.IsCounted names loop := by
  have opens : python.opensAt rangeLoopOpening ("for " ++ Template.name 0 ++ " in range") '('
      (Template.name 1 ++ .letter ')' :: ":") (fun _ => true) = true := by decide +kernel
  obtain ⟨found, more, _, all, opening, _, _⟩ := exists_opening areNames opens
  obtain ⟨loop, read, counted⟩ := exists_rangeLoop? areNames free filled opening
  refine ⟨loop, ?_, counted⟩
  rw [counterLoop?, all, List.filter_cons, if_pos (decide_eq_true (Nat.zero_le _)),
    List.findSome?_cons, read]

theorem exists_sequenceHeader? (areNames : names.AreNames) {found : Match} {trace : Trace}
    (opening : r.Opening names ("for (" ++ Template.name 0 ++ " in") ' '
      ("1:" ++ Template.name 1 ++ (.letter ')' :: " \x7b" : Template)) found)
    (shown : trace.Shows names.inHeader (r.behindHeader names) ⟨found.stop, found.kept⟩)
    (keeps : trace.keeps 2 "("
      (Template.name 0 ++ " in 1:" ++ Template.name 1 ++ ") \x7b") = true) :
    ∃ header, sequenceHeader? found = some header ∧
      header.sequence = '1' :: ':' :: names.bound ∧
      (header.stop.bodyAfter? true).map Piece.span = some (r.bodySpan names) := by
  have leads : Template.depth? 1 (Template.name 0 ++ " in 1:" ++ Template.name 1) = some 1 := by
    decide +kernel
  obtain ⟨piece, looked, start, _⟩ := shown.exists_piece keeps
  have bracket : piece.start = r.headerPlace names "for " (.letter '(' ::
      (Template.name 0 ++ " in 1:" ++ Template.name 1 ++ (.letter ')' :: " \x7b" : Template))) := by
    refine opening.start_piece looked ?_ rfl
    rw [start, ← List.append_assoc, ← fill_append]
    rfl
  have sequence : fill names.inHeader ("1:" ++ Template.name 1) = '1' :: ':' :: names.bound := by
    rw [fill_append, fill_name, fill_map_letter]
    rfl
  have trimmed : Text.trim ('1' :: ':' :: names.bound) = '1' :: ':' :: names.bound := by
    apply Text.trim_eq_self
    rw [List.all_cons, List.all_cons, Text.not_isBlank_of_isName areNames.bound]
    rfl
  rw [sequenceHeader?, looked]
  simp only [Option.bind_eq_bind, Option.bind_some, bracket, opening.stop,
    matchingClose?_headerPlace areNames leads, textUpTo_headerPlace, sequence, trimmed,
    next_headerPlace]
  exact ⟨_, rfl, rfl, bodyAfter?_headerPlace areNames (by decide +kernel) rfl true⟩

theorem exists_loop_of_sequence (areNames : names.AreNames)
    (free : names.bound ∉ Linear.reserved) :
    ∃ loop, r.counterLoop? (r.countedBy r.shownLine names) 0 = some loop ∧
      r.IsCounted names loop := by
  have opens : r.opensAt sequenceLoopOpening ("for (" ++ Template.name 0 ++ " in") ' '
      ("1:" ++ Template.name 1 ++ (.letter ')' :: " \x7b" : Template))
      (Trace.keeps 2 "(" (Template.name 0 ++ " in 1:" ++ Template.name 1 ++ ") \x7b")) = true := by
    decide +kernel
  obtain ⟨found, more, trace, all, opening, shown, keeps⟩ := exists_opening areNames opens
  obtain ⟨header, read, sequence, body⟩ := exists_sequenceHeader? areNames opening shown keeps
  have counted := sequenceTextCount?_of_isName areNames.bound free
  rw [counterLoop?, sequenceHeaders, all, List.filterMap_cons, read]
  simp only
  rw [List.filter_cons, if_pos (decide_eq_true (Nat.zero_le _)), List.findSome?_cons, sequenceLoop?,
    sequence, counted]
  exact ⟨_, rfl, rfl, rfl, body⟩

end Ranges

/-! ## The loop -/

/-- The first counting loop of a counted program is the one it was written with. -/
theorem exists_counterLoop? (reads : language ≠ sql) (areNames : names.AreNames)
    (free : names.bound ∉ Linear.reserved) (filled : names.inside ≠ []) :
    ∃ loop, language.counterLoop? (language.countedBy language.shownLine names) 0 = some loop ∧
      language.IsCounted names loop := by
  let clauses (front sigil : Template) : InputDemand.Clauses :=
    ⟨front ++ sigil ++ Template.name 0 ++ " = 0",
      " " ++ sigil ++ Template.name 0 ++ " < " ++ sigil ++ Template.name 1,
      " " ++ sigil ++ Template.name 0 ++ "++"⟩
  have bare : fill names.inHeader [] ∈ sigils := List.mem_cons_self
  have dollar : fill names.inHeader "$" ∈ sigils := List.mem_cons_of_mem _ List.mem_cons_self
  cases language with
  | python => exact exists_loop_of_range areNames free filled
  | r => exact exists_loop_of_sequence areNames free
  | sql => exact absurd rfl reads
  | c | cpp | java =>
      exact @exists_loop_of_countsInBrackets _ names (clauses "int " []) [] " = 0" areNames free
        bare (by decide +kernel)
  | javascript | typescript =>
      exact @exists_loop_of_countsInBrackets _ names (clauses "let " []) [] " = 0" areNames free
        bare (by decide +kernel)
  | php =>
      exact @exists_loop_of_countsInBrackets _ names (clauses [] "$") "$" " = 0" areNames free
        dollar (by decide +kernel)
  | go =>
      let spelled (end' : Template) : InputDemand.Clauses :=
        ⟨Template.name 0 ++ " := 0", " " ++ Template.name 0 ++ " < " ++ Template.name 1,
          " " ++ Template.name 0 ++ "++" ++ end'⟩
      exact @exists_loop_of_countsBare go names
        ("for " ++ Template.name 0 ++ " := 0; " ++ Template.name 0 ++ " < " ++ Template.name 1 ++
          "; " ++ Template.name 0 ++ "++ ") " := 0" [spelled [], spelled " "] areNames free
        (by decide +kernel)

end Language

end InputDemand

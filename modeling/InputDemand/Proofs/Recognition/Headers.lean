import InputDemand.Recognition.BodyFirstLoops
import InputDemand.Recognition.CollectionLoops
import InputDemand.Recognition.CounterLoops
import InputDemand.Proofs.Pattern.Matches
import InputDemand.Proofs.Source.Agree
import InputDemand.Proofs.Source.Body

/-!
# Where loops lie

Every loop that is found has a header that takes up some of the masked source, and its body, if it
has one, lies behind the header and can be masked alone.  Headers end in three ways: with the
bracket that closes them, with the brace of their block, or with a colon.
-/

namespace InputDemand

/-- A header between two places of masked source, with the body behind it. -/
structure HeaderAt (lexicon : Lexicon) (masked : Text) (start stop : Cursor)
    (body? : Option Piece) : Prop where
  text : start.text = masked
  order : start ≤ stop
  taken : start.offset < stop.offset
  shows : ∃ letter, stop.before.head? = some letter ∧ letter ≠ ' '
  body : ∀ body, body? = some body → stop ≤ body.start ∧ body.Severable lexicon

/-- The loop is of a kind and has its header at or behind a position of masked source. -/
def Loop.Placed (lexicon : Lexicon) (masked : Text) (kind : LoopKind) (least : Nat)
    (loop : Loop) : Prop :=
  ∃ start stop body?, HeaderAt lexicon masked start stop body? ∧ least ≤ start.offset ∧
    loop.kind = kind ∧ loop.header = start.spanUpTo stop ∧ loop.body? = body?.map Piece.span

/-- The header of a loop takes up some of a source of so many bytes, and the body lies behind it. -/
structure Loop.Within (size : Nat) (loop : Loop) : Prop where
  header : loop.header.start < loop.header.stop
  stop : loop.header.stop ≤ size
  body : ∀ body, loop.body? = some body →
    loop.header.stop ≤ body.start ∧ body.start ≤ body.stop ∧ body.stop ≤ size

def Span.Has (span : Span) (offset : Nat) : Prop :=
  span.start ≤ offset ∧ offset < span.stop

/-! ## Three ways to end a header -/

namespace HeaderAt

variable {lexicon : Lexicon} {masked : Text} {start stop opening close colon : Cursor}

/-- A header that ends with a closing bracket. -/
theorem of_brackets (regular : lexicon.Regular) (feedsEnd : Bool) (text : start.text = masked)
    (order : start ≤ opening) (closed : opening.matchingClose? = some close) :
    HeaderAt lexicon masked start close.next (close.next.bodyAfter? feedsEnd) := by
  obtain ⟨behind, closing⟩ := Cursor.matchingClose?_eq_some closed
  have order : start ≤ close := le_trans order behind
  refine ⟨text, le_trans order (Cursor.le_next close), ?_, ?_, ?_⟩
  · exact lt_of_le_of_lt (Cursor.offset_le_of_le order) closing.offset_lt_next
  · obtain ⟨letter, found, isClosing⟩ := closing.before_next
    exact ⟨letter, found, ne_blank_of_isFirm (isFirm_of_closes isClosing).1⟩
  · intro body found
    have clean := Cursor.clean_next_of_atClosing regular closing
    exact Cursor.severable_of_bodyAfter? regular clean found

/-- A header that ends with the brace of its block. -/
theorem of_brace (regular : lexicon.Regular) (text : start.text = masked)
    (order : start ≤ stop.back) (brace : stop.before.head? = some '\x7b') :
    HeaderAt lexicon masked start stop stop.back.block? := by
  have found := Cursor.rest_back brace
  have next := Cursor.next_back brace
  refine ⟨text, le_trans order (Cursor.back_le stop), ?_, ⟨_, brace, by decide⟩, ?_⟩
  · rw [← next]
    exact lt_of_le_of_lt (Cursor.offset_le_of_le order) (Cursor.offset_lt_next found)
  · intro body block
    have lies := Cursor.severable_of_block? regular found block
    rwa [next] at lies

/-- A header that ends with a colon; blanks in front of it do not belong to it. -/
theorem of_colon (regular : lexicon.Regular) (noBlocks : lexicon.blockComments = false)
    (text : start.text = masked) (order : start ≤ colon)
    (found : colon.rest.head? = some ':') :
    HeaderAt lexicon masked start.skipBlank colon.next colon.suite? := by
  have order : start.skipBlank ≤ colon := Cursor.skipWhile_le order found (by decide)
  refine ⟨?_, le_trans order (Cursor.le_next colon), ?_, ?_, ?_⟩
  · rw [Cursor.skipBlank, Cursor.text_skipWhile, text]
  · exact lt_of_le_of_lt (Cursor.offset_le_of_le order) (Cursor.offset_lt_next found)
  · exact ⟨':', Cursor.before_next found, by decide⟩
  · intro body suite
    exact Cursor.severable_of_suite? regular noBlocks found suite

theorem text_eq_of_body {body? : Option Piece} {body : Piece}
    (header : HeaderAt lexicon masked start stop body?) (found : body? = some body) :
    body.start.text = masked := by
  obtain ⟨behind, _⟩ := header.body body found
  rw [← header.text, Cursor.text_eq_of_le header.order, Cursor.text_eq_of_le behind]

end HeaderAt

/-! ## What is known of a loop with a place -/

namespace Loop

variable {lexicon : Lexicon} {masked : Text} {kind : LoopKind} {least more size : Nat} {loop : Loop}

namespace Placed

theorem of_le (placed : loop.Placed lexicon masked kind more) (order : least ≤ more) :
    loop.Placed lexicon masked kind least := by
  obtain ⟨start, stop, body?, header, behind, spans⟩ := placed
  exact ⟨start, stop, body?, header, le_trans order behind, spans⟩

theorem kind_eq (placed : loop.Placed lexicon masked kind least) : loop.kind = kind := by
  obtain ⟨start, stop, body?, _, _, isKind, _⟩ := placed
  exact isKind

theorem least_le (placed : loop.Placed lexicon masked kind least) : least ≤ loop.header.start := by
  obtain ⟨start, stop, body?, _, behind, _, header, _⟩ := placed
  rw [header]
  exact behind

theorem within (placed : loop.Placed lexicon masked kind least) :
    loop.Within (Text.size masked) := by
  obtain ⟨start, stop, body?, lies, _, _, header, bodies⟩ := placed
  have inside : ∀ place : Cursor, start ≤ place → place.offset ≤ Text.size masked := by
    intro place order
    rw [← lies.text, Cursor.text_eq_of_le order]
    exact place.offset_le_size
  refine ⟨?_, ?_, ?_⟩
  · rw [header]
    exact lies.taken
  · rw [header]
    exact inside stop lies.order
  · intro span found
    rw [bodies, Option.map_eq_some_iff] at found
    obtain ⟨body, found, rfl⟩ := found
    obtain ⟨behind, severable⟩ := lies.body body found
    have order := severable.order
    rw [header]
    exact ⟨Cursor.offset_le_of_le behind, Cursor.offset_le_of_le order,
      inside body.stop (le_trans lies.order (le_trans behind order))⟩

/-- The body of a loop can be cut out of every source with the masked form, and what is cut out has
the same masked form in all of them. -/
theorem exists_inside (regular : lexicon.Regular) (placed : loop.Placed lexicon masked kind least)
    {span : Span} (found : loop.body? = some span) :
    ∃ shown, ∀ source, lexicon.mask source = masked →
      ∃ inside, Text.slice source span = .ok inside ∧ lexicon.mask inside = shown := by
  obtain ⟨start, stop, body?, lies, _, _, _, bodies⟩ := placed
  rw [bodies, Option.map_eq_some_iff] at found
  obtain ⟨body, found, rfl⟩ := found
  obtain ⟨_, severable⟩ := lies.body body found
  refine ⟨body.text, ?_⟩
  intro source mask
  exact severable.slice regular (mask.trans (lies.text_eq_of_body found).symm)

end Placed

theorem not_has_of_stop_le {body : Span} {offset : Nat} (found : loop.body? = some body)
    (behind : loop.stop ≤ offset) : ¬body.Has offset := by
  rintro ⟨_, inside⟩
  have last : body.stop ≤ loop.stop := by
    simp only [Loop.stop, found]
    exact le_max_left _ _
  omega

namespace Within

theorem stop_le (within : loop.Within size) : loop.stop ≤ size := by
  unfold Loop.stop
  split
  · exact within.stop
  · rename_i body found
    exact max_le (within.body body found).2.2 within.stop

theorem start_lt_stop (within : loop.Within size) : loop.header.start < loop.stop := by
  unfold Loop.stop
  split
  · exact within.header
  · exact lt_of_lt_of_le within.header (le_max_right _ _)

theorem not_has_of_le (within : loop.Within size) {body : Span} {offset : Nat}
    (found : loop.body? = some body) (ahead : offset ≤ loop.header.start) : ¬body.Has offset := by
  rintro ⟨inside, _⟩
  have taken := within.header
  have behind := (within.body body found).1
  omega

end Within

end Loop

open Pattern

/-! ## Counting loops -/

section Counting

variable {lexicon : Lexicon} {masked : Text} {found : Match} {loop : Loop} {least : Nat}

/-- A header of three clauses is passed over together with its body. -/
theorem ClauseHeader.start_le_bodyStop {header : ClauseHeader}
    (lies : HeaderAt lexicon masked header.start header.stop header.body?) :
    header.start.offset ≤ header.bodyStop := by
  unfold bodyStop
  split
  · exact le_of_lt lies.taken
  · rename_i body found
    obtain ⟨behind, severable⟩ := lies.body body found
    exact Cursor.offset_le_of_le (le_trans lies.order (le_trans behind severable.order))

theorem placed_of_firstClauseLoop? {headers : List ClauseHeader}
    (lie : ∀ header ∈ headers, HeaderAt lexicon masked header.start header.stop header.body?)
    (found : firstClauseLoop? least headers = some loop) :
    loop.Placed lexicon masked .counter least := by
  induction headers generalizing least with
  | nil => cases found
  | cons header headers inductionHypothesis =>
      have later := fun other member => lie other (List.mem_cons_of_mem header member)
      have here := lie header List.mem_cons_self
      unfold firstClauseLoop? at found
      split at found
      · exact inductionHypothesis later found
      · rename_i behind
        split at found
        -- A header without a count is passed over with its body, which moves the position on.
        · have placed := inductionHypothesis later found
          refine placed.of_le (le_trans (Nat.le_of_not_lt behind) ?_)
          exact ClauseHeader.start_le_bodyStop here
        · cases found
          exact ⟨_, _, _, here, Nat.le_of_not_lt behind, rfl, rfl, rfl⟩

theorem endsWith_forOpening : EndsWith forOpening '(' :=
  (endsWith_word '(').andThen _

theorem headerAt_of_bracketedClauses? {header : ClauseHeader} (regular : lexicon.Regular)
    (member : found ∈ forOpening.findAll masked) (opens : bracketedClauses? found = some header) :
    HeaderAt lexicon masked header.start header.stop header.body? := by
  have text := text_of_mem_findAll member
  have order := (endsWith_forOpening.findAll member).2
  simp only [bracketedClauses?, Option.bind_eq_bind, Option.bind_eq_some_iff] at opens
  obtain ⟨close, closed, opens⟩ := opens
  split at opens
  · cases opens
  · cases opens
    exact .of_brackets regular false text order closed

theorem endsWith_bareClauses : EndsWith bareClauses '\x7b' :=
  (endsWith_word '\x7b').andThen _

theorem headerAt_bareClauseHeader (regular : lexicon.Regular)
    (member : found ∈ bareClauses.findAll masked) :
    let header := bareClauseHeader found
    HeaderAt lexicon masked header.start header.stop header.body? := by
  have text := text_of_mem_findAll member
  obtain ⟨brace, order⟩ := endsWith_bareClauses.findAll member
  exact .of_brace regular text order brace

theorem endsWith_rangeLoopOpening : EndsWith rangeLoopOpening '(' :=
  (endsWith_word '(').andThen _

theorem placed_of_rangeLoop? (regular : lexicon.Regular)
    (noBlocks : lexicon.blockComments = false) (member : found ∈ rangeLoopOpening.findAll masked)
    (behind : least ≤ found.start.offset) (opens : rangeLoop? found = some loop) :
    loop.Placed lexicon masked .counter least := by
  have text := text_of_mem_findAll member
  have order := (endsWith_rangeLoopOpening.findAll member).2
  simp only [rangeLoop?, Option.bind_eq_bind, Option.bind_eq_some_iff] at opens
  obtain ⟨close, closed, colon, named, count, counted, opens⟩ := opens
  cases opens
  obtain ⟨ahead, starts⟩ := Cursor.find?_eq_some named
  have order : found.start ≤ colon :=
    le_trans (le_trans order (Cursor.matchingClose?_eq_some closed).1) ahead
  have head : colon.rest.head? = some ':' := by
    obtain ⟨rest, split⟩ := starts
    rw [← split]
    rfl
  refine ⟨_, _, _, .of_colon regular noBlocks text order head, le_trans behind ?_, rfl, rfl, rfl⟩
  exact Cursor.offset_le_of_le (Cursor.le_skipBlank found.start)

/-- The header of a loop over a sequence, with whatever follows it. -/
theorem headerAt_of_mem_sequenceHeaders {header : SequenceHeader} (regular : lexicon.Regular)
    (member : header ∈ sequenceHeaders masked least) :
    HeaderAt lexicon masked header.start header.stop (header.stop.bodyAfter? true) ∧
      least ≤ header.start.offset := by
  obtain ⟨member, behind⟩ := List.mem_filter.mp member
  obtain ⟨found, matched, opens⟩ := List.mem_filterMap.mp member
  have lies := liesBehind_of_mem_findAll matched
  simp only [sequenceHeader?, Option.bind_eq_bind, Option.bind_eq_some_iff] at opens
  obtain ⟨bracket, kept, close, closed, opens⟩ := opens
  cases opens
  obtain ⟨newer, older, split, _⟩ := List.lookup_eq_some_iff.mp kept
  obtain ⟨order, _⟩ := lies.kept 2 bracket (by rw [split]; simp)
  exact ⟨.of_brackets regular true lies.text order closed, of_decide_eq_true behind⟩

theorem placed_of_sequenceLoop? {header : SequenceHeader} (regular : lexicon.Regular)
    (member : header ∈ sequenceHeaders masked least) (opens : sequenceLoop? header = some loop) :
    loop.Placed lexicon masked .counter least := by
  obtain ⟨lies, behind⟩ := headerAt_of_mem_sequenceHeaders regular member
  obtain ⟨count, counted, opens⟩ := Option.bind_eq_some_iff.mp opens
  cases opens
  exact ⟨_, _, _, lies, behind, rfl, rfl, rfl⟩

theorem Language.placed_of_counterLoop? (language : Language)
    (opens : language.counterLoop? masked least = some loop) :
    loop.Placed language.lexicon masked .counter least := by
  have regular := language.regular_lexicon
  unfold Language.counterLoop? at opens
  split at opens
  · obtain ⟨found, member, opens⟩ := List.exists_of_findSome?_eq_some opens
    obtain ⟨member, behind⟩ := List.mem_filter.mp member
    exact placed_of_rangeLoop? regular rfl member (of_decide_eq_true behind) opens
  · refine placed_of_firstClauseLoop? ?_ opens
    intro header member
    obtain ⟨found, matched, rfl⟩ := List.mem_map.mp member
    exact headerAt_bareClauseHeader regular matched
  · obtain ⟨header, member, opens⟩ := List.exists_of_findSome?_eq_some opens
    exact placed_of_sequenceLoop? regular member opens
  · cases opens
  · refine placed_of_firstClauseLoop? ?_ opens
    intro header member
    obtain ⟨found, member, opens⟩ := List.mem_filterMap.mp member
    exact headerAt_of_bracketedClauses? regular member opens

end Counting

/-! ## Loops over collections -/

section Collecting

variable {lexicon : Lexicon} {masked : Text} {found : Match} {loop : Loop} {least : Nat}

theorem Language.endsWith_elementHeader? {language : Language} {header : ElementHeader}
    (known : language.elementHeader? = some header) : EndsWith header.opening '(' := by
  cases language <;> cases known <;> exact (endsWith_word '(').andThen _

theorem placed_of_bracketedElementLoop? {opening inside : Pattern} (regular : lexicon.Regular)
    (ends : EndsWith opening '(') (member : found ∈ opening.findAll masked)
    (behind : least ≤ found.start.offset)
    (opens : bracketedElementLoop? masked inside found = some loop) :
    loop.Placed lexicon masked .collection least := by
  have text := text_of_mem_findAll member
  have order := (ends.findAll member).2
  simp only [bracketedElementLoop?, Option.bind_eq_bind, Option.bind_eq_some_iff] at opens
  obtain ⟨close, closed, opens⟩ := opens
  split at opens
  · cases opens
  · obtain ⟨parts, matched, opens⟩ := Option.bind_eq_some_iff.mp opens
    cases opens
    exact ⟨_, _, _, .of_brackets regular false text order closed, behind, rfl, rfl, rfl⟩

theorem endsWith_eachLoopHeader : EndsWith eachLoopHeader ':' :=
  (endsWith_word ':').andThen _

theorem placed_of_eachLoop? (regular : lexicon.Regular)
    (noBlocks : lexicon.blockComments = false) (member : found ∈ eachLoopHeader.findAll masked)
    (behind : least ≤ found.start.offset) (opens : eachLoop? masked found = some loop) :
    loop.Placed lexicon masked .collection least := by
  have text := text_of_mem_findAll member
  obtain ⟨colon, order⟩ := endsWith_eachLoopHeader.findAll member
  have header := HeaderAt.of_colon regular noBlocks text order (Cursor.rest_back colon)
  rw [Match.last, Cursor.next_back colon] at header
  simp only [eachLoop?] at opens
  split at opens
  · cases opens
  · cases opens
    refine ⟨_, _, _, header, le_trans behind ?_, rfl, rfl, rfl⟩
    exact Cursor.offset_le_of_le (Cursor.le_skipBlank found.start)

theorem placed_of_sequenceElementLoop? {header : SequenceHeader} (regular : lexicon.Regular)
    (member : header ∈ sequenceHeaders masked least)
    (opens : sequenceElementLoop? masked header = some loop) :
    loop.Placed lexicon masked .collection least := by
  obtain ⟨lies, behind⟩ := headerAt_of_mem_sequenceHeaders regular member
  unfold sequenceElementLoop? at opens
  split at opens
  · cases opens
  · cases opens
    exact ⟨_, _, _, lies, behind, rfl, rfl, rfl⟩

/-- A loop whose header is a match that ends with the brace of its block. -/
theorem Loop.placed_of_brace (regular : lexicon.Regular) (text : found.start.text = masked)
    (ends : found.stop.before.head? = some '\x7b' ∧ found.start ≤ found.last)
    (behind : least ≤ found.start.offset) (header : loop.header = found.span)
    (body : loop.body? = found.last.block?.map Piece.span) :
    loop.Placed lexicon masked loop.kind least :=
  ⟨_, _, _, .of_brace regular text ends.2 ends.1, behind, rfl, header, body⟩

theorem endsWith_rangeClause : EndsWith rangeClause '\x7b' :=
  (endsWith_word '\x7b').andThen _

theorem placed_of_rangedLoop {source : Text} (regular : lexicon.Regular)
    (member : found ∈ rangeClause.findAll masked) (behind : least ≤ found.start.offset)
    (opens : rangedLoop source masked found = .ok loop) :
    loop.Placed lexicon masked .collection least := by
  have text := text_of_mem_findAll member
  have ends := endsWith_rangeClause.findAll member
  obtain ⟨trip, _, opened⟩ := bind_eq_ok opens
  cases opened
  exact Loop.placed_of_brace regular text ends behind rfl rfl

theorem Language.placed_of_collectionLoop? (language : Language) {source : Text}
    (opens : language.collectionLoop? source masked least = .ok (some loop)) :
    loop.Placed language.lexicon masked .collection least := by
  have regular := language.regular_lexicon
  simp only [Language.collectionLoop?] at opens
  split at opens
  · obtain ⟨found, member, opens⟩ := List.exists_of_findSome?_eq_some (Except.ok.inj opens)
    obtain ⟨member, behind⟩ := List.mem_filter.mp member
    exact placed_of_eachLoop? regular rfl member (of_decide_eq_true behind) opens
  · split at opens
    · cases opens
    · rename_i found first
      have member := List.mem_of_find?_eq_some first
      have behind : least ≤ found.start.offset := by simpa using List.find?_some first
      cases ranged : rangedLoop source masked found with
      | error misplaced =>
          rw [ranged] at opens
          cases opens
      | ok opened =>
          rw [ranged] at opens
          cases opens
          exact placed_of_rangedLoop regular member behind ranged
  · obtain ⟨header, member, opens⟩ := List.exists_of_findSome?_eq_some (Except.ok.inj opens)
    exact placed_of_sequenceElementLoop? regular member opens
  · split at opens
    · cases opens
    · rename_i header known
      obtain ⟨found, member, opens⟩ := List.exists_of_findSome?_eq_some (Except.ok.inj opens)
      obtain ⟨member, behind⟩ := List.mem_filter.mp member
      have ends := Language.endsWith_elementHeader? known
      exact placed_of_bracketedElementLoop? regular ends member (of_decide_eq_true behind) opens

end Collecting

/-! ## Loops with their condition behind the body -/

section BodyFirst

variable {masked : Text} {loop : Loop} {least : Nat}

theorem placeFrom_eq_ok {place : Cursor} (found : placeFrom masked least = .ok place) :
    place.text = masked ∧ least ≤ place.offset := by
  unfold placeFrom at found
  split at found
  · rename_i inside
    cases found
    exact ⟨Cursor.text_seek masked least, Cursor.le_offset_seek inside⟩
  · cases found

theorem endsWith_doOpening : EndsWith doOpening '\x7b' :=
  (endsWith_word '\x7b').andThen _

theorem endsWith_repeatOpening : EndsWith repeatOpening '\x7b' :=
  (endsWith_word '\x7b').andThen _

/-- The loop of the first match of a pattern that ends with the brace of a block. -/
theorem Loop.placed_of_findFrom? {lexicon : Lexicon} {opening : Pattern} {place : Cursor}
    {opened : Match → Loop} (regular : lexicon.Regular) (ends : EndsWith opening '\x7b')
    (reached : placeFrom masked least = .ok place)
    (kind : ∀ found, (opened found).kind = .bodyFirst)
    (header : ∀ found, (opened found).header = found.span)
    (body : ∀ found, (opened found).body? = found.last.block?.map Piece.span)
    (opens : (opening.findFrom? place).map opened = some loop) :
    loop.Placed lexicon masked .bodyFirst least := by
  obtain ⟨text, behind⟩ := placeFrom_eq_ok reached
  obtain ⟨found, matched, rfl⟩ := Option.map_eq_some_iff.mp opens
  have lies := liesBehind_of_findFrom? matched
  have behind := le_trans behind (Cursor.offset_le_of_le lies.start)
  rw [← kind found]
  have brace := ends.findFrom? matched
  exact placed_of_brace regular (lies.text.trans text) brace behind (header found)
    (body found)

theorem Language.placed_of_bodyFirstLoop? (language : Language)
    (opens : language.bodyFirstLoop? masked least = .ok (some loop)) :
    loop.Placed language.lexicon masked .bodyFirst least := by
  have regular := language.regular_lexicon
  unfold Language.bodyFirstLoop? at opens
  cases place : placeFrom masked least with
  | error misplaced =>
      rw [place] at opens
      split at opens <;> cases opens
  | ok place' =>
      rw [place] at opens
      split at opens
      · cases opens
      · cases opens
      · cases opens
      · exact Loop.placed_of_findFrom? regular endsWith_repeatOpening place (fun _ => rfl)
          (fun _ => rfl) (fun _ => rfl) (Except.ok.inj opens)
      · exact Loop.placed_of_findFrom? regular endsWith_doOpening place (fun _ => rfl)
          (fun _ => rfl) (fun _ => rfl) (Except.ok.inj opens)

end BodyFirst

end InputDemand

import InputDemand.Proofs.Program.Traces

/-!
# Where a pattern surely comes to

Some ways of a pattern over a filled template that are there whatever the names are.  Together with
the traces, of which no way is left out, they tell where a match is and what it keeps.
-/

namespace InputDemand

/-- What stands in front of a place. -/
inductive Front where
  | textStart
  /-- A line feed, or nothing. -/
  | lineStart
  | letter (letter : Char)
  | nameLetter
deriving DecidableEq, Repr

namespace Front

def atBreak : Front → Bool
  | textStart | lineStart => true
  | letter found => found == '\n'
  | nameLetter => false

def onWord : Front → Bool
  | textStart | lineStart => false
  | letter found => isWord found
  | nameLetter => true

/-- What stands in front of the place behind a template. -/
def past (front : Front) : Template → Front
  | [] => front
  | .letter found :: template => past (.letter found) template
  | .name _ :: template => past .nameLetter template

end Front

/-- A place in a template with what stands in front of it. -/
inductive Footing where
  | firm (front : Front) (rest : Template)
  /-- Behind a letter of a name; perhaps some of its letters are still to come. -/
  | loose (rest : Template)
deriving DecidableEq, Repr

namespace Footing

/-- Where a letter that a test accepts leads to. -/
def next (accepts : Char → Bool) : Footing → List Footing
  | firm _ (.letter found :: rest) => if accepts found then [firm (.letter found) rest] else []
  | firm _ (.name _ :: rest) =>
      if (nameLetters.filter isNameStart).all accepts then [loose rest] else []
  | firm _ [] | loose _ => []

/-- Where all letters of a name that are still to come lead to. -/
def skip (accepts : Char → Bool) : Footing → List Footing
  | loose rest => if nameLetters.all accepts then [firm .nameLetter rest] else []
  | firm .. => []

/-- Whether a word character comes first. -/
def onWord? (closed : Bool) : Footing → Option Bool
  | firm _ (.letter found :: _) => some (isWord found)
  | firm _ (.name _ :: _) => some true
  | firm _ [] => if closed then some false else none
  | loose _ => none

def again (step : Footing → List Footing) : Nat → Footing → List Footing
  | 0, here => [here]
  | rounds + 1, here => here :: (step here).flatMap (again step rounds)

end Footing

namespace Pattern

/-- Where some ways of a pattern lead to.  A repetition goes round, or takes all letters of a name
that are still to come. -/
def surely (closed : Bool) : Pattern → Footing → List Footing
  | nothing, here => [here]
  | letter accepts, here => here.next accepts
  | andThen first second, here => (surely closed first here).flatMap (surely closed second)
  | orElse first second, here => surely closed first here ++ surely closed second here
  | many body, here | few body, here =>
      Footing.again (fun there =>
        (if body.takesLetter then surely closed body there else []) ++
          (match body with
           | letter accepts => there.skip accepts
           | _ => [])) 64 here
  | keep _ body, here => surely closed body here
  | textStart, .firm .textStart rest => [.firm .textStart rest]
  | textEnd, .firm front [] => if closed then [.firm front []] else []
  | lineStart, .firm front rest => if front.atBreak then [.firm front rest] else []
  | wordEdge, .firm front rest =>
      if (Footing.onWord? closed (.firm front rest)).any (· != front.onWord) then
        [.firm front rest]
      else []
  | _, _ => []

end Pattern

/-! ## The ways that lead there -/

section Shows

variable {names : Nat → Text} {behind : Text} {closed : Bool} {accepts : Char → Bool}
  {footing footing' : Footing} {here : Progress}

/-- What stands in front of a place with these letters in front of it. -/
def Front.Shows (before : List Char) : Front → Prop
  | textStart => before = []
  | lineStart => Pattern.atBreak before.head? = true
  | letter found => before.head? = some found
  | nameLetter => before.head?.any isNameLetter = true

/-- A footing in a template shows a place in the filled template. -/
def Footing.Shows (names : Nat → Text) (behind : Text) (place : Cursor) : Footing → Prop
  | firm front rest => front.Shows place.before ∧ place.rest = fill names rest ++ behind
  | loose rest => Front.nameLetter.Shows place.before ∧
      ∃ run, run.all isNameLetter = true ∧ place.rest = run ++ (fill names rest ++ behind)

theorem Front.Shows.onWord {front : Front} {before : List Char} (shown : front.Shows before) :
    Pattern.onWord before.head? = front.onWord := by
  cases front with
  | textStart => rw [shown]; rfl
  | lineStart =>
      cases before with
      | nil => rfl
      | cons first more =>
          rw [eq_of_beq shown]
          rfl
  | letter found => rw [shown]; rfl
  | nameLetter =>
      cases before with
      | nil => cases shown
      | cons first more =>
          have passed : passedByNames isWord = true := by decide +kernel
          exact test_of_isNameLetter passed shown

theorem Front.Shows.atBreak {front : Front} {before : List Char} (shown : front.Shows before)
    (breaks : front.atBreak = true) : Pattern.atBreak before.head? = true := by
  cases front with
  | textStart => rw [shown]; rfl
  | lineStart => exact shown
  | letter found => rw [shown]; exact breaks
  | nameLetter => cases breaks

theorem Front.Shows.past (areNames : ∀ index, Text.isName (names index) = true)
    {front : Front} {before : List Char} (shown : front.Shows before) (template : Template) :
    (front.past template).Shows ((fill names template).reverse ++ before) := by
  induction template generalizing front before with
  | nil => exact shown
  | cons sign template inductionHypothesis =>
      rw [fill_cons, List.reverse_append, List.append_assoc]
      cases sign with
      | letter found => exact inductionHypothesis rfl
      | name index =>
          apply inductionHypothesis
          have isName := areNames index
          obtain ⟨first, run, split, _⟩ := Text.exists_cons_of_isName isName
          have visible : names index ≠ [] := by rw [split]; exact List.cons_ne_nil _ _
          have named := List.all_eq_true.mp (Text.all_isNameLetter isName) _
            (List.getLast_mem visible)
          rw [Sign.fill, Front.Shows, List.head?_append, List.head?_reverse,
            List.getLast?_eq_some_getLast visible]
          exact named

theorem Footing.exists_next (areNames : ∀ index, Text.isName (names index) = true)
    (shown : footing.Shows names behind here.place) (member : footing' ∈ footing.next accepts) :
    ∃ there ∈ Pattern.ways (.letter accepts) here, footing'.Shows names behind there.place := by
  rcases here with ⟨⟨before, rest⟩, kept⟩
  match footing, shown with
  | .loose rest, shown => cases member
  | .firm front [], shown => cases member
  | .firm front (.letter found :: template), ⟨_, split⟩ =>
      rw [next] at member
      split at member
      · rename_i accepted
        rw [List.mem_singleton.mp member]
        replace split : rest = found :: (fill names template ++ behind) := split
        rw [split]
        exact ⟨_, Pattern.mem_ways_letter accepted _ _ _, rfl, rfl⟩
      · cases member
  | .firm front (.name index :: template), ⟨_, split⟩ =>
      rw [next] at member
      split at member
      · rename_i accepted
        have isName := areNames index
        obtain ⟨first, run, whole, starts, _⟩ := Text.exists_cons_of_isName isName
        have named := Text.all_isNameLetter isName
        rw [whole, List.all_cons, Bool.and_eq_true] at named
        have taken := List.all_eq_true.mp accepted first
          (List.mem_filter.mpr ⟨mem_nameLetters named.1, starts⟩)
        replace split : rest = first :: (run ++ (fill names template ++ behind)) := by
          refine Eq.trans split ?_
          rw [fill_cons, Sign.fill, whole, List.append_assoc, List.cons_append]
        rw [List.mem_singleton.mp member, split]
        exact ⟨_, Pattern.mem_ways_letter taken _ _ _, named.1, run, named.2, rfl⟩
      · cases member

theorem Footing.Shows.onWord?_eq (areNames : ∀ index, Text.isName (names index) = true)
    (ends : closed = true → behind = []) (shown : footing.Shows names behind here.place)
    {ahead : Bool} (known : footing.onWord? closed = some ahead) :
    Pattern.onWord here.place.rest.head? = ahead := by
  match footing, shown with
  | .loose rest, _ => cases known
  | .firm front [], ⟨_, split⟩ =>
      rw [onWord?] at known
      split at known
      · rename_i isClosed
        cases known
        rw [split, ends isClosed]
        rfl
      · cases known
  | .firm front (.letter found :: rest), ⟨_, split⟩ =>
      cases known
      rw [split]
      rfl
  | .firm front (.name index :: rest), ⟨_, split⟩ =>
      cases known
      have isName := areNames index
      obtain ⟨first, run, whole, _, named⟩ := Text.exists_cons_of_isName isName
      rw [split, fill_cons, Sign.fill, whole]
      have passed : passedByNames isWord = true := by decide +kernel
      exact test_of_isNameLetter passed named

namespace Pattern

/-- The letters that are to come of a name are taken by a repetition that accepts them all. -/
theorem exists_way_of_skip (shown : footing.Shows names behind here.place)
    (member : footing' ∈ footing.skip accepts) :
    ∃ middle, footing'.Shows names behind middle.place ∧
      ∀ there ∈ ways (many (letter accepts)) middle, there ∈ ways (many (letter accepts)) here := by
  rcases here with ⟨⟨before, rest⟩, kept⟩
  cases footing with
  | firm front template => cases member
  | loose template =>
      rw [Footing.skip] at member
      split at member
      · rename_i accepted
        obtain ⟨inName, run, named, split⟩ := shown
        rw [List.mem_singleton.mp member]
        replace split : rest = run ++ (fill names template ++ behind) := split
        subst split
        replace inName : before.head?.any isNameLetter = true := inName
        induction run generalizing before with
        | nil => exact ⟨⟨⟨before, fill names template ++ behind⟩, kept⟩, ⟨inName, rfl⟩, fun _ => id⟩
        | cons first run inductionHypothesis =>
            rw [List.all_cons, Bool.and_eq_true] at named
            obtain ⟨middle, shown, further⟩ :=
              inductionHypothesis (first :: before) named.2 named.1
            have taken := List.all_eq_true.mp accepted first (mem_nameLetters named.1)
            have step := mem_ways_letter taken before (run ++ (fill names template ++ behind)) kept
            have shortens : Shortens (letter accepts) := shortens_of_takesLetter rfl
            exact ⟨middle, shown, fun there way => shortens.mem_ways_many step (further there way)⟩
      · cases member

/-- Rounds lead to ways of a repetition if every step can be put in front of such a way. -/
theorem exists_way_of_again {body : Pattern} {step : Footing → List Footing}
    (leads : ∀ {footing footing' : Footing} {here : Progress},
      footing.Shows names behind here.place → footing' ∈ step footing →
        ∃ middle, footing'.Shows names behind middle.place ∧
          ∀ there ∈ ways (many body) middle, there ∈ ways (many body) here)
    (rounds : Nat) {footing footing' : Footing} {here : Progress}
    (shown : footing.Shows names behind here.place)
    (member : footing' ∈ Footing.again step rounds footing) :
    ∃ there ∈ ways (many body) here, footing'.Shows names behind there.place := by
  induction rounds generalizing footing here with
  | zero =>
      rw [List.mem_singleton.mp member]
      exact ⟨here, mem_ways_many_self body here, shown⟩
  | succ rounds inductionHypothesis =>
      rw [Footing.again, List.mem_cons, List.mem_flatMap] at member
      rcases member with rfl | ⟨middle, first, further⟩
      · exact ⟨here, mem_ways_many_self body here, shown⟩
      · obtain ⟨there, shown', round⟩ := leads shown first
        obtain ⟨stop, way, shown''⟩ := inductionHypothesis shown' further
        exact ⟨stop, round stop way, shown''⟩

theorem exists_way_of_rounds {body : Pattern} {footing footing' : Footing} {here : Progress}
    (bodyLeads : ∀ {footing footing' : Footing} {here : Progress},
      footing.Shows names behind here.place → footing' ∈ body.surely closed footing →
        ∃ there ∈ ways body here, footing'.Shows names behind there.place)
    (shown : footing.Shows names behind here.place)
    (member : footing' ∈ (many body).surely closed footing) :
    ∃ there ∈ ways (many body) here, footing'.Shows names behind there.place := by
  apply exists_way_of_again _ 64 shown member
  intro footing footing' here shown first
  rcases List.mem_append.mp first with round | skipped
  · split at round
    · rename_i takes
      obtain ⟨middle, way, shown'⟩ := bodyLeads shown round
      have shortens := shortens_of_takesLetter takes
      exact ⟨middle, shown', fun there further => shortens.mem_ways_many way further⟩
    · cases round
  · split at skipped
    · exact exists_way_of_skip shown skipped
    · cases skipped

theorem exists_way_of_textEnd (ends : closed = true → behind = []) {footing footing' : Footing}
    {here : Progress} (shown : footing.Shows names behind here.place)
    (member : footing' ∈ textEnd.surely closed footing) :
    ∃ there ∈ ways textEnd here, footing'.Shows names behind there.place := by
  cases footing with
  | loose rest => cases member
  | firm front rest =>
      cases rest with
      | cons sign rest => cases member
      | nil =>
          rw [surely] at member
          split at member
          · rename_i isClosed
            rw [List.mem_singleton.mp member]
            have atEnd : here.place.rest = [] := shown.2.trans (ends isClosed)
            exact ⟨here, by simp [ways, atEnd], shown⟩
          · cases member

theorem exists_way_of_wordEdge (areNames : ∀ index, Text.isName (names index) = true)
    (ends : closed = true → behind = []) {footing footing' : Footing} {here : Progress}
    (shown : footing.Shows names behind here.place)
    (member : footing' ∈ wordEdge.surely closed footing) :
    ∃ there ∈ ways wordEdge here, footing'.Shows names behind there.place := by
  cases footing with
  | loose rest => cases member
  | firm front rest =>
      rw [surely] at member
      split at member
      · rename_i edge
        obtain ⟨ahead, known, differs⟩ := (Option.any_eq_true _ _).mp edge
        -- A word character stands on one side only.
        have behindEdge := shown.onWord?_eq areNames ends known
        have beforeEdge := shown.1.onWord
        rw [List.mem_singleton.mp member]
        refine ⟨here, ?_, shown⟩
        have apart : (onWord here.place.before.head? !=
            onWord here.place.rest.head?) = true := by
          rw [behindEdge, beforeEdge, bne_comm]
          exact differs
        unfold ways
        rw [if_pos apart]
        exact List.mem_singleton_self _
      · cases member

/-- Some ways of a pattern are there whatever the names are. -/
theorem exists_way_of_mem_surely (areNames : ∀ index, Text.isName (names index) = true)
    (ends : closed = true → behind = []) (pattern : Pattern) {footing footing' : Footing}
    {here : Progress} (shown : footing.Shows names behind here.place)
    (member : footing' ∈ pattern.surely closed footing) :
    ∃ there ∈ ways pattern here, footing'.Shows names behind there.place := by
  induction pattern generalizing footing footing' here with
  | nothing =>
      rw [surely, List.mem_singleton] at member
      exact ⟨here, List.mem_singleton_self _, member ▸ shown⟩
  | letter accepts => exact Footing.exists_next areNames shown member
  | andThen first second firstLeads secondLeads =>
      obtain ⟨middle, before, further⟩ := List.mem_flatMap.mp member
      obtain ⟨there, way, shown'⟩ := firstLeads shown before
      obtain ⟨stop, way', shown''⟩ := secondLeads shown' further
      exact ⟨stop, List.mem_flatMap.mpr ⟨there, way, way'⟩, shown''⟩
  | orElse first second firstLeads secondLeads =>
      rcases List.mem_append.mp member with left | right
      · obtain ⟨there, way, shown'⟩ := firstLeads shown left
        exact ⟨there, List.mem_append_left _ way, shown'⟩
      · obtain ⟨there, way, shown'⟩ := secondLeads shown right
        exact ⟨there, List.mem_append_right _ way, shown'⟩
  | many body bodyLeads => exact exists_way_of_rounds bodyLeads shown member
  | few body bodyLeads =>
      obtain ⟨there, way, shown'⟩ := exists_way_of_rounds bodyLeads shown member
      exact ⟨there, mem_ways_few.mpr way, shown'⟩
  | keep slot body bodyLeads =>
      obtain ⟨there, way, shown'⟩ := bodyLeads shown member
      exact ⟨_, List.mem_map_of_mem way, shown'⟩
  | lineEnd => cases member
  | textStart =>
      cases footing with
      | loose rest => cases member
      | firm front rest =>
          cases front with
          | textStart =>
              rw [List.mem_singleton.mp member]
              have atStart : here.place.before = [] := shown.1
              exact ⟨here, by simp [ways, atStart], shown⟩
          | _ => cases member
  | textEnd => exact exists_way_of_textEnd ends shown member
  | lineStart =>
      cases footing with
      | loose rest => cases member
      | firm front rest =>
          rw [surely] at member
          split at member
          · rename_i breaks
            rw [List.mem_singleton.mp member]
            have atBreak := shown.1.atBreak breaks
            exact ⟨here, by simp [ways, atBreak], shown⟩
          · cases member
  | wordEdge => exact exists_way_of_wordEdge areNames ends shown member

/-! ## Matches at a spot -/

/-- Whether a pattern surely matches in front of a template, with a trace that passes a test. -/
def hits (closed : Bool) (pattern : Pattern) (front : Front) (rest : Template)
    (test : Trace → Bool) : Bool :=
  !(pattern.surely closed (.firm front rest)).isEmpty &&
    (pattern.traces closed ⟨.before rest, []⟩).all test

variable {pattern : Pattern} {front : Front} {before : List Char} {rest : Template}
  {test : Trace → Bool} {found : Match} {trace : Trace}

theorem exists_matchAt?_of_hits (areNames : ∀ index, Text.isName (names index) = true)
    (ends : closed = true → behind = []) (inFront : front.Shows before)
    (checked : pattern.hits closed front rest test = true) :
    ∃ found trace, pattern.matchAt? ⟨before, fill names rest ++ behind⟩ = some found ∧
      found.start = ⟨before, fill names rest ++ behind⟩ ∧
        trace.Shows names behind ⟨found.stop, found.kept⟩ ∧ test trace = true := by
  rw [hits, Bool.and_eq_true, Bool.not_eq_true', List.isEmpty_eq_false_iff] at checked
  obtain ⟨sure, tested⟩ := checked
  let begin : Progress := ⟨⟨before, fill names rest ++ behind⟩, []⟩
  have here : Footing.Shows names behind begin.place (.firm front rest) := ⟨inFront, rfl⟩
  obtain ⟨footing, member⟩ := List.exists_mem_of_ne_nil _ sure
  obtain ⟨some, way, _⟩ := exists_way_of_mem_surely areNames ends pattern here member
  -- Some way is surely there.  The best one may be another, but all of them have been traced.
  obtain ⟨there, others, best⟩ := List.exists_cons_of_ne_nil (List.ne_nil_of_mem way)
  have start : Trace.Shows names behind ⟨.before rest, []⟩ begin := Or.inr ⟨.before rest, .nil⟩
  obtain ⟨trace, member', shown⟩ := exists_trace_of_mem_ways areNames ends pattern start
    (best ▸ List.mem_cons_self)
  refine ⟨⟨_, there.place, there.kept⟩, trace, ?_, rfl, shown,
    List.all_eq_true.mp tested trace member'⟩
  rw [matchAt?, best]
  rfl

end Pattern

def Trace.stopsAt (rest : Template) (trace : Trace) : Bool :=
  trace.spot = .before rest

/-- Whether a trace keeps the first of two templates, which the second follows. -/
def Trace.keeps (slot : Nat) (inside rest : Template) (trace : Trace) : Bool :=
  trace.spot ≠ .lost && trace.kept.lookup slot = some (.before (inside ++ rest), .before rest)

variable {found : Match} {trace : Trace} {slot : Nat} {inside rest : Template}

theorem Spot.Shows.eq {text : Text} (shown : (Spot.before rest).Shows names behind text) :
    text = fill names rest ++ behind := by
  cases shown
  rfl

theorem Trace.Shows.rest_stop (shown : trace.Shows names behind ⟨found.stop, found.kept⟩)
    (stops : trace.stopsAt rest = true) : found.stop.rest = fill names rest ++ behind := by
  have spot : trace.spot = .before rest := of_decide_eq_true stops
  rcases shown with lost | ⟨shown, _⟩
  · rw [spot] at lost
    cases lost
  · rw [spot] at shown
    exact shown.eq

theorem Trace.Shows.stop_eq {place : Cursor} {taken : Template}
    (shown : trace.Shows names behind ⟨found.stop, found.kept⟩) (stops : trace.stopsAt rest = true)
    (order : place ≤ found.stop) (split : place.rest = fill names (taken ++ rest) ++ behind) :
    found.stop = ⟨(fill names taken).reverse ++ place.before, fill names rest ++ behind⟩ := by
  rw [fill_append, List.append_assoc] at split
  exact Cursor.eq_of_le_of_rest order split (shown.rest_stop stops)

theorem Trace.Shows.exists_piece (shown : trace.Shows names behind ⟨found.stop, found.kept⟩)
    (keeps : trace.keeps slot inside rest = true) :
    ∃ piece, found.piece? slot = some piece ∧
      piece.start.rest = fill names inside ++ (fill names rest ++ behind) ∧
        piece.stop.rest = fill names rest ++ behind := by
  rw [Trace.keeps, Bool.and_eq_true, decide_eq_true_eq, decide_eq_true_eq] at keeps
  obtain ⟨known, looked⟩ := keeps
  rcases shown with lost | ⟨_, pieces⟩
  · exact absurd lost known
  · rw [Match.piece?]
    replace pieces : List.Forall₂ _ trace.kept found.kept := pieces
    generalize trace.kept = seen at looked pieces
    generalize found.kept = kept at pieces
    induction pieces with
    | nil => cases looked
    | @cons one other seen kept same _ inductionHypothesis =>
        obtain ⟨slot', startSpot, stopSpot⟩ := one
        obtain ⟨slot'', piece⟩ := other
        obtain ⟨slots, start, stop⟩ := same
        replace slots : slot' = slot'' := slots
        subst slots
        rw [List.lookup_cons] at looked ⊢
        split at looked
        · cases looked
          refine ⟨piece, rfl, ?_, stop.eq⟩
          rw [start.eq, fill_append, List.append_assoc]
        · exact inductionHypothesis looked

theorem Trace.Shows.kept (shown : trace.Shows names behind ⟨found.stop, found.kept⟩)
    (known : trace.spot ≠ .lost) (nothing : trace.kept = []) : found.kept = [] := by
  rcases shown with lost | ⟨_, pieces⟩
  · exact absurd lost known
  · rw [nothing] at pieces
    exact List.forall₂_nil_left_iff.mp pieces

/-- Whether a match takes just the front of a template. -/
def Pattern.takes (closed : Bool) (pattern : Pattern) (front : Front) (taken rest : Template) :
    Bool :=
  pattern.hits closed front (taken ++ rest) fun trace => trace.stopsAt rest && trace.kept.isEmpty

theorem Pattern.matchAt?_of_takes {pattern : Pattern} {front : Front} {before : List Char}
    {taken : Template} (areNames : ∀ index, Text.isName (names index) = true)
    (ends : closed = true → behind = []) (inFront : front.Shows before)
    (takes : pattern.takes closed front taken rest = true) :
    pattern.matchAt? ⟨before, fill names (taken ++ rest) ++ behind⟩ =
      some ⟨⟨before, fill names (taken ++ rest) ++ behind⟩,
        ⟨(fill names taken).reverse ++ before, fill names rest ++ behind⟩, []⟩ := by
  obtain ⟨⟨start, stop, kept⟩, trace, matched, same, shown, tested⟩ :=
    exists_matchAt?_of_hits areNames ends inFront takes
  replace same : start = ⟨before, fill names (taken ++ rest) ++ behind⟩ := same
  subst same
  rw [Bool.and_eq_true, List.isEmpty_iff] at tested
  have known : trace.spot ≠ .lost := by
    rw [show trace.spot = .before rest from of_decide_eq_true tested.1]
    exact Spot.noConfusion
  have nothing : kept = [] := shown.kept known tested.2
  have place : stop = _ := shown.stop_eq tested.1 (liesBehind_of_matchAt? matched).stop rfl
  rw [matched, nothing, place]

theorem Trace.Shows.group (shown : trace.Shows names behind ⟨found.stop, found.kept⟩)
    (keeps : trace.keeps slot inside rest = true) : found.group slot = fill names inside := by
  obtain ⟨piece, looked, start, stop⟩ := shown.exists_piece keeps
  rw [Match.group, looked, Option.map_some, Option.getD_some, Piece.text]
  exact Cursor.textUpTo_of_rest (by rw [start, stop])

end Shows

end InputDemand

import InputDemand.Proofs.Pattern.Hunt
import InputDemand.Proofs.Program.Template
import Mathlib.Data.List.Forall2

/-!
# Where a pattern may come to

The ways of a pattern over a filled template, as far as the template tells: in a name every name
letter may stand, and behind each of its letters the name may end.  What the template does not tell
is lost.  No way is left out, so where no trace is left the pattern does not match, whatever the
names are.
-/

namespace InputDemand

/-- A place in a template. -/
inductive Spot where
  | before (rest : Template)
  /-- In front of a letter of a name, but not of its first; the rest is behind the name. -/
  | inside (rest : Template)
  /-- Any place. -/
  | lost
deriving DecidableEq, Repr

/-- How far a match may have come, and the ends of the pieces it may have kept, the newest first. -/
structure Trace where
  spot : Spot
  kept : List (Nat × Spot × Spot)
deriving DecidableEq, Repr

def nameLetters : List Char :=
  "abcdefghijklmnopqrstuvwxyzABCDEFGHIJKLMNOPQRSTUVWXYZ0123456789_".toList

theorem mem_nameLetters {letter : Char} (named : isNameLetter letter = true) :
    letter ∈ nameLetters := by
  have passed : passedByNames nameLetters.contains = true := by decide +kernel
  exact List.contains_iff_mem.mp (test_of_isNameLetter passed named)

/-- The spots behind a letter that a test accepts.  A template is `closed` if nothing follows. -/
def Spot.next (closed : Bool) (accepts : Char → Bool) : Spot → List Spot
  | before (.letter letter :: rest) => if accepts letter then [before rest] else []
  | before (.name _ :: rest) | inside rest =>
      if nameLetters.any accepts then [inside rest, before rest] else []
  | before [] => if closed then [] else [lost]
  | lost => [lost]

def Spot.mayEnd : Spot → Bool
  | before [] | lost => true
  | _ => false

/-- Some traces and all that steps lead to from them; lost if that takes too many rounds. -/
def spread (step : Trace → List Trace) : Nat → List Trace → List Trace
  | 0, _ => [⟨.lost, []⟩]
  | rounds + 1, found =>
      let more := (found.flatMap step).filter fun trace => !found.contains trace
      if more.isEmpty then found else spread step rounds (more.eraseDups ++ found)

namespace Pattern

/-- Where the ways of a pattern may come to. -/
def traces (closed : Bool) : Pattern → Trace → List Trace
  | letter accepts, here => (here.spot.next closed accepts).map fun spot => { here with spot }
  | andThen first second, here => (traces closed first here).flatMap (traces closed second)
  | orElse first second, here => traces closed first here ++ traces closed second here
  | many body, here | few body, here => spread (traces closed body) 64 [here]
  | keep slot body, here =>
      (traces closed body here).map fun there =>
        { there with kept := (slot, here.spot, there.spot) :: there.kept }
  | textEnd, here => if here.spot.mayEnd then [here] else []
  | nothing, here | textStart, here | lineStart, here | lineEnd, here | wordEdge, here => [here]

end Pattern

/-! ## No way is left out -/

section Shows

variable {names : Nat → Text} {behind text : Text} {closed : Bool} {accepts : Char → Bool}

/-- A spot in a template shows the text from there on. -/
inductive Spot.Shows (names : Nat → Text) (behind : Text) : Spot → Text → Prop
  | before (rest : Template) : Shows names behind (.before rest) (fill names rest ++ behind)
  | inside {run : Text} (rest : Template) : run ≠ [] → run.all isNameLetter = true →
      Shows names behind (.inside rest) (run ++ (fill names rest ++ behind))
  | lost (text : Text) : Shows names behind .lost text

/-- A trace shows how far a match has come, unless it is lost. -/
def Trace.Shows (names : Nat → Text) (behind : Text) (trace : Trace) (here : Progress) : Prop :=
  trace.spot = .lost ∨
    (trace.spot.Shows names behind here.place.rest ∧
      List.Forall₂ (fun seen piece => seen.1 = piece.1 ∧
        seen.2.1.Shows names behind piece.2.start.rest ∧
        seen.2.2.Shows names behind piece.2.stop.rest) trace.kept here.kept)

theorem exists_next_of_run {letter : Char} {run : Text} {rest : Template}
    (named : (letter :: run).all isNameLetter = true) (accepted : accepts letter = true) :
    ∃ spot ∈ (if nameLetters.any accepts then [Spot.inside rest, Spot.before rest] else []),
      spot.Shows names behind (run ++ (fill names rest ++ behind)) := by
  rw [List.all_cons, Bool.and_eq_true] at named
  have some : nameLetters.any accepts = true :=
    List.any_eq_true.mpr ⟨letter, mem_nameLetters named.1, accepted⟩
  rw [if_pos some]
  by_cases ended : run = []
  · subst ended
    exact ⟨.before rest, List.mem_cons_of_mem _ (List.mem_singleton_self _), .before rest⟩
  · exact ⟨.inside rest, List.mem_cons_self, .inside rest ended named.2⟩

theorem Spot.exists_next (areNames : ∀ index, Text.isName (names index) = true)
    (ends : closed = true → behind = []) {spot : Spot} {letter : Char}
    (shown : spot.Shows names behind (letter :: text)) (accepted : accepts letter = true) :
    ∃ spot' ∈ spot.next closed accepts, spot'.Shows names behind text := by
  generalize whole : letter :: text = ahead at shown
  cases shown with
  | lost => exact ⟨.lost, List.mem_singleton_self _, .lost text⟩
  | inside rest visible named =>
      rename_i run
      cases run with
      | nil => exact absurd rfl visible
      | cons first run =>
          cases whole
          exact exists_next_of_run named accepted
  | before rest =>
      match rest with
      | [] =>
          cases closed with
          | true => rw [ends rfl] at whole; cases whole
          | false => exact ⟨.lost, List.mem_singleton_self _, .lost text⟩
      | .letter first :: rest =>
          cases whole
          exact ⟨.before rest, by simp [next, accepted], .before rest⟩
      | .name index :: rest =>
          have isName := areNames index
          obtain ⟨first, run, split, _⟩ := Text.exists_cons_of_isName isName
          have named := Text.all_isNameLetter isName
          rw [split] at named
          rw [fill_cons, Sign.fill, split, List.append_assoc] at whole
          cases whole
          exact exists_next_of_run named accepted

theorem Spot.Shows.mayEnd (areNames : ∀ index, Text.isName (names index) = true) {spot : Spot}
    (shown : spot.Shows names behind []) : spot.mayEnd = true := by
  generalize whole : [] = ahead at shown
  cases shown with
  | lost => rfl
  | inside rest visible named => exact absurd (List.append_eq_nil_iff.mp whole.symm).1 visible
  | before rest =>
      match rest with
      | [] => rfl
      | .letter first :: rest => cases whole
      | .name index :: rest =>
          obtain ⟨first, run, split, _⟩ := Text.exists_cons_of_isName (areNames index)
          rw [fill_cons, Sign.fill, split] at whole
          cases whole

/-- What traces spread to holds what they step to, or is lost. -/
theorem spread_closed (step : Trace → List Trace) (rounds : Nat) (found : List Trace) :
    ⟨.lost, []⟩ ∈ spread step rounds found ∨
      (∀ trace ∈ found, trace ∈ spread step rounds found) ∧
        ∀ trace ∈ spread step rounds found, ∀ trace' ∈ step trace,
          trace' ∈ spread step rounds found := by
  induction rounds generalizing found with
  | zero => exact Or.inl (List.mem_singleton_self _)
  | succ rounds inductionHypothesis =>
      rw [spread]
      split
      · rename_i none
        refine Or.inr ⟨fun _ => id, fun trace member trace' further => ?_⟩
        by_contra other
        -- Nothing new was found in this round.
        have new : trace' ∈ (found.flatMap step).filter fun trace => !found.contains trace :=
          List.mem_filter.mpr ⟨List.mem_flatMap.mpr ⟨trace, member, further⟩, by simpa using other⟩
        rw [List.isEmpty_iff.mp none] at new
        cases new
      · rcases inductionHypothesis (_ ++ found) with lost | ⟨kept, closed⟩
        · exact Or.inl lost
        · exact Or.inr ⟨fun trace member => kept trace (List.mem_append_right _ member), closed⟩

namespace Pattern

theorem shows_of_guard {trace : Trace} {here there : Progress} {holds : Bool}
    (shown : trace.Shows names behind here) (member : there ∈ if holds = true then [here] else []) :
    ∃ trace' ∈ [trace], trace'.Shows names behind there := by
  rw [eq_of_mem_guard member]
  exact ⟨trace, List.mem_singleton_self _, shown⟩

/-- Rounds stay among traces that are closed under their steps. -/
theorem shows_of_mem_greedyWays {step : Progress → List Progress} {found : List Trace}
    (stays : ∀ trace ∈ found, ∀ here, trace.Shows names behind here → ∀ there ∈ step here,
      ∃ trace' ∈ found, trace'.Shows names behind there)
    (rounds : Nat) {trace : Trace} {here there : Progress} (member : trace ∈ found)
    (shown : trace.Shows names behind here) (way : there ∈ greedyWays step rounds here) :
    ∃ trace' ∈ found, trace'.Shows names behind there := by
  induction rounds generalizing trace here with
  | zero =>
      rw [List.mem_singleton.mp way]
      exact ⟨trace, member, shown⟩
  | succ rounds inductionHypothesis =>
      rw [greedyWays, List.mem_append, List.mem_flatMap, List.mem_singleton] at way
      rcases way with ⟨middle, first, further⟩ | rfl
      · obtain ⟨trace', member', shown'⟩ := stays trace member here shown middle first
        exact inductionHypothesis member' shown' further
      · exact ⟨trace, member, shown⟩

theorem exists_trace_of_rounds {body : Pattern} {trace : Trace} {here there : Progress}
    (bodyTraces : ∀ {trace : Trace} {here there : Progress}, trace.Shows names behind here →
      there ∈ ways body here → ∃ trace' ∈ body.traces closed trace, trace'.Shows names behind there)
    (shown : trace.Shows names behind here) (way : there ∈ ways (many body) here) :
    ∃ trace' ∈ spread (body.traces closed) 64 [trace], trace'.Shows names behind there := by
  rcases spread_closed (body.traces closed) 64 [trace] with lost | ⟨kept, closed⟩
  · exact ⟨_, lost, Or.inl rfl⟩
  · apply shows_of_mem_greedyWays _ _ (kept trace (List.mem_singleton_self _)) shown way
    intro trace member here shown there first
    obtain ⟨trace', further, shown'⟩ := bodyTraces shown first
    exact ⟨trace', closed trace member trace' further, shown'⟩

theorem exists_trace_of_letter (areNames : ∀ index, Text.isName (names index) = true)
    (ends : closed = true → behind = []) {trace : Trace} {here there : Progress}
    (shown : trace.Shows names behind here) (way : there ∈ ways (letter accepts) here) :
    ∃ trace' ∈ (letter accepts).traces closed trace, trace'.Shows names behind there := by
  rcases here with ⟨⟨before, _ | ⟨first, rest⟩⟩, kept⟩
  · cases way
  · unfold ways at way
    simp only at way
    split at way
    · rename_i accepted
      rw [List.mem_singleton.mp way]
      rcases shown with lost | ⟨spot, pieces⟩
      · refine ⟨{ trace with spot := .lost }, ?_, Or.inl rfl⟩
        simp [traces, lost, Spot.next]
      · obtain ⟨spot', member, shown⟩ := Spot.exists_next areNames ends spot accepted
        exact ⟨{ trace with spot := spot' }, List.mem_map_of_mem member,
          Or.inr ⟨shown, pieces⟩⟩
    · cases way

theorem exists_trace_of_textEnd (areNames : ∀ index, Text.isName (names index) = true)
    {trace : Trace} {here there : Progress} (shown : trace.Shows names behind here)
    (way : there ∈ ways textEnd here) :
    ∃ trace' ∈ textEnd.traces closed trace, trace'.Shows names behind there := by
  have atEnd : here.place.rest = [] := by
    unfold ways at way
    split at way
    · rename_i atEnd
      exact List.isEmpty_iff.mp atEnd
    · cases way
  have mayEnd : trace.spot.mayEnd = true := by
    rcases shown with lost | ⟨spot, _⟩
    · rw [lost]
      rfl
    · rw [atEnd] at spot
      exact spot.mayEnd areNames
  rw [eq_of_mem_guard way, traces, if_pos mayEnd]
  exact ⟨trace, List.mem_singleton_self _, shown⟩

/-- Every way of a pattern has a trace. -/
theorem exists_trace_of_mem_ways (areNames : ∀ index, Text.isName (names index) = true)
    (ends : closed = true → behind = []) (pattern : Pattern) {trace : Trace}
    {here there : Progress} (shown : trace.Shows names behind here)
    (way : there ∈ ways pattern here) :
    ∃ trace' ∈ pattern.traces closed trace, trace'.Shows names behind there := by
  induction pattern generalizing trace here there with
  | nothing =>
      rw [List.mem_singleton.mp way]
      exact ⟨trace, List.mem_singleton_self _, shown⟩
  | letter accepts => exact exists_trace_of_letter areNames ends shown way
  | andThen first second firstTraces secondTraces =>
      obtain ⟨middle, before, further⟩ := List.mem_flatMap.mp way
      obtain ⟨trace', member, shown'⟩ := firstTraces shown before
      obtain ⟨trace'', member', shown''⟩ := secondTraces shown' further
      exact ⟨trace'', List.mem_flatMap.mpr ⟨trace', member, member'⟩, shown''⟩
  | orElse first second firstTraces secondTraces =>
      rcases List.mem_append.mp way with left | right
      · obtain ⟨trace', member, shown'⟩ := firstTraces shown left
        exact ⟨trace', List.mem_append_left _ member, shown'⟩
      · obtain ⟨trace', member, shown'⟩ := secondTraces shown right
        exact ⟨trace', List.mem_append_right _ member, shown'⟩
  | many body bodyTraces => exact exists_trace_of_rounds bodyTraces shown way
  | few body bodyTraces => exact exists_trace_of_rounds bodyTraces shown (mem_ways_few.mp way)
  | keep slot body bodyTraces =>
      obtain ⟨inner, found, rfl⟩ := List.mem_map.mp way
      obtain ⟨trace', member, shown'⟩ := bodyTraces shown found
      refine ⟨_, List.mem_map_of_mem member, ?_⟩
      -- A lost trace shows every place, so also the one where the piece starts.
      have start : trace.spot.Shows names behind here.place.rest := by
        rcases shown with lost | ⟨spot, _⟩
        · rw [lost]
          exact .lost _
        · exact spot
      rcases shown' with lost | ⟨spot, pieces⟩
      · exact Or.inl lost
      · exact Or.inr ⟨spot, .cons ⟨rfl, start, spot⟩ pieces⟩
  | textEnd => exact exists_trace_of_textEnd areNames shown way
  -- The other patterns stay where they are, if they match at all.
  | _ => exact shows_of_guard shown way

/-! ## Where a search finds nothing -/

def failsAt (closed : Bool) (pattern : Pattern) (spot : Spot) : Bool :=
  (pattern.traces closed ⟨spot, []⟩).isEmpty

/-- Whether a pattern matches nowhere in a template that another follows. -/
def misses (closed : Bool) (pattern : Pattern) (back : Template) : Template → Bool
  | [] => true
  | .letter first :: front =>
      pattern.failsAt closed (.before (.letter first :: (front ++ back))) &&
        misses closed pattern back front
  | .name index :: front =>
      pattern.failsAt closed (.before (.name index :: (front ++ back))) &&
        pattern.failsAt closed (.inside (front ++ back)) && misses closed pattern back front

variable {pattern : Pattern} {before : Text} {front back : Template}

theorem matchAt?_of_failsAt (areNames : ∀ index, Text.isName (names index) = true)
    (ends : closed = true → behind = []) {spot : Spot} {place : Cursor}
    (shown : spot.Shows names behind place.rest) (fails : pattern.failsAt closed spot = true) :
    pattern.matchAt? place = none := by
  have nothing : ways pattern ⟨place, []⟩ = [] := by
    apply List.eq_nil_iff_forall_not_mem.mpr
    intro there way
    have start : Trace.Shows names behind ⟨spot, []⟩ ⟨place, []⟩ := Or.inr ⟨shown, .nil⟩
    obtain ⟨trace, member, _⟩ := exists_trace_of_mem_ways areNames ends pattern start way
    rw [List.isEmpty_iff.mp fails] at member
    cases member
  rw [matchAt?, nothing]
  rfl

theorem hunt_inside (before : Text) (areNames : ∀ index, Text.isName (names index) = true)
    (ends : closed = true → behind = []) (fails : pattern.failsAt closed (.inside back) = true)
    {run : Text} (named : run.all isNameLetter = true) :
    Hunt pattern ⟨before, run ++ (fill names back ++ behind)⟩ []
      ⟨run.reverse ++ before, fill names back ++ behind⟩ := by
  induction run generalizing before with
  | nil => exact .done _
  | cons letter run inductionHypothesis =>
      rw [List.reverse_cons, List.append_assoc]
      apply Hunt.past
      · exact matchAt?_of_failsAt areNames ends (.inside back (List.cons_ne_nil _ _) named) fails
      · rw [List.all_cons, Bool.and_eq_true] at named
        exact inductionHypothesis (letter :: before) named.2

/-- A search passes over a template in which the pattern matches nowhere. -/
theorem hunt_of_misses (areNames : ∀ index, Text.isName (names index) = true)
    (ends : closed = true → behind = []) (misses : pattern.misses closed back front = true) :
    Hunt pattern ⟨before, fill names front ++ (fill names back ++ behind)⟩ []
      ⟨(fill names front).reverse ++ before, fill names back ++ behind⟩ := by
  induction front generalizing before with
  | nil => exact .done _
  | cons sign front inductionHypothesis =>
      have shown : Spot.Shows names behind (.before (sign :: (front ++ back)))
          (fill names (sign :: front) ++ (fill names back ++ behind)) := by
        rw [← List.append_assoc, ← fill_append]
        exact .before _
      cases sign with
      | letter letter =>
          rw [Pattern.misses, Bool.and_eq_true] at misses
          have further := @inductionHypothesis (letter :: before) misses.2
          simp only [fill_cons, Sign.fill, List.cons_append, List.nil_append, List.reverse_cons,
            List.append_assoc] at shown ⊢
          exact .past (matchAt?_of_failsAt areNames ends shown misses.1) further
      | name index =>
          rw [Pattern.misses, Bool.and_eq_true, Bool.and_eq_true] at misses
          obtain ⟨⟨atStart, inside⟩, others⟩ := misses
          have isName := areNames index
          obtain ⟨first, run, split, _⟩ := Text.exists_cons_of_isName isName
          have named := Text.all_isNameLetter isName
          rw [split, List.all_cons, Bool.and_eq_true] at named
          -- The name is passed letter by letter, the first of them from in front of the name.
          have across := hunt_inside (first :: before) areNames ends inside named.2
          rw [fill_append, List.append_assoc] at across
          have further := @inductionHypothesis (run.reverse ++ first :: before) others
          rw [fill_cons, Sign.fill, split] at shown ⊢
          simp only [List.cons_append, List.append_assoc, List.reverse_append, List.reverse_cons,
            List.nil_append] at shown ⊢
          exact .past (matchAt?_of_failsAt areNames ends shown atStart) (across.append further)

end Pattern

end Shows

end InputDemand

import InputDemand.Pattern.Search
import InputDemand.Proofs.Text.Place

/-!
# Where matches lie

A pattern only scans on: every way to match ends at or behind the place where it begins, and the
pieces that it keeps lie in between.  From this follows where the matches of a search lie.  A
pattern that ends with a certain character also says what stands in front of the place behind its
matches.
-/

namespace InputDemand

/-- Matching went on from one point to another: the place moved on, and the pieces kept on the way
lie between the two places. -/
structure Progress.GoesTo (here there : Progress) : Prop where
  place : here.place ≤ there.place
  kept : ∀ slot piece, (slot, piece) ∈ there.kept →
    (slot, piece) ∈ here.kept ∨
      (here.place ≤ piece.start ∧ piece.start ≤ piece.stop ∧ piece.stop ≤ there.place)

namespace Progress

theorem GoesTo.refl (here : Progress) : here.GoesTo here :=
  ⟨le_refl _, fun _ _ member => Or.inl member⟩

theorem GoesTo.trans {here middle there : Progress} (first : here.GoesTo middle)
    (second : middle.GoesTo there) : here.GoesTo there := by
  refine ⟨le_trans first.place second.place, ?_⟩
  intro slot piece member
  rcases second.kept slot piece member with earlier | ⟨start, order, stop⟩
  · rcases first.kept slot piece earlier with earliest | ⟨start, order, stop⟩
    · exact Or.inl earliest
    · exact Or.inr ⟨start, order, le_trans stop second.place⟩
  · exact Or.inr ⟨le_trans first.place start, order, stop⟩

end Progress

namespace Pattern

/-! ## Ways to match -/

theorem goesTo_of_mem_greedyWays {step : Progress → List Progress}
    (moves : ∀ here, ∀ there ∈ step here, here.GoesTo there) (rounds : Nat) {here there : Progress}
    (member : there ∈ greedyWays step rounds here) : here.GoesTo there := by
  induction rounds generalizing here with
  | zero =>
      rw [List.mem_singleton.mp member]
      exact .refl here
  | succ rounds inductionHypothesis =>
      rw [greedyWays, List.mem_append, List.mem_flatMap, List.mem_singleton] at member
      rcases member with ⟨middle, first, second⟩ | rfl
      · exact (moves here middle first).trans (inductionHypothesis second)
      · exact .refl there

theorem goesTo_of_mem_reluctantWays {step : Progress → List Progress}
    (moves : ∀ here, ∀ there ∈ step here, here.GoesTo there) (rounds : Nat) {here there : Progress}
    (member : there ∈ reluctantWays step rounds here) : here.GoesTo there := by
  induction rounds generalizing here with
  | zero =>
      rw [List.mem_singleton.mp member]
      exact .refl here
  | succ rounds inductionHypothesis =>
      rw [reluctantWays, List.mem_cons, List.mem_flatMap] at member
      rcases member with rfl | ⟨middle, first, second⟩
      · exact .refl there
      · exact (moves here middle first).trans (inductionHypothesis second)

theorem eq_of_mem_guard {here there : Progress} {holds : Bool}
    (member : there ∈ if holds = true then [here] else []) : there = here := by
  split at member
  · exact List.mem_singleton.mp member
  · cases member

/-- Every way to match goes on from where it begins. -/
theorem goesTo_of_mem_ways (pattern : Pattern) {here there : Progress}
    (member : there ∈ ways pattern here) : here.GoesTo there := by
  induction pattern generalizing here there with
  | nothing =>
      rw [List.mem_singleton.mp member]
      exact .refl here
  | letter accepts =>
      unfold ways at member
      split at member
      · split at member
        · rw [List.mem_singleton.mp member]
          exact ⟨Cursor.le_next _, fun _ _ kept => Or.inl kept⟩
        · cases member
      · cases member
  | andThen first second firstMoves secondMoves =>
      obtain ⟨middle, before, behind⟩ := List.mem_flatMap.mp member
      exact (firstMoves before).trans (secondMoves behind)
  | orElse first second firstMoves secondMoves =>
      rcases List.mem_append.mp member with left | right
      · exact firstMoves left
      · exact secondMoves right
  | many body bodyMoves =>
      exact goesTo_of_mem_greedyWays (fun _ _ => bodyMoves) _ member
  | few body bodyMoves =>
      exact goesTo_of_mem_reluctantWays (fun _ _ => bodyMoves) _ member
  | keep slot body bodyMoves =>
      obtain ⟨inner, found, rfl⟩ := List.mem_map.mp member
      have moved := bodyMoves found
      refine ⟨moved.place, ?_⟩
      intro number piece kept
      rcases List.mem_cons.mp kept with newest | earlier
      · cases newest
        exact Or.inr ⟨le_refl _, moved.place, le_refl _⟩
      · exact moved.kept number piece earlier
  | textStart =>
      rw [eq_of_mem_guard member]
      exact .refl here
  | textEnd =>
      rw [eq_of_mem_guard member]
      exact .refl here
  | lineStart =>
      rw [eq_of_mem_guard member]
      exact .refl here
  | lineEnd =>
      rw [eq_of_mem_guard member]
      exact .refl here
  | wordEdge =>
      rw [eq_of_mem_guard member]
      exact .refl here

/-! ## Searches -/

/-- Where a match lies that was looked for from a place on. -/
structure LiesBehind (place : Cursor) (found : Match) : Prop where
  start : place ≤ found.start
  stop : found.start ≤ found.stop
  kept : ∀ slot piece, (slot, piece) ∈ found.kept →
    found.start ≤ piece.start ∧ piece.start ≤ piece.stop ∧ piece.stop ≤ found.stop

variable {pattern : Pattern} {place : Cursor} {found : Match}

theorem liesBehind_of_matchAt? (hit : pattern.matchAt? place = some found) :
    LiesBehind place found := by
  obtain ⟨there, best, rfl⟩ := Option.map_eq_some_iff.mp hit
  have moved := goesTo_of_mem_ways pattern (List.mem_of_mem_head? best)
  refine ⟨le_refl _, moved.place, ?_⟩
  intro slot piece kept
  rcases moved.kept slot piece kept with earlier | between
  · cases earlier
  · exact between

theorem LiesBehind.text (lies : LiesBehind place found) : found.start.text = place.text :=
  (Cursor.text_eq_of_le lies.start).symm

theorem LiesBehind.of_le {earlier : Cursor} (lies : LiesBehind place found)
    (order : earlier ≤ place) : LiesBehind earlier found :=
  ⟨le_trans order lies.start, lies.stop, lies.kept⟩

/-- A match that a search finds is the best one at some place at or behind the start. -/
theorem matchAt?_of_findFrom?_go {before rest : Text}
    (hit : findFrom?.go pattern before rest = some found) :
    ∃ there, ⟨before, rest⟩ ≤ there ∧ pattern.matchAt? there = some found := by
  induction rest generalizing before with
  | nil => exact ⟨_, le_refl _, hit⟩
  | cons first rest inductionHypothesis =>
      unfold findFrom?.go at hit
      split at hit
      · rename_i here
        cases hit
        exact ⟨_, le_refl _, here⟩
      · obtain ⟨there, order, matched⟩ := inductionHypothesis hit
        exact ⟨there, le_trans (Cursor.le_next ⟨before, first :: rest⟩) order, matched⟩

theorem matchAt?_of_findFrom? (hit : pattern.findFrom? place = some found) :
    ∃ there, place ≤ there ∧ pattern.matchAt? there = some found :=
  matchAt?_of_findFrom?_go hit

theorem liesBehind_of_findFrom? (hit : pattern.findFrom? place = some found) :
    LiesBehind place found := by
  obtain ⟨there, order, matched⟩ := matchAt?_of_findFrom? hit
  exact (liesBehind_of_matchAt? matched).of_le order

theorem exists_findFrom?_of_mem_findMany {count : Nat}
    (member : found ∈ pattern.findMany count place) :
    ∃ there, place ≤ there ∧ pattern.findFrom? there = some found := by
  induction count generalizing place with
  | zero => cases member
  | succ count inductionHypothesis =>
      unfold findMany at member
      split at member
      · cases member
      · rename_i first hit
        rcases List.mem_cons.mp member with rfl | later
        · exact ⟨place, le_refl _, hit⟩
        · obtain ⟨there, order, matched⟩ := inductionHypothesis later
          have lies := liesBehind_of_findFrom? hit
          exact ⟨there, le_trans (le_trans lies.start lies.stop) order, matched⟩

theorem exists_matchAt?_of_mem_findAll {text : Text} (member : found ∈ pattern.findAll text) :
    ∃ there, Cursor.start text ≤ there ∧ pattern.matchAt? there = some found := by
  obtain ⟨there, order, hit⟩ := exists_findFrom?_of_mem_findMany member
  obtain ⟨matched, behind, best⟩ := matchAt?_of_findFrom? hit
  exact ⟨matched, le_trans order behind, best⟩

theorem liesBehind_of_mem_findAll {text : Text} (member : found ∈ pattern.findAll text) :
    LiesBehind (Cursor.start text) found := by
  obtain ⟨there, order, hit⟩ := exists_matchAt?_of_mem_findAll member
  exact (liesBehind_of_matchAt? hit).of_le order

theorem text_of_mem_findAll {text : Text} (member : found ∈ pattern.findAll text) :
    found.start.text = text :=
  (liesBehind_of_mem_findAll member).text

/-! ## Patterns that end with a character -/

/-- Every match of the pattern ends with the character, which the match itself takes. -/
def EndsWith (pattern : Pattern) (last : Char) : Prop :=
  ∀ here, ∀ there ∈ ways pattern here,
    there.place.before.head? = some last ∧ here.place ≤ there.place.back

theorem endsWith_word (last : Char) : EndsWith (word [last]) last := by
  intro here there member
  obtain ⟨middle, taken, rest⟩ := List.mem_flatMap.mp member
  rw [List.mem_singleton.mp rest]
  unfold ways at taken
  split at taken
  · rename_i found behind split
    split at taken
    · rename_i same
      rw [List.mem_singleton.mp taken]
      have found : here.place.rest.head? = some last := by
        rw [split, eq_of_beq same]
        rfl
      refine ⟨Cursor.before_next found, ?_⟩
      rcases here with ⟨⟨before, _ | ⟨first, ahead⟩⟩, kept⟩
      · cases found
      · exact le_refl _
    · cases taken
  · cases taken

theorem EndsWith.andThen {second : Pattern} {last : Char} (ends : EndsWith second last)
    (first : Pattern) : EndsWith (first ++ second) last := by
  intro here there member
  obtain ⟨middle, before, behind⟩ := List.mem_flatMap.mp member
  obtain ⟨letter, order⟩ := ends middle there behind
  exact ⟨letter, le_trans (goesTo_of_mem_ways first before).place order⟩

theorem EndsWith.matchAt? {last : Char} (ends : EndsWith pattern last)
    (hit : pattern.matchAt? place = some found) :
    found.stop.before.head? = some last ∧ found.start ≤ found.last := by
  obtain ⟨there, best, rfl⟩ := Option.map_eq_some_iff.mp hit
  exact ends _ there (List.mem_of_mem_head? best)

theorem EndsWith.findFrom? {last : Char} (ends : EndsWith pattern last)
    (hit : pattern.findFrom? place = some found) :
    found.stop.before.head? = some last ∧ found.start ≤ found.last := by
  obtain ⟨there, order, matched⟩ := matchAt?_of_findFrom? hit
  exact ends.matchAt? matched

theorem EndsWith.findAll {text : Text} {last : Char} (ends : EndsWith pattern last)
    (member : found ∈ pattern.findAll text) :
    found.stop.before.head? = some last ∧ found.start ≤ found.last := by
  obtain ⟨there, order, matched⟩ := exists_matchAt?_of_mem_findAll member
  exact ends.matchAt? matched

end Pattern

end InputDemand

import InputDemand.Proofs.Pattern.Rounds

/-!
# The one way that leads on

A pattern that takes a run of letters has many ways, but what follows mostly accepts none of these
letters.  Then just one of the ways leads on: the one that takes the whole run.
-/

namespace InputDemand

namespace Pattern

/-! ## In front of a letter -/

/-- Whether a pattern may match in front of a letter without taking it, as far as its form tells. -/
def mayStay (next : Char) : Pattern → Bool
  | letter _ | textEnd => false
  | andThen first second => first.mayStay next && second.mayStay next
  | orElse first second => first.mayStay next || second.mayStay next
  | keep _ body => body.mayStay next
  | lineEnd => next = '\n'
  | nothing | many _ | few _ | textStart | lineStart | wordEdge => true

/-- Whether a pattern may take a letter first, as far as its form tells. -/
def mayTake (next : Char) : Pattern → Bool
  | letter accepts => accepts next
  | andThen first second => first.mayTake next || (first.mayStay next && second.mayTake next)
  | orElse first second => first.mayTake next || second.mayTake next
  | many body | few body | keep _ body => body.mayTake next
  | nothing | textStart | textEnd | lineStart | lineEnd | wordEdge => false

/-- Whether a pattern does not match in front of a letter. -/
def refuses (pattern : Pattern) (next : Char) : Bool :=
  !pattern.mayStay next && !pattern.mayTake next

@[simp]
theorem mayStay_append (next : Char) (first second : Pattern) :
    (first ++ second).mayStay next = (first.mayStay next && second.mayStay next) :=
  rfl

@[simp]
theorem mayTake_append (next : Char) (first second : Pattern) :
    (first ++ second).mayTake next =
      (first.mayTake next || (first.mayStay next && second.mayTake next)) :=
  rfl

section Next

variable {pattern : Pattern} {next : Char} {here there : Progress} {step : Progress → List Progress}

theorem place_eq_of_mem_greedyWays
    (stays : ∀ here : Progress, here.place.rest.head? = some next →
      ∀ there ∈ step here, there.place = here.place)
    (rounds : Nat) (ahead : here.place.rest.head? = some next)
    (member : there ∈ greedyWays step rounds here) : there.place = here.place := by
  induction rounds generalizing here with
  | zero => rw [List.mem_singleton.mp member]
  | succ rounds inductionHypothesis =>
      rw [greedyWays, List.mem_append, List.mem_flatMap, List.mem_singleton] at member
      rcases member with ⟨middle, first, second⟩ | rfl
      · have same := stays here ahead middle first
        exact (inductionHypothesis (same ▸ ahead) second).trans same
      · rfl

theorem stays_or_takes_many {body : Pattern}
    (bodyMoves : ∀ {here there : Progress}, here.place.rest.head? = some next →
      there ∈ ways body here →
        there.place = here.place ∧ body.mayStay next = true ∨ body.mayTake next = true)
    (ahead : here.place.rest.head? = some next) (member : there ∈ ways (many body) here) :
    there.place = here.place ∨ body.mayTake next = true := by
  by_cases takes : body.mayTake next = true
  · exact Or.inr takes
  · refine Or.inl (place_eq_of_mem_greedyWays ?_ _ ahead member)
    exact fun here ahead there member => ((bodyMoves ahead member).resolve_right takes).1

/-- In front of a letter, every way of a pattern stays or takes the letter. -/
theorem stays_or_takes (pattern : Pattern) (ahead : here.place.rest.head? = some next)
    (member : there ∈ ways pattern here) :
    there.place = here.place ∧ pattern.mayStay next = true ∨ pattern.mayTake next = true := by
  induction pattern generalizing here there with
  | nothing => exact Or.inl ⟨congrArg Progress.place (List.mem_singleton.mp member), rfl⟩
  | letter accepts =>
      right
      obtain ⟨behind, split⟩ := List.head?_eq_some_iff.mp ahead
      by_cases accepted : accepts next = true
      · exact accepted
      · simp [ways, split, accepted] at member
  | andThen first second firstMoves secondMoves =>
      obtain ⟨middle, before, behind⟩ := List.mem_flatMap.mp member
      simp only [mayStay, mayTake, Bool.and_eq_true, Bool.or_eq_true]
      -- While the first pattern stays, the letter is still in front of the second.
      rcases firstMoves ahead before with ⟨same, stays⟩ | takes
      · rcases secondMoves (same ▸ ahead) behind with ⟨same', stays'⟩ | takes
        · exact Or.inl ⟨same'.trans same, stays, stays'⟩
        · exact Or.inr (Or.inr ⟨stays, takes⟩)
      · exact Or.inr (Or.inl takes)
  | orElse first second firstMoves secondMoves =>
      simp only [mayStay, mayTake, Bool.or_eq_true]
      rcases List.mem_append.mp member with left | right
      · rcases firstMoves ahead left with ⟨same, stays⟩ | takes
        · exact Or.inl ⟨same, Or.inl stays⟩
        · exact Or.inr (Or.inl takes)
      · rcases secondMoves ahead right with ⟨same, stays⟩ | takes
        · exact Or.inl ⟨same, Or.inr stays⟩
        · exact Or.inr (Or.inr takes)
  | many body bodyMoves =>
      exact (stays_or_takes_many bodyMoves ahead member).imp_left fun same => ⟨same, rfl⟩
  | few body bodyMoves =>
      exact (stays_or_takes_many bodyMoves ahead (mem_ways_few.mp member)).imp_left
        fun same => ⟨same, rfl⟩
  | keep slot body bodyMoves =>
      obtain ⟨inner, found, rfl⟩ := List.mem_map.mp member
      have moved : inner.place = here.place ∧ body.mayStay next = true ∨
          body.mayTake next = true := bodyMoves ahead found
      exact moved
  | textEnd =>
      obtain ⟨behind, split⟩ := List.head?_eq_some_iff.mp ahead
      simp [ways, split] at member
  | lineEnd =>
      left
      rw [ways, ahead] at member
      by_cases feed : next = '\n'
      · exact ⟨congrArg Progress.place (eq_of_mem_guard member), decide_eq_true feed⟩
      · simp [atBreak, feed] at member
  | textStart => exact Or.inl ⟨congrArg Progress.place (eq_of_mem_guard member), rfl⟩
  | lineStart => exact Or.inl ⟨congrArg Progress.place (eq_of_mem_guard member), rfl⟩
  | wordEdge => exact Or.inl ⟨congrArg Progress.place (eq_of_mem_guard member), rfl⟩

theorem ways_of_refuses (ahead : here.place.rest.head? = some next)
    (refuses : pattern.refuses next = true) : ways pattern here = [] := by
  rw [Pattern.refuses, Bool.and_eq_true, Bool.not_eq_true', Bool.not_eq_true'] at refuses
  apply List.eq_nil_iff_forall_not_mem.mpr
  intro there member
  rcases stays_or_takes pattern ahead member with ⟨_, stays⟩ | takes
  · rw [refuses.1] at stays
    cases stays
  · rw [refuses.2] at takes
    cases takes

end Next

theorem ways_of_takesLetter (takes : pattern.takesLetter = true) (before : Text)
    (kept : List (Nat × Piece)) : ways pattern ⟨⟨before, []⟩, kept⟩ = [] := by
  apply List.eq_nil_iff_forall_not_mem.mpr
  intro there member
  exact Nat.not_lt_zero _ (shortens_of_takesLetter takes _ there member)

theorem ways_letter {accepts : Char → Bool} (accepted : accepts next = true)
    (before rest : Text) (kept : List (Nat × Piece)) :
    ways (letter accepts) ⟨⟨before, next :: rest⟩, kept⟩ = [⟨⟨next :: before, rest⟩, kept⟩] := by
  simp [ways, accepted, Cursor.next]

/-! ## One pattern behind another -/

section Behind

variable {first second third body : Pattern} {here there : Progress}

theorem ways_append (first second : Pattern) (here : Progress) :
    ways (first ++ second) here = (ways first here).flatMap (ways second) :=
  rfl

theorem ways_append_append (first second third : Pattern) :
    ways (first ++ second ++ third) = ways (first ++ (second ++ third)) :=
  funext fun _ => List.flatMap_assoc

theorem ways_append_of_singleton (only : ways first here = [there]) :
    ways (first ++ second) here = ways second there := by
  rw [ways_append, only, List.flatMap_singleton]

theorem ways_append_of_nil (none : ways first here = []) : ways (first ++ second) here = [] := by
  rw [ways_append, none, List.flatMap_nil]

theorem ways_optional_of_nil (none : ways body here = []) : ways (optional body) here = [here] := by
  change ways body here ++ [here] = [here]
  rw [none, List.nil_append]

theorem greedyWays_of_nil {step : Progress → List Progress} (none : step here = [])
    (rounds : Nat) : greedyWays step rounds here = [here] := by
  cases rounds with
  | zero => rfl
  | succ rounds => rw [greedyWays, none, List.flatMap_nil, List.nil_append]

theorem ways_many_of_nil (none : ways body here = []) : ways (many body) here = [here] :=
  greedyWays_of_nil none _

/-- A repetition that can go round just once, and then leads to nothing, is not gone into. -/
theorem ways_many_append_of_once (once : ways body here = [there]) (noMore : ways body there = [])
    (none : ways second there = []) : ways (many body ++ second) here = ways second here := by
  rw [ways_append]
  change (greedyWays (ways body) here.place.rest.length here).flatMap (ways second) = _
  cases here.place.rest.length with
  | zero => exact List.flatMap_singleton _ _
  | succ rounds =>
      rw [greedyWays, once, List.flatMap_singleton, greedyWays_of_nil noMore,
        List.singleton_append, List.flatMap_cons, none, List.flatMap_singleton, List.nil_append]

end Behind

/-! ## Letters that a pattern needs -/

/-- A pattern does not match where the letter does not follow anywhere. -/
def Needs (pattern : Pattern) (needed : Char) : Prop :=
  ∀ here : Progress, needed ∉ here.place.rest → ways pattern here = []

section Needs

variable {first second : Pattern} {needed : Char}

theorem needs_letter (needed : Char) : Needs (letter (· == needed)) needed := by
  rintro ⟨⟨before, _ | ⟨next, rest⟩⟩, kept⟩ absent
  · rfl
  · have different : (next == needed) = false :=
      beq_eq_false_iff_ne.mpr (List.ne_of_not_mem_cons absent).symm
    simp [ways, different]

theorem Needs.append_left (needs : Needs first needed) (second : Pattern) :
    Needs (first ++ second) needed :=
  fun here absent => ways_append_of_nil (needs here absent)

theorem Needs.append_right (needs : Needs second needed) (first : Pattern) :
    Needs (first ++ second) needed := by
  intro here absent
  rw [ways_append, List.flatMap_eq_nil_iff]
  intro there member
  obtain ⟨passed, rest, _⟩ := (goesTo_of_mem_ways first member).place
  apply needs
  intro listed
  rw [rest] at absent
  exact absent (List.mem_append_right passed listed)

theorem Needs.findAll_eq_nil {text : Text} (needs : Needs first needed) (absent : needed ∉ text) :
    first.findAll text = [] := by
  apply List.eq_nil_iff_forall_not_mem.mpr
  intro found member
  obtain ⟨there, ⟨passed, rest, _⟩, matched⟩ := exists_matchAt?_of_mem_findAll member
  have absent : needed ∉ there.rest := by
    intro listed
    rw [show text = _ from rest] at absent
    exact absent (List.mem_append_right passed listed)
  rw [matchAt?, needs ⟨there, []⟩ absent] at matched
  cases matched

end Needs

/-! ## Runs of letters -/

/-- Of the ways of a pattern one leads on, unless a letter of the class may follow. -/
def Settles (isInner : Char → Bool) (pattern : Pattern) (here there : Progress) : Prop :=
  ∀ further : Progress → List Progress,
    (∀ middle next, middle.place.rest.head? = some next → isInner next = true →
      further middle = []) →
    (ways pattern here).flatMap further = further there

namespace Settles

variable {isInner accepts : Char → Bool} {first second : Pattern} {here middle there : Progress}
  {before run rest : Text} {kept : List (Nat × Piece)}

/-- Of the ways of a repetition through a run, only the one to its end goes on. -/
theorem flatMap_greedyWays {Result : Type} {further : Progress → List Result}
    (refused : ∀ here next, here.place.rest.head? = some next → isInner next = true →
      further here = [])
    (inner : run.all isInner = true) (accepted : run.all accepts = true)
    (stops : rest.head?.all (fun next => !accepts next) = true) {rounds : Nat}
    (enough : run.length ≤ rounds) :
    (greedyWays (ways (letter accepts)) rounds ⟨⟨before, run ++ rest⟩, kept⟩).flatMap further =
      further ⟨⟨run.reverse ++ before, rest⟩, kept⟩ := by
  induction run generalizing before rounds with
  | nil =>
      have none : ways (letter accepts) ⟨⟨before, rest⟩, kept⟩ = [] := by
        cases rest with
        | nil => rfl
        | cons next rest =>
            have refuses : accepts next = false := by simpa using stops
            simp [ways, refuses]
      rw [List.nil_append, greedyWays_of_nil none, List.flatMap_singleton]
      rfl
  | cons next run inductionHypothesis =>
      rw [List.all_cons, Bool.and_eq_true] at inner accepted
      obtain ⟨more, rfl⟩ := Nat.exists_eq_add_of_le' enough
      have once : ways (letter accepts) ⟨⟨before, next :: (run ++ rest)⟩, kept⟩ =
          [⟨⟨next :: before, run ++ rest⟩, kept⟩] := ways_letter accepted.1 before _ kept
      have others : further ⟨⟨before, next :: (run ++ rest)⟩, kept⟩ = [] :=
        refused _ next rfl inner.1
      rw [List.length_cons, ← Nat.add_assoc, List.cons_append, greedyWays, once,
        List.flatMap_singleton, List.flatMap_append, List.flatMap_singleton, others,
        List.append_nil, List.reverse_cons, List.append_assoc]
      exact inductionHypothesis inner.2 accepted.2 (Nat.le_add_left _ _)

theorem of_many (inner : run.all isInner = true) (accepted : run.all accepts = true)
    (stops : rest.head?.all (fun next => !accepts next) = true) :
    Settles isInner (many (letter accepts)) ⟨⟨before, run ++ rest⟩, kept⟩
      ⟨⟨run.reverse ++ before, rest⟩, kept⟩ := by
  intro further refused
  apply flatMap_greedyWays refused inner accepted stops
  rw [List.length_append]
  exact Nat.le_add_right _ _

theorem of_append (only : ways first here = [middle])
    (settles : Settles isInner second middle there) :
    Settles isInner (first ++ second) here there := by
  intro further refused
  rw [ways_append_of_singleton only, settles further refused]

theorem of_keep {slot : Nat} (settles : Settles isInner first here there) :
    Settles isInner (keep slot first) here
      ⟨there.place, (slot, ⟨here.place, there.place⟩) :: there.kept⟩ := by
  intro further refused
  change ((ways first here).map _).flatMap further = _
  rw [List.flatMap_map]
  apply settles
  exact fun middle next ahead inner => refused _ next ahead inner

/-- What need not match is gone into if it leads on, and only then. -/
theorem of_optional (once : ways first here = [middle]) (none : ways second here = [])
    (settles : Settles isInner second middle there) :
    Settles isInner (optional first ++ second) here there := by
  intro further refused
  have skipped : ways (optional first) here = [middle, here] := by
    change ways first here ++ [here] = _
    rw [once, List.singleton_append]
  rw [Pattern.ways_append, skipped, List.flatMap_cons, List.flatMap_singleton, none,
    List.append_nil, settles further refused]

theorem of_run {takes : Char → Bool} {letter : Char} (taken : takes letter = true)
    (inner : run.all isInner = true) (accepted : run.all accepts = true)
    (stops : rest.head?.all (fun next => !accepts next) = true) :
    Settles isInner (.letter takes ++ many (.letter accepts))
      ⟨⟨before, letter :: run ++ rest⟩, kept⟩
      ⟨⟨(letter :: run).reverse ++ before, rest⟩, kept⟩ := by
  rw [List.reverse_cons, List.append_assoc]
  exact of_append (ways_letter taken before (run ++ rest) kept) (of_many inner accepted stops)

/-- Behind a pattern that settles, what refuses the letters of the class goes on from there. -/
theorem ways_append (settles : Settles isInner first here there)
    (refuses : ∀ next, isInner next = true → second.refuses next = true) :
    ways (first ++ second) here = ways second there :=
  settles (ways second) fun _ next ahead inner => ways_of_refuses ahead (refuses next inner)

end Settles

end Pattern

end InputDemand

import InputDemand.Proofs.Pattern.Hunt
import InputDemand.Proofs.Pattern.Ways
import Mathlib.Data.List.Basic

/-!
# The best way

A search takes the first of the ways in which a pattern matches.  The first way of a pattern behind
another is put together from their first ways.  A repetition unfolds into its rounds, one by one;
its first way is followed through the rounds that lead on, and through those that lead to nothing.
-/

namespace InputDemand

namespace Pattern

/-! ## Repetitions round by round -/

section Unfold

variable {body : Pattern} {here : Progress}

theorem Shortens.ways_eq_nil (shortens : Shortens body) (done : here.place.rest.length = 0) :
    ways body here = [] := by
  refine List.eq_nil_iff_forall_not_mem.mpr fun there member => ?_
  have less := shortens here there member
  omega

/-- More rounds than characters add nothing to a repetition. -/
theorem Shortens.greedyWays_eq (shortens : Shortens body) {rounds others : Nat}
    (enough : here.place.rest.length ≤ rounds) (enough' : here.place.rest.length ≤ others) :
    greedyWays (ways body) rounds here = greedyWays (ways body) others here := by
  induction rounds generalizing others here with
  | zero =>
      have none := shortens.ways_eq_nil (Nat.le_zero.mp enough)
      rw [greedyWays_of_nil none, greedyWays_of_nil none]
  | succ rounds inductionHypothesis =>
      cases others with
      | zero =>
          have none := shortens.ways_eq_nil (Nat.le_zero.mp enough')
          rw [greedyWays_of_nil none, greedyWays_of_nil none]
      | succ others =>
          rw [greedyWays, greedyWays]
          congr 1
          refine List.flatMap_congr fun there member => ?_
          have less := shortens here there member
          exact inductionHypothesis (by omega) (by omega)

/-- The same of a reluctant one. -/
theorem Shortens.reluctantWays_eq (shortens : Shortens body) {rounds others : Nat}
    (enough : here.place.rest.length ≤ rounds) (enough' : here.place.rest.length ≤ others) :
    reluctantWays (ways body) rounds here = reluctantWays (ways body) others here := by
  have single : ∀ {here : Progress}, ways body here = [] → ∀ rounds,
      reluctantWays (ways body) rounds here = [here] := by
    intro here none rounds
    cases rounds with
    | zero => rfl
    | succ rounds => rw [reluctantWays, none, List.flatMap_nil]
  induction rounds generalizing others here with
  | zero =>
      have none := shortens.ways_eq_nil (Nat.le_zero.mp enough)
      rw [single none, single none]
  | succ rounds inductionHypothesis =>
      cases others with
      | zero =>
          have none := shortens.ways_eq_nil (Nat.le_zero.mp enough')
          rw [single none, single none]
      | succ others =>
          rw [reluctantWays, reluctantWays]
          congr 1
          refine List.flatMap_congr fun there member => ?_
          have less := shortens here there member
          exact inductionHypothesis (by omega) (by omega)

/-- A repetition goes on behind a round, or stops. -/
theorem Shortens.ways_many (shortens : Shortens body) (here : Progress) :
    ways (many body) here = (ways body here).flatMap (ways (many body)) ++ [here] := by
  have further : greedyWays (ways body) (here.place.rest.length + 1) here =
      (ways body here).flatMap (ways (many body)) ++ [here] := by
    rw [greedyWays]
    congr 1
    refine List.flatMap_congr fun there member => ?_
    have less := shortens here there member
    exact shortens.greedyWays_eq (by omega) (Nat.le_refl _)
  exact (shortens.greedyWays_eq (Nat.le_refl _) (Nat.le_succ _)).trans further

theorem Shortens.ways_few (shortens : Shortens body) (here : Progress) :
    ways (few body) here = here :: (ways body here).flatMap (ways (few body)) := by
  have further : reluctantWays (ways body) (here.place.rest.length + 1) here =
      here :: (ways body here).flatMap (ways (few body)) := by
    rw [reluctantWays]
    congr 1
    refine List.flatMap_congr fun there member => ?_
    have less := shortens here there member
    exact shortens.reluctantWays_eq (by omega) (Nat.le_refl _)
  exact (shortens.reluctantWays_eq (Nat.le_refl _) (Nat.le_succ _)).trans further

theorem Shortens.ways_many_append (shortens : Shortens body) (second : Pattern) (here : Progress) :
    ways (many body ++ second) here =
      (ways body here).flatMap (ways (many body ++ second)) ++ ways second here := by
  rw [ways_append, shortens.ways_many, List.flatMap_append, List.flatMap_assoc,
    List.flatMap_singleton]
  rfl

end Unfold

/-- A word matches where it stands, and nowhere else. -/
theorem ways_word (text : Text) (before rest : Text) (kept : List (Nat × Piece)) :
    ways (word text) ⟨⟨before, text ++ rest⟩, kept⟩ = [⟨⟨text.reverse ++ before, rest⟩, kept⟩] := by
  induction text generalizing before with
  | nil => rfl
  | cons next text inductionHypothesis =>
      have once : ways (word (next :: text)) ⟨⟨before, next :: (text ++ rest)⟩, kept⟩ =
          ways (word text) _ := ways_append_of_singleton
        (ways_letter (beq_self_eq_true next) before (text ++ rest) kept)
      rw [inductionHypothesis] at once
      rw [List.reverse_cons, List.append_assoc]
      exact once

theorem ways_word_eq_nil {text rest : Text} (absent : ¬ text <+: rest) (before : Text)
    (kept : List (Nat × Piece)) : ways (word text) ⟨⟨before, rest⟩, kept⟩ = [] := by
  induction text generalizing before rest with
  | nil => exact absurd (List.nil_prefix) absent
  | cons next text inductionHypothesis =>
      cases rest with
      | nil => rfl
      | cons letter rest =>
          by_cases same : letter = next
          · subst same
            have once : ways (word (letter :: text)) ⟨⟨before, letter :: rest⟩, kept⟩ =
                ways (word text) _ :=
              ways_append_of_singleton (ways_letter (beq_self_eq_true letter) before rest kept)
            refine Eq.trans once (inductionHypothesis (fun found => absent ?_) (letter :: before))
            exact List.cons_prefix_cons.mpr ⟨rfl, found⟩
          · refine ways_of_refuses rfl ?_
            simp [word, refuses, mayStay, mayTake, same]

/-! ## First ways -/

/-- The best way of a pattern leads from one point to another. -/
def First (pattern : Pattern) (here there : Progress) : Prop :=
  (ways pattern here).head? = some there

namespace First

variable {first second body : Pattern} {here middle there : Progress} {accepts : Char → Bool}
  {before run rest : Text} {kept : List (Nat × Piece)}

theorem append (toMiddle : First first here middle) (further : First second middle there) :
    First (first ++ second) here there := by
  obtain ⟨others, split⟩ := List.head?_eq_some_iff.mp toMiddle
  rw [First, ways_append, split, List.flatMap_cons, List.head?_append, further]
  rfl

theorem keep {slot : Nat} (leads : First body here there) :
    First (.keep slot body) here
      ⟨there.place, (slot, ⟨here.place, there.place⟩) :: there.kept⟩ := by
  obtain ⟨others, split⟩ := List.head?_eq_some_iff.mp leads
  rw [First, ways, split]
  rfl

theorem letter {next : Char} (accepted : accepts next = true) :
    First (.letter accepts) ⟨⟨before, next :: rest⟩, kept⟩ ⟨⟨next :: before, rest⟩, kept⟩ := by
  rw [First, ways_letter accepted]
  rfl

theorem nothing : First .nothing here here :=
  rfl

theorem textStart : First .textStart ⟨⟨[], rest⟩, kept⟩ ⟨⟨[], rest⟩, kept⟩ :=
  rfl

theorem textEnd : First .textEnd ⟨⟨before, []⟩, kept⟩ ⟨⟨before, []⟩, kept⟩ :=
  rfl

theorem word (text : Text) :
    First (.word text) ⟨⟨before, text ++ rest⟩, kept⟩ ⟨⟨text.reverse ++ before, rest⟩, kept⟩ := by
  rw [First, ways_word]
  rfl

theorem orElse_left (leads : First first here there) : First (.orElse first second) here there := by
  rw [First, ways, List.head?_append, leads]
  rfl

theorem orElse_right (none : ways first here = []) (leads : First second here there) :
    First (.orElse first second) here there := by
  rw [First, ways, none, List.nil_append]
  exact leads

/-- The first alternative that matches leads on. -/
theorem oneOf {alternatives earlier later : List Pattern}
    (split : alternatives = earlier ++ body :: later)
    (none : ∀ pattern ∈ earlier, ways pattern here = []) (leads : First body here there) :
    First (Pattern.oneOf alternatives) here there := by
  subst split
  induction earlier with
  | nil =>
      cases later with
      | nil => exact leads
      | cons other later => exact orElse_left leads
  | cons pattern earlier inductionHypothesis =>
      have further := inductionHypothesis fun other member =>
        none other (List.mem_cons_of_mem _ member)
      obtain ⟨next, others, behind⟩ : ∃ next others, earlier ++ body :: later = next :: others :=
        List.exists_cons_of_ne_nil (by simp)
      rw [behind] at further
      rw [List.cons_append, behind]
      exact orElse_right (none pattern List.mem_cons_self) further

theorem optional (leads : First body here there) : First (Pattern.optional body) here there :=
  orElse_left leads

theorem optional_of_nil (none : ways body here = []) : First (Pattern.optional body) here here :=
  orElse_right none nothing

/-- A repetition takes a whole run of letters first. -/
theorem many_run (accepted : run.all accepts = true)
    (stops : rest.head?.all (fun next => !accepts next) = true) :
    First (many (.letter accepts)) ⟨⟨before, run ++ rest⟩, kept⟩
      ⟨⟨run.reverse ++ before, rest⟩, kept⟩ := by
  have shortens : Shortens (.letter accepts) := shortens_of_takesLetter rfl
  induction run generalizing before with
  | nil =>
      have none : ways (.letter accepts) ⟨⟨before, rest⟩, kept⟩ = [] := by
        cases rest with
        | nil => rfl
        | cons next rest =>
            have refuses : accepts next = false := by simpa using stops
            simp [ways, refuses]
      rw [List.nil_append, First, ways_many_of_nil none]
      rfl
  | cons next run inductionHypothesis =>
      rw [List.all_cons, Bool.and_eq_true] at accepted
      have further := @inductionHypothesis (next :: before) accepted.2
      rw [First] at further ⊢
      rw [List.cons_append, shortens.ways_many, ways_letter accepted.1, List.flatMap_singleton,
        List.head?_append, further, List.reverse_cons, List.append_assoc]
      rfl

theorem some1_run (nonempty : run ≠ []) (accepted : run.all accepts = true)
    (stops : rest.head?.all (fun next => !accepts next) = true) :
    First (some1 (.letter accepts)) ⟨⟨before, run ++ rest⟩, kept⟩
      ⟨⟨run.reverse ++ before, rest⟩, kept⟩ := by
  obtain ⟨next, run, rfl⟩ := List.exists_cons_of_ne_nil nonempty
  rw [List.all_cons, Bool.and_eq_true] at accepted
  rw [List.reverse_cons, List.append_assoc]
  exact append (letter accepted.1) (many_run accepted.2 stops)

theorem many_step (shortens : Shortens body) (round : First body here middle)
    (further : First (many body ++ second) middle there) :
    First (many body ++ second) here there := by
  obtain ⟨others, split⟩ := List.head?_eq_some_iff.mp round
  rw [First] at further ⊢
  rw [shortens.ways_many_append, split, List.flatMap_cons, List.append_assoc, List.head?_append,
    further]
  rfl

theorem many_stop (shortens : Shortens body)
    (none : (ways body here).flatMap (ways (many body ++ second)) = [])
    (further : First second here there) : First (many body ++ second) here there := by
  rw [First, shortens.ways_many_append, none, List.nil_append]
  exact further

theorem many_round (shortens : Shortens body) (round : First body here middle)
    (further : First (many body) middle there) : First (many body) here there := by
  obtain ⟨others, split⟩ := List.head?_eq_some_iff.mp round
  rw [First] at further ⊢
  rw [shortens.ways_many, split, List.flatMap_cons, List.append_assoc, List.head?_append, further]
  rfl

theorem many_of_nil (none : ways body here = []) : First (many body) here here := by
  rw [First, ways_many_of_nil none]
  rfl

/-- A reluctant repetition passes the letters behind which nothing goes on. -/
theorem flatMap_few {Result : Type} {further : Progress → List Result} {result : Result}
    (accepted : run.all accepts = true)
    (none : ∀ front back, run = front ++ back → back ≠ [] →
      further ⟨⟨front.reverse ++ before, back ++ rest⟩, kept⟩ = [])
    (leads : (further ⟨⟨run.reverse ++ before, rest⟩, kept⟩).head? = some result) :
    ((ways (few (.letter accepts)) ⟨⟨before, run ++ rest⟩, kept⟩).flatMap further).head? =
      some result := by
  have shortens : Shortens (.letter accepts) := shortens_of_takesLetter rfl
  induction run generalizing before with
  | nil =>
      rw [shortens.ways_few, List.flatMap_cons, List.head?_append]
      rw [List.reverse_nil, List.nil_append] at leads
      rw [List.nil_append, leads]
      rfl
  | cons next run inductionHypothesis =>
      rw [List.all_cons, Bool.and_eq_true] at accepted
      have here := none [] (next :: run) rfl (List.cons_ne_nil _ _)
      rw [List.reverse_nil, List.nil_append, List.cons_append] at here
      rw [List.cons_append, shortens.ways_few, List.flatMap_cons, here, List.nil_append,
        ways_letter accepted.1, List.flatMap_singleton]
      refine inductionHypothesis accepted.2 (fun front back split nonempty => ?_) ?_
      · have later := none (next :: front) back (by rw [split]; rfl) nonempty
        rwa [List.reverse_cons, List.append_assoc] at later
      · rwa [List.reverse_cons, List.append_assoc] at leads

/-- A piece is kept as short as what follows it allows. -/
theorem keep_few1 {slot : Nat} (nonempty : run ≠ []) (accepted : run.all accepts = true)
    (none : ∀ front back, run = front ++ back → back ≠ [] → ∀ kept,
      ways second ⟨⟨front.reverse ++ before, back ++ rest⟩, kept⟩ = [])
    (leads : First second ⟨⟨run.reverse ++ before, rest⟩,
      (slot, ⟨⟨before, run ++ rest⟩, ⟨run.reverse ++ before, rest⟩⟩) :: kept⟩ there) :
    First (.keep slot (few1 (.letter accepts)) ++ second) ⟨⟨before, run ++ rest⟩, kept⟩ there := by
  obtain ⟨next, run, rfl⟩ := List.exists_cons_of_ne_nil nonempty
  rw [List.all_cons, Bool.and_eq_true] at accepted
  rw [First, ways_append, ways, List.flatMap_map, few1, ways_append, List.cons_append,
    ways_letter accepted.1, List.flatMap_singleton]
  refine flatMap_few accepted.2 (fun front back split nonempty => ?_) ?_
  · have later := none (next :: front) back (by rw [split]; rfl) nonempty
    simp only [List.reverse_cons, List.append_assoc] at later
    exact later _
  · rw [List.reverse_cons, List.append_assoc] at leads
    exact leads

end First

/-! ## What a pattern passes and keeps -/

/-- Whether a pattern takes a letter anywhere, as far as its form tells. -/
def passes (next : Char) : Pattern → Bool
  | letter accepts => accepts next
  | andThen first second | orElse first second => first.passes next || second.passes next
  | many body | few body | keep _ body => body.passes next
  | nothing | textStart | textEnd | lineStart | lineEnd | wordEdge => false

@[simp]
theorem passes_append (next : Char) (first second : Pattern) :
    (first ++ second).passes next = (first.passes next || second.passes next) :=
  rfl

/-- Whether a pattern keeps a piece under a number. -/
def keeps (slot : Nat) : Pattern → Bool
  | keep number body => number == slot || body.keeps slot
  | andThen first second | orElse first second => first.keeps slot || second.keeps slot
  | many body | few body => body.keeps slot
  | nothing | letter _ | textStart | textEnd | lineStart | lineEnd | wordEdge => false

/-- From one point to another only letters of a pattern were passed, and pieces under numbers that
the pattern does not keep are still there. -/
structure Passage (pattern : Pattern) (here there : Progress) : Prop where
  letters : ∃ passed, here.place.rest = passed ++ there.place.rest ∧
    there.place.before = passed.reverse ++ here.place.before ∧
    ∀ letter ∈ passed, pattern.passes letter = true
  slots : ∀ slot, pattern.keeps slot = false → there.kept.lookup slot = here.kept.lookup slot

namespace Passage

variable {pattern larger : Pattern} {here middle there : Progress}

theorem refl (pattern : Pattern) (here : Progress) : Passage pattern here here :=
  ⟨⟨[], rfl, rfl, by simp⟩, fun _ _ => rfl⟩

theorem trans (first : Passage pattern here middle) (second : Passage pattern middle there) :
    Passage pattern here there := by
  obtain ⟨passed, rest, before, letters⟩ := first.letters
  obtain ⟨later, rest', before', letters'⟩ := second.letters
  refine ⟨⟨passed ++ later, ?_, ?_, ?_⟩, fun slot none =>
    (second.slots slot none).trans (first.slots slot none)⟩
  · rw [rest, rest', List.append_assoc]
  · rw [before', before, List.reverse_append, List.append_assoc]
  · exact fun letter member => (List.mem_append.mp member).elim (letters letter) (letters' letter)

theorem mono (passage : Passage pattern here there)
    (letters : ∀ letter, pattern.passes letter = true → larger.passes letter = true)
    (slots : ∀ slot, larger.keeps slot = false → pattern.keeps slot = false) :
    Passage larger here there := by
  obtain ⟨passed, rest, before, accepted⟩ := passage.letters
  exact ⟨⟨passed, rest, before, fun letter member => letters letter (accepted letter member)⟩,
    fun slot none => passage.slots slot (slots slot none)⟩

theorem of_greedyWays {step : Progress → List Progress}
    (moves : ∀ here, ∀ there ∈ step here, Passage pattern here there) (rounds : Nat)
    (member : there ∈ greedyWays step rounds here) : Passage pattern here there := by
  induction rounds generalizing here with
  | zero =>
      rw [List.mem_singleton.mp member]
      exact refl pattern here
  | succ rounds inductionHypothesis =>
      rw [greedyWays, List.mem_append, List.mem_flatMap, List.mem_singleton] at member
      rcases member with ⟨middle, first, second⟩ | rfl
      · exact (moves here middle first).trans (inductionHypothesis second)
      · exact refl pattern there

/-- Every way of a pattern passes letters of its own only. -/
theorem of_mem_ways (pattern : Pattern) (member : there ∈ ways pattern here) :
    Passage pattern here there := by
  induction pattern generalizing here there with
  | nothing =>
      rw [List.mem_singleton.mp member]
      exact refl _ here
  | letter accepts =>
      obtain ⟨⟨before, rest⟩, kept⟩ := here
      cases rest with
      | nil => cases member
      | cons next rest =>
          by_cases accepted : accepts next = true
          · rw [ways_letter accepted, List.mem_singleton] at member
            subst member
            refine ⟨⟨[next], rfl, rfl, ?_⟩, fun _ _ => rfl⟩
            simpa [passes] using accepted
          · simp [ways, accepted] at member
  | andThen first second firstMoves secondMoves =>
      obtain ⟨middle, before, behind⟩ := List.mem_flatMap.mp member
      refine ((firstMoves before).mono ?_ ?_).trans ((secondMoves behind).mono ?_ ?_)
      all_goals simp +contextual [passes, keeps]
  | orElse first second firstMoves secondMoves =>
      rcases List.mem_append.mp member with left | right
      · exact (firstMoves left).mono (by simp +contextual [passes]) (by simp +contextual [keeps])
      · exact (secondMoves right).mono (by simp +contextual [passes]) (by simp +contextual [keeps])
  | many body bodyMoves =>
      have moves : ∀ here, ∀ there ∈ ways body here, Passage (many body) here there :=
        fun _ _ found => (bodyMoves found).mono (fun _ => id) fun _ => id
      exact of_greedyWays moves _ member
  | few body bodyMoves =>
      have moves : ∀ here, ∀ there ∈ ways body here, Passage (few body) here there :=
        fun _ _ found => (bodyMoves found).mono (fun _ => id) fun _ => id
      exact of_greedyWays moves _ (mem_ways_few.mp member)
  | keep number body bodyMoves =>
      obtain ⟨inner, found, rfl⟩ := List.mem_map.mp member
      have moved : Passage body here inner := bodyMoves found
      refine ⟨moved.letters, fun slot none => ?_⟩
      rw [keeps, Bool.or_eq_false_iff, beq_eq_false_iff_ne] at none
      have other : (slot == number) = false := beq_eq_false_iff_ne.mpr none.1.symm
      rw [List.lookup_cons, other]
      exact moved.slots slot none.2
  | textStart | textEnd | lineStart | lineEnd | wordEdge =>
      rw [eq_of_mem_guard member]
      exact refl _ here

end Passage

/-! ## Searches from the start of a text -/

/-- A pattern that matches only at the start of the text. -/
def Anchored (pattern : Pattern) : Prop :=
  ∀ here : Progress, here.place.before ≠ [] → ways pattern here = []

section Anchored

variable {pattern : Pattern} {text : Text} {there : Progress}

theorem anchored_textStart : Anchored textStart := by
  rintro ⟨⟨_ | ⟨letter, before⟩, rest⟩, kept⟩ inside
  · exact absurd rfl inside
  · rfl

theorem Anchored.append (anchored : Anchored pattern) (second : Pattern) :
    Anchored (pattern ++ second) :=
  fun here inside => ways_append_of_nil (anchored here inside)

theorem Anchored.findFrom?_eq_none (anchored : Anchored pattern) {before rest : Text}
    (inside : before ≠ []) : pattern.findFrom? ⟨before, rest⟩ = none := by
  have misses : ∀ {before rest : Text}, before ≠ [] → pattern.matchAt? ⟨before, rest⟩ = none := by
    intro before rest inside
    rw [matchAt?, anchored ⟨⟨before, rest⟩, []⟩ inside]
    rfl
  induction rest generalizing before with
  | nil => exact misses inside
  | cons letter rest inductionHypothesis =>
      rw [Hunt.findFrom?_of_misses (misses inside)]
      exact inductionHypothesis (List.cons_ne_nil _ _)

theorem First.find? (leads : First pattern ⟨.start text, []⟩ there) :
    pattern.find? text = some ⟨.start text, there.place, there.kept⟩ := by
  refine Hunt.findFrom?_of_matchAt? ?_
  rw [matchAt?, leads]
  rfl

/-- What a search finds is the first way from the start of the text. -/
theorem Anchored.exists_first_of_find? (anchored : Anchored pattern) {found : Match}
    (hit : pattern.find? text = some found) :
    ∃ there, First pattern ⟨.start text, []⟩ there ∧
      found = ⟨.start text, there.place, there.kept⟩ := by
  have matched : pattern.matchAt? (.start text) = some found := by
    cases text with
    | nil => exact hit
    | cons letter text =>
        cases atStart : pattern.matchAt? (.start (letter :: text)) with
        | some other =>
            rw [find?, Hunt.findFrom?_of_matchAt? atStart] at hit
            exact hit
        | none =>
            have missed := (Hunt.findFrom?_of_misses atStart).trans
              (anchored.findFrom?_eq_none (List.cons_ne_nil letter []))
            rw [find?, Cursor.start, missed] at hit
            cases hit
  obtain ⟨there, best, rfl⟩ := Option.map_eq_some_iff.mp matched
  exact ⟨there, best, rfl⟩

end Anchored

end Pattern

end InputDemand

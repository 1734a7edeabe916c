import InputDemand.Proofs.Pattern.Rounds

/-!
# Searches step by step

A search for all matches of a pattern goes through a text from left to right.  It can be followed
piece by piece: what it finds in one piece, then what it finds in the next.
-/

namespace InputDemand

namespace Pattern

/-- A search goes on from one place to another and finds these matches on its way. -/
inductive Hunt (pattern : Pattern) : Cursor → List Match → Cursor → Prop
  | done (place : Cursor) : Hunt pattern place [] place
  | past {before rest : Text} {letter : Char} {found : List Match} {stop : Cursor} :
      pattern.matchAt? ⟨before, letter :: rest⟩ = none →
      Hunt pattern ⟨letter :: before, rest⟩ found stop →
      Hunt pattern ⟨before, letter :: rest⟩ found stop
  | hit {place stop : Cursor} {found : Match} {more : List Match} :
      pattern.matchAt? place = some found → Hunt pattern found.stop more stop →
      Hunt pattern place (found :: more) stop

namespace Hunt

variable {pattern : Pattern} {place middle stop : Cursor} {found more : List Match}

theorem append (first : Hunt pattern place found middle) (second : Hunt pattern middle more stop) :
    Hunt pattern place (found ++ more) stop := by
  induction first with
  | done => exact second
  | past misses _ inductionHypothesis => exact .past misses (inductionHypothesis second)
  | hit matched _ inductionHypothesis => exact .hit matched (inductionHypothesis second)

theorem findFrom?_of_matchAt? {hit : Match} (matched : pattern.matchAt? place = some hit) :
    pattern.findFrom? place = some hit := by
  rcases place with ⟨before, _ | ⟨letter, rest⟩⟩
  · exact matched
  · rw [findFrom?, findFrom?.go, matched]

theorem findFrom?_of_misses {before rest : Text} {letter : Char}
    (misses : pattern.matchAt? ⟨before, letter :: rest⟩ = none) :
    pattern.findFrom? ⟨before, letter :: rest⟩ = pattern.findFrom? ⟨letter :: before, rest⟩ := by
  rw [findFrom?, findFrom?.go, misses]
  rfl

theorem findFrom?_eq (hunt : Hunt pattern place found stop) (nothing : found = []) :
    pattern.findFrom? place = pattern.findFrom? stop := by
  induction hunt with
  | done => rfl
  | past misses _ inductionHypothesis =>
      exact (findFrom?_of_misses misses).trans (inductionHypothesis nothing)
  | hit => cases nothing

theorem findMany (hunt : Hunt pattern place found stop) (count : Nat) :
    pattern.findMany (found.length + count) place = found ++ pattern.findMany count stop := by
  induction hunt with
  | done => rw [List.length_nil, Nat.zero_add, List.nil_append]
  | past misses _ inductionHypothesis =>
      rename_i found stop _
      rw [← inductionHypothesis]
      cases found.length + count with
      | zero => rfl
      | succ rounds => rw [Pattern.findMany, Pattern.findMany, findFrom?_of_misses misses]
  | hit matched _ inductionHypothesis =>
      rename_i found more _
      have rounds : (found :: more).length + count = more.length + count + 1 := by
        rw [List.length_cons]
        omega
      rw [rounds, Pattern.findMany, findFrom?_of_matchAt? matched, List.cons_append,
        ← inductionHypothesis]

theorem length_le (hunt : Hunt pattern place found stop) (shortens : Shortens pattern) :
    found.length + stop.rest.length ≤ place.rest.length := by
  induction hunt with
  | done => simp
  | past misses _ inductionHypothesis =>
      simp only [List.length_cons] at inductionHypothesis ⊢
      omega
  | hit matched _ inductionHypothesis =>
      obtain ⟨there, best, rfl⟩ := Option.map_eq_some_iff.mp matched
      have less := shortens _ there (List.mem_of_mem_head? best)
      simp only [List.length_cons] at inductionHypothesis less ⊢
      omega

theorem exists_findAll {text : Text} (hunt : Hunt pattern (.start text) found stop)
    (shortens : Shortens pattern) : ∃ more, pattern.findAll text = found ++ more := by
  have inside := hunt.length_le shortens
  have rounds : text.length = found.length + (text.length - found.length) := by
    simp only [Cursor.start] at inside
    omega
  rw [findAll, rounds, hunt.findMany]
  exact ⟨_, rfl⟩

theorem matchAt?_of_shortens {before : Text} (shortens : Shortens pattern) :
    pattern.matchAt? ⟨before, []⟩ = none := by
  have none : ways pattern ⟨⟨before, []⟩, []⟩ = [] := by
    apply List.eq_nil_iff_forall_not_mem.mpr
    intro there member
    exact Nat.not_lt_zero _ (shortens _ there member)
  rw [matchAt?, none]
  rfl

theorem findAll {text before : Text} (hunt : Hunt pattern (.start text) found ⟨before, []⟩)
    (shortens : Shortens pattern) : pattern.findAll text = found := by
  have inside := hunt.length_le shortens
  have rounds : text.length = found.length + (text.length - found.length) := by
    simp only [Cursor.start] at inside
    omega
  have nothing : ∀ count, pattern.findMany count ⟨before, []⟩ = [] := by
    intro count
    cases count with
    | zero => rfl
    | succ count =>
        rw [Pattern.findMany, findFrom?, findFrom?.go, matchAt?_of_shortens shortens]
  rw [Pattern.findAll, rounds, hunt.findMany, nothing, List.append_nil]

end Hunt

/-! ## The order of matches -/

section Order

variable {pattern : Pattern} {place : Cursor} {found : Match}

theorem Shortens.offset_lt (shortens : Shortens pattern)
    (matched : pattern.matchAt? place = some found) :
    found.start.offset < found.stop.offset := by
  have order := (liesBehind_of_matchAt? matched).stop
  obtain ⟨there, best, rfl⟩ := Option.map_eq_some_iff.mp matched
  have less := shortens _ there (List.mem_of_mem_head? best)
  obtain ⟨passed, rest, before⟩ := order
  simp only at less rest before
  cases passed with
  | nil =>
      rw [rest] at less
      exact absurd less (Nat.lt_irrefl _)
  | cons letter passed =>
      have positive := letter.utf8Size_pos
      show Text.size place.before < Text.size there.place.before
      rw [before, Text.size_append, Text.size_reverse, Text.size_cons]
      omega

/-- Matches that a search finds start one behind the other. -/
theorem Shortens.pairwise_findAll (shortens : Shortens pattern) (text : Text) :
    (pattern.findAll text).Pairwise fun one other => one.start.offset < other.start.offset := by
  -- Every match starts at or behind the place of its search and stops behind its start, so the next
  -- search starts further on.
  have inOrder : ∀ count place,
      ((pattern.findMany count place).Pairwise fun one other =>
        one.start.offset < other.start.offset) ∧
      ∀ hit ∈ pattern.findMany count place, place.offset ≤ hit.start.offset := by
    intro count
    induction count with
    | zero => exact fun place => ⟨List.Pairwise.nil, fun _ member => by cases member⟩
    | succ count inductionHypothesis =>
        intro place
        rw [findMany]
        split
        · exact ⟨List.Pairwise.nil, fun _ member => by cases member⟩
        · rename_i found hit
          obtain ⟨there, order, matched⟩ := matchAt?_of_findFrom? hit
          have ahead := Cursor.offset_le_of_le (liesBehind_of_findFrom? hit).start
          have further := shortens.offset_lt matched
          obtain ⟨apart, behind⟩ := inductionHypothesis found.stop
          refine ⟨List.pairwise_cons.mpr ⟨?_, apart⟩, ?_⟩
          · intro other later
            have beyond := behind other later
            omega
          · intro other member
            rcases List.mem_cons.mp member with rfl | later
            · exact ahead
            · have beyond := behind other later
              omega
  exact (inOrder _ _).1

end Order

end Pattern

end InputDemand

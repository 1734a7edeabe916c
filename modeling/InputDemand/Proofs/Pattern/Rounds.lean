import InputDemand.Proofs.Pattern.Matches

/-!
# Rounds of a repetition

A pattern that takes a character with every match can be repeated as long as it matches: the number
of rounds that a repetition may make is no limit then.
-/

namespace InputDemand

namespace Pattern

theorem mem_ways_letter {accepts : Char → Bool} {first : Char} (accepted : accepts first = true)
    (before rest : Text) (kept : List (Nat × Piece)) :
    ⟨⟨first :: before, rest⟩, kept⟩ ∈ ways (letter accepts) ⟨⟨before, first :: rest⟩, kept⟩ := by
  simp [ways, accepted, Cursor.next]

/-- Every way to match leaves less of the text. -/
def Shortens (pattern : Pattern) : Prop :=
  ∀ here, ∀ there ∈ ways pattern here, there.place.rest.length < here.place.rest.length

/-- Whether the form of a pattern tells that it takes a character. -/
def takesLetter : Pattern → Bool
  | letter _ => true
  | andThen first second => takesLetter first || takesLetter second
  | orElse first second => takesLetter first && takesLetter second
  | keep _ body => takesLetter body
  | _ => false

theorem length_rest_le {one other : Cursor} (order : one ≤ other) :
    other.rest.length ≤ one.rest.length := by
  obtain ⟨passed, rest, _⟩ := order
  rw [rest, List.length_append]
  exact Nat.le_add_left _ _

theorem shortens_of_takesLetter {pattern : Pattern} (takes : pattern.takesLetter = true) :
    Shortens pattern := by
  induction pattern with
  | letter accepts =>
      intro here there member
      rcases here with ⟨⟨before, _ | ⟨first, rest⟩⟩, kept⟩
      · cases member
      · unfold ways at member
        simp only at member
        split at member
        · rw [List.mem_singleton.mp member]
          exact Nat.lt_succ_self _
        · cases member
  | andThen first second firstShortens secondShortens =>
      intro here there member
      obtain ⟨middle, before, behind⟩ := List.mem_flatMap.mp member
      have toMiddle := length_rest_le (goesTo_of_mem_ways first before).place
      have further := length_rest_le (goesTo_of_mem_ways second behind).place
      rw [takesLetter, Bool.or_eq_true] at takes
      rcases takes with takes | takes
      · exact Nat.lt_of_le_of_lt further (firstShortens takes here middle before)
      · exact Nat.lt_of_lt_of_le (secondShortens takes middle there behind) toMiddle
  | orElse first second firstShortens secondShortens =>
      intro here there member
      rw [takesLetter, Bool.and_eq_true] at takes
      rcases List.mem_append.mp member with left | right
      · exact firstShortens takes.1 here there left
      · exact secondShortens takes.2 here there right
  | keep slot body bodyShortens =>
      intro here there member
      obtain ⟨inner, found, rfl⟩ := List.mem_map.mp member
      exact bodyShortens takes here inner found
  | _ => cases takes

section Rounds

variable {body : Pattern} {here there : Progress} {step : Progress → List Progress}

theorem mem_greedyWays_of_le {rounds rounds' : Nat} (more : rounds ≤ rounds')
    (member : there ∈ greedyWays step rounds here) : there ∈ greedyWays step rounds' here := by
  induction rounds generalizing rounds' here with
  | zero =>
      rw [List.mem_singleton.mp member]
      cases rounds' with
      | zero => exact List.mem_singleton_self _
      | succ rounds' => exact List.mem_append_right _ (List.mem_singleton_self _)
  | succ rounds inductionHypothesis =>
      obtain ⟨rounds', rfl⟩ := Nat.exists_eq_add_of_le' more
      rw [← Nat.add_assoc, greedyWays, List.mem_append, List.mem_flatMap] at *
      rcases member with ⟨middle, first, second⟩ | last
      · exact Or.inl ⟨middle, first, inductionHypothesis (by omega) second⟩
      · exact Or.inr last

theorem mem_ways_many_self (body : Pattern) (here : Progress) : here ∈ ways (many body) here := by
  unfold ways
  cases here.place.rest.length with
  | zero => exact List.mem_singleton_self _
  | succ rounds => exact List.mem_append_right _ (List.mem_singleton_self _)

theorem Shortens.mem_ways_many (shortens : Shortens body) {middle : Progress}
    (first : middle ∈ ways body here) (further : there ∈ ways (many body) middle) :
    there ∈ ways (many body) here := by
  have less := shortens here middle first
  obtain ⟨rounds, enough⟩ := Nat.exists_eq_add_of_lt less
  have further' : there ∈ greedyWays (ways body) (middle.place.rest.length + rounds) middle :=
    mem_greedyWays_of_le (Nat.le_add_right _ _) further
  show there ∈ greedyWays (ways body) here.place.rest.length here
  rw [enough, greedyWays]
  exact List.mem_append_left _ (List.mem_flatMap.mpr ⟨middle, first, further'⟩)

/-- A reluctant repetition has the same ways, in another order. -/
theorem mem_ways_few : there ∈ ways (few body) here ↔ there ∈ ways (many body) here := by
  have same : ∀ rounds here,
      there ∈ reluctantWays (ways body) rounds here ↔
        there ∈ greedyWays (ways body) rounds here := by
    intro rounds
    induction rounds with
    | zero => exact fun _ => Iff.rfl
    | succ rounds inductionHypothesis =>
        intro here
        simp only [reluctantWays, greedyWays, List.mem_cons, List.mem_append, List.mem_flatMap,
          List.not_mem_nil, or_false, inductionHypothesis]
        exact Or.comm
  exact same _ here

end Rounds

end Pattern

end InputDemand

import InputDemand.Proofs.Pattern.Rounds
import Mathlib.Data.List.Basic

/-!
# Texts of the form of a pattern

What a way of a pattern passes has the form of the pattern: piece by piece for one pattern behind
another, round by round for a repetition.  Conversely, wherever a text of the form of a pattern
stands, the pattern has a way to its end, if it does not look at what is around it.
-/

namespace InputDemand

namespace Pattern

/-- A text has the form of a pattern.  Places of a certain kind take no text. -/
def Covers : Pattern → Text → Prop
  | nothing, text | textStart, text | textEnd, text | lineStart, text | lineEnd, text
  | wordEdge, text => text = []
  | letter accepts, text => ∃ found, accepts found = true ∧ text = [found]
  | andThen first second, text =>
      ∃ front back, first.Covers front ∧ second.Covers back ∧ text = front ++ back
  | orElse first second, text => first.Covers text ∨ second.Covers text
  | many body, text | few body, text =>
      ∃ pieces : List Text, (∀ piece ∈ pieces, body.Covers piece) ∧ text = pieces.flatten
  | keep _ body, text => body.Covers text

/-! ## What is passed -/

section Passed

variable {body : Pattern} {here middle there : Progress}

/-- A way passed a text of a certain form. -/
def Passed (form : Text → Prop) (here there : Progress) : Prop :=
  ∃ passed, form passed ∧ here.place.rest = passed ++ there.place.rest ∧
    there.place.before = passed.reverse ++ here.place.before

theorem Passed.refl {form : Text → Prop} (nothing : form []) (here : Progress) :
    Passed form here here :=
  ⟨[], nothing, rfl, rfl⟩

theorem Passed.trans {first second form : Text → Prop} (toMiddle : Passed first here middle)
    (further : Passed second middle there)
    (join : ∀ front back, first front → second back → form (front ++ back)) :
    Passed form here there := by
  obtain ⟨front, isFront, rest, before⟩ := toMiddle
  obtain ⟨back, isBack, rest', before'⟩ := further
  refine ⟨front ++ back, join front back isFront isBack, ?_, ?_⟩
  · rw [rest, rest', List.append_assoc]
  · rw [before', before, List.reverse_append, List.append_assoc]

theorem Passed.mono {form weaker : Text → Prop} (passed : Passed form here there)
    (weaken : ∀ text, form text → weaker text) : Passed weaker here there := by
  obtain ⟨text, isForm, split⟩ := passed
  exact ⟨text, weaken text isForm, split⟩

theorem passed_of_mem_greedyWays
    (moves : ∀ here, ∀ there ∈ ways body here, Passed body.Covers here there) (rounds : Nat)
    (member : there ∈ greedyWays (ways body) rounds here) :
    Passed (many body).Covers here there := by
  induction rounds generalizing here with
  | zero =>
      rw [List.mem_singleton.mp member]
      exact .refl ⟨[], by simp, rfl⟩ here
  | succ rounds inductionHypothesis =>
      rw [greedyWays, List.mem_append, List.mem_flatMap, List.mem_singleton] at member
      rcases member with ⟨middle, first, further⟩ | rfl
      · refine (moves here middle first).trans (inductionHypothesis further) ?_
        rintro front _ isFront ⟨pieces, arePieces, rfl⟩
        exact ⟨front :: pieces, List.forall_mem_cons.mpr ⟨isFront, arePieces⟩, rfl⟩
      · exact .refl ⟨[], by simp, rfl⟩ there

/-- What a way of a pattern passes has the form of the pattern. -/
theorem passed_of_mem_ways (pattern : Pattern) (member : there ∈ ways pattern here) :
    Passed pattern.Covers here there := by
  induction pattern generalizing here there with
  | nothing =>
      rw [List.mem_singleton.mp member]
      exact ⟨[], rfl, rfl, rfl⟩
  | letter accepts =>
      obtain ⟨⟨before, rest⟩, kept⟩ := here
      cases rest with
      | nil => cases member
      | cons next rest =>
          by_cases accepted : accepts next = true
          · simp only [ways, accepted, if_true, List.mem_singleton] at member
            subst member
            exact ⟨[next], ⟨next, accepted, rfl⟩, rfl, rfl⟩
          · simp [ways, accepted] at member
  | andThen first second firstMoves secondMoves =>
      obtain ⟨middle, before, behind⟩ := List.mem_flatMap.mp member
      exact (firstMoves before).trans (secondMoves behind) fun front back isFront isBack =>
        ⟨front, back, isFront, isBack, rfl⟩
  | orElse first second firstMoves secondMoves =>
      rcases List.mem_append.mp member with left | right
      · exact (firstMoves left).mono fun _ => Or.inl
      · exact (secondMoves right).mono fun _ => Or.inr
  | many body bodyMoves => exact passed_of_mem_greedyWays (fun _ _ => bodyMoves) _ member
  | few body bodyMoves =>
      exact passed_of_mem_greedyWays (fun _ _ => bodyMoves) _ (mem_ways_few.mp member)
  | keep slot body bodyMoves =>
      obtain ⟨inner, found, rfl⟩ := List.mem_map.mp member
      have moved : Passed body.Covers here inner := bodyMoves found
      exact moved
  | textStart | textEnd | lineStart | lineEnd | wordEdge =>
      rw [eq_of_mem_guard member]
      exact ⟨[], rfl, rfl, rfl⟩

end Passed

/-! ## What is covered is passed -/

/-- Whether a pattern looks only at the text that it takes. -/
def isContextFree : Pattern → Bool
  | nothing | letter _ => true
  | andThen first second | orElse first second => first.isContextFree && second.isContextFree
  | many body | few body | keep _ body => body.isContextFree
  | textStart | textEnd | lineStart | lineEnd | wordEdge => false

@[simp]
theorem isContextFree_append (first second : Pattern) :
    (first ++ second).isContextFree = (first.isContextFree && second.isContextFree) :=
  rfl

@[simp]
theorem isContextFree_word (text : Text) : (word text).isContextFree = true := by
  induction text with
  | nil => rfl
  | cons next text inductionHypothesis => exact inductionHypothesis

/-- Pieces behind one another, each of the form of the body, are passed in as many rounds. -/
theorem exists_mem_greedyWays {body : Pattern} {pieces : List Text}
    (moves : ∀ piece ∈ pieces, ∀ before rest kept, ∃ kept',
      ⟨⟨piece.reverse ++ before, rest⟩, kept'⟩ ∈ ways body ⟨⟨before, piece ++ rest⟩, kept⟩)
    {rounds : Nat} (enough : pieces.flatten.length ≤ rounds) (before rest : Text)
    (kept : List (Nat × Piece)) : ∃ kept', ⟨⟨pieces.flatten.reverse ++ before, rest⟩, kept'⟩ ∈
      greedyWays (ways body) rounds ⟨⟨before, pieces.flatten ++ rest⟩, kept⟩ := by
  induction pieces generalizing rounds before kept with
  | nil =>
      refine ⟨kept, mem_greedyWays_of_le (Nat.zero_le rounds) ?_⟩
      exact List.mem_singleton_self _
  | cons piece pieces inductionHypothesis =>
      have others := fun later member => moves later (List.mem_cons_of_mem piece member)
      -- A round for an empty piece is left out, so there are no more rounds than letters.
      cases piece with
      | nil => exact inductionHypothesis others enough before kept
      | cons letter piece =>
          rw [List.flatten_cons, List.length_append, List.length_cons] at enough
          obtain ⟨rounds, rfl⟩ : ∃ fewer, rounds = fewer + 1 := ⟨rounds - 1, by omega⟩
          rw [List.flatten_cons, List.append_assoc, List.reverse_append, List.append_assoc]
          obtain ⟨kept, round⟩ :=
            moves (letter :: piece) List.mem_cons_self before (pieces.flatten ++ rest) kept
          obtain ⟨kept', further⟩ := inductionHypothesis others (by omega : _ ≤ rounds)
            ((letter :: piece).reverse ++ before) kept
          exact ⟨kept', List.mem_append_left _ (List.mem_flatMap.mpr ⟨_, round, further⟩)⟩

theorem exists_mem_ways_many {body : Pattern} {text : Text}
    (moves : ∀ {text : Text}, body.Covers text → ∀ before rest kept, ∃ kept',
      ⟨⟨text.reverse ++ before, rest⟩, kept'⟩ ∈ ways body ⟨⟨before, text ++ rest⟩, kept⟩)
    (covers : (many body).Covers text) (before rest : Text) (kept : List (Nat × Piece)) :
    ∃ kept', ⟨⟨text.reverse ++ before, rest⟩, kept'⟩ ∈
      ways (many body) ⟨⟨before, text ++ rest⟩, kept⟩ := by
  obtain ⟨pieces, arePieces, rfl⟩ := covers
  refine exists_mem_greedyWays (fun piece member => moves (arePieces piece member)) ?_ _ _ _
  rw [List.length_append]
  exact Nat.le_add_right _ _

/-- A pattern that looks at nothing else has a way through every text of its form. -/
theorem exists_mem_ways_of_covers {pattern : Pattern} (free : pattern.isContextFree = true)
    {text : Text} (covers : pattern.Covers text) (before rest : Text)
    (kept : List (Nat × Piece)) : ∃ kept', ⟨⟨text.reverse ++ before, rest⟩, kept'⟩ ∈
      ways pattern ⟨⟨before, text ++ rest⟩, kept⟩ := by
  induction pattern generalizing text before rest kept with
  | nothing =>
      cases covers
      exact ⟨kept, List.mem_singleton_self _⟩
  | letter accepts =>
      obtain ⟨found, accepted, rfl⟩ := covers
      exact ⟨kept, mem_ways_letter accepted before rest kept⟩
  | andThen first second firstMoves secondMoves =>
      obtain ⟨front, back, isFront, isBack, rfl⟩ := covers
      obtain ⟨freeFirst, freeSecond⟩ := Bool.and_eq_true_iff.mp free
      obtain ⟨kept, toMiddle⟩ := firstMoves freeFirst isFront before (back ++ rest) kept
      obtain ⟨kept', further⟩ := secondMoves freeSecond isBack _ rest kept
      rw [List.append_assoc, List.reverse_append, List.append_assoc]
      exact ⟨kept', List.mem_flatMap.mpr ⟨_, toMiddle, further⟩⟩
  | orElse first second firstMoves secondMoves =>
      obtain ⟨freeFirst, freeSecond⟩ := Bool.and_eq_true_iff.mp free
      rcases covers with left | right
      · obtain ⟨kept', found⟩ := firstMoves freeFirst left before rest kept
        exact ⟨kept', List.mem_append_left _ found⟩
      · obtain ⟨kept', found⟩ := secondMoves freeSecond right before rest kept
        exact ⟨kept', List.mem_append_right _ found⟩
  | many body bodyMoves => exact exists_mem_ways_many (bodyMoves free) covers before rest kept
  | few body bodyMoves =>
      obtain ⟨kept', found⟩ := exists_mem_ways_many (bodyMoves free) covers before rest kept
      exact ⟨kept', mem_ways_few.mpr found⟩
  | keep slot body bodyMoves =>
      obtain ⟨kept', found⟩ := bodyMoves free covers before rest kept
      exact ⟨_, List.mem_map.mpr ⟨_, found, rfl⟩⟩
  | textStart | textEnd | lineStart | lineEnd | wordEdge => cases free

/-! ## Forms of common patterns -/

section Forms

variable {first second body : Pattern} {accepts : Char → Bool} {text : Text}

@[simp]
theorem covers_append : (first ++ second).Covers text ↔
    ∃ front back, first.Covers front ∧ second.Covers back ∧ text = front ++ back :=
  Iff.rfl

@[simp]
theorem covers_letter : (letter accepts).Covers text ↔
    ∃ found, accepts found = true ∧ text = [found] :=
  Iff.rfl

@[simp]
theorem covers_nothing : nothing.Covers text ↔ text = [] :=
  Iff.rfl

@[simp]
theorem covers_keep {slot : Nat} : (keep slot body).Covers text ↔ body.Covers text :=
  Iff.rfl

@[simp]
theorem covers_optional : (optional body).Covers text ↔ body.Covers text ∨ text = [] :=
  Iff.rfl

@[simp]
theorem covers_word {wanted : Text} : (word wanted).Covers text ↔ text = wanted := by
  induction wanted generalizing text with
  | nil => exact Iff.rfl
  | cons next wanted inductionHypothesis =>
      constructor
      · rintro ⟨_, back, ⟨found, same, rfl⟩, further, rfl⟩
        rw [inductionHypothesis.mp further, eq_of_beq same]
        rfl
      · rintro rfl
        exact ⟨[next], wanted, ⟨next, beq_self_eq_true next, rfl⟩, inductionHypothesis.mpr rfl, rfl⟩

@[simp]
theorem covers_many_letter : (many (letter accepts)).Covers text ↔ text.all accepts = true := by
  constructor
  · rintro ⟨pieces, arePieces, rfl⟩
    refine List.all_eq_true.mpr fun found member => ?_
    obtain ⟨piece, listed, inside⟩ := List.mem_flatten.mp member
    obtain ⟨next, accepted, rfl⟩ := arePieces piece listed
    rw [List.mem_singleton.mp inside]
    exact accepted
  · intro accepted
    refine ⟨text.map fun found => [found], ?_, ?_⟩
    · rw [List.forall_mem_map]
      exact fun found member => ⟨found, List.all_eq_true.mp accepted found member, rfl⟩
    · rw [← List.flatMap_def, List.flatMap_singleton']

@[simp]
theorem covers_some1_letter : (some1 (letter accepts)).Covers text ↔
    text ≠ [] ∧ text.all accepts = true := by
  rw [some1, covers_append]
  constructor
  · rintro ⟨_, back, ⟨found, accepted, rfl⟩, others, rfl⟩
    rw [covers_many_letter] at others
    simp [accepted, others]
  · rintro ⟨nonempty, accepted⟩
    obtain ⟨found, back, rfl⟩ := List.exists_cons_of_ne_nil nonempty
    rw [List.all_cons, Bool.and_eq_true] at accepted
    exact ⟨[found], back, ⟨found, accepted.1, rfl⟩, covers_many_letter.mpr accepted.2, rfl⟩

theorem covers_oneOf {alternatives : List Pattern} : (oneOf alternatives).Covers text ↔
    ∃ pattern ∈ alternatives, pattern.Covers text := by
  induction alternatives with
  | nil => simp [oneOf]
  | cons pattern alternatives inductionHypothesis =>
      cases alternatives with
      | nil => simp [oneOf]
      | cons next alternatives =>
          rw [List.exists_mem_cons_iff, ← inductionHypothesis]
          exact Iff.rfl

end Forms

end Pattern

end InputDemand

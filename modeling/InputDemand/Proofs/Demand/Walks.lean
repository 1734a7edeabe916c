import InputDemand.Demand.Plan

/-!
# Two walks side by side

Two walks through one program, by different answers, are put together from the same actions.  A
relation of actions that holds of single steps, and that every way of putting steps together keeps,
relates the two walks as a whole.
-/

namespace InputDemand

/-- Whether a loop is the main loop of a program or the nested one. -/
def Outline.HasLoop (outline : Outline) (loop : Loop) : Prop :=
  outline.mainLoop? = some loop ∨ outline.nestedLoop? = some loop

/-- A relation between actions, the one by some answers and the other by others, that single steps
satisfy and that every way of putting actions together keeps. -/
structure Outline.Pairing (outline : Outline) (answers others : List Text)
    (Paired : (Trail → Trail) → (Trail → Trail) → Prop) : Prop where
  rest : Paired (fun trail => trail) (fun trail => trail)
  ask : ∀ iteration? prompt,
    Paired (fun trail => trail.ask answers iteration? prompt)
      (fun trail => trail.ask others iteration? prompt)
  halt : Paired (fun trail => trail.halt .openEnded) (fun trail => trail.halt .openEnded)
  comp : ∀ {one other next nextOther : Trail → Trail}, Paired one other →
    Paired next nextOther →
    Paired (fun trail => next (one trail)) (fun trail => nextOther (other trail))
  running : ∀ {one other : Trail → Trail}, Paired one other →
    Paired (fun trail => if trail.halted then trail else one trail)
      (fun trail => if trail.halted then trail else other trail)
  late : ∀ {loop : Loop} {one other : Option Text → Trail → Trail}, outline.HasLoop loop →
    ∀ segments, (∀ name?, Paired (one name?) (other name?)) →
    Paired (fun trail => one (lateName? loop segments trail) trail)
      (fun trail => other (lateName? loop segments trail) trail)
  counted : ∀ {loop : Loop} {one other : Nat → Trail → Trail}, outline.HasLoop loop →
    (∀ count, Paired (one count) (other count)) →
    Paired (outline.counted loop one) (outline.counted loop other)

/-- In the body of the main loop no other loop is nested than the one of the outline. -/
theorem nested_mem_segments {body : Span} {nested? : Option Loop} {inside : List Prompt}
    {loop : Loop} {prompts : List Prompt}
    (member : Segment.nested loop prompts ∈ segments body nested? inside) :
    nested? = some loop := by
  unfold segments at member
  split at member
  · simp at member
  · dsimp only at member
    split at member
    · simp at member
    · simp only [List.mem_append, List.mem_map, reduceCtorEq, and_false, exists_false, false_or,
        or_false, List.mem_singleton, Segment.nested.injEq] at member
      rw [member.1]

/-- A loop as it runs by what is found on entry: with its count known by then, or with a late name
that its body reads first. -/
def loopWith (outline : Outline) (loop : Loop) (segments : List Segment)
    (run : Nat → Trail → Segment → Trail) : Option Text → Trail → Trail
  | none => outline.counted loop fun count =>
      passes (fun index trail => segments.foldl (run index) trail) (max count loop.fewest) 0
  | some name => fun trail =>
      let front := segments.takeWhile fun segment => !segment.reads name
      let back := segments.drop front.length
      outline.counted loop
        (fun count read => passes (fun index trail => segments.foldl (run index) trail) (count - 1) 1
          ((back.drop 1).foldl (run 0) read))
        ((front ++ back.take 1).foldl (run 0) trail)

theorem runLoop_eq_loopWith (outline : Outline) (loop : Loop) (segments : List Segment)
    (run : Nat → Trail → Segment → Trail) :
    runLoop outline loop segments run = fun trail =>
      if segments.isEmpty then trail
      else loopWith outline loop segments run (lateName? loop segments trail) trail := by
  funext trail
  unfold runLoop loopWith
  cases lateName? loop segments trail <;> rfl

namespace Outline.Pairing

variable {outline : Outline} {answers others : List Text}
  {Paired : (Trail → Trail) → (Trail → Trail) → Prop}

theorem foldl (pairing : outline.Pairing answers others Paired) {Item : Type}
    {one other : Trail → Item → Trail} {items : List Item}
    (step : ∀ item ∈ items, Paired (fun trail => one trail item) (fun trail => other trail item)) :
    Paired (fun trail => items.foldl one trail) (fun trail => items.foldl other trail) := by
  induction items with
  | nil => exact pairing.rest
  | cons item items inductionHypothesis =>
      refine pairing.comp (step item List.mem_cons_self) (inductionHypothesis ?_)
      intro later member
      exact step later (List.mem_cons_of_mem _ member)

theorem passes (pairing : outline.Pairing answers others Paired)
    {one other : Nat → Trail → Trail} (pass : ∀ index, Paired (one index) (other index))
    (count first : Nat) :
    Paired (InputDemand.passes one count first) (InputDemand.passes other count first) := by
  induction count generalizing first with
  | zero => exact pairing.rest
  | succ count inductionHypothesis =>
      exact pairing.running (pairing.comp (pass first) (inductionHypothesis (first + 1)))

theorem runLoop (pairing : outline.Pairing answers others Paired) {loop : Loop}
    (hasLoop : outline.HasLoop loop) {segments : List Segment}
    {one other : Nat → Trail → Segment → Trail}
    (run : ∀ index, ∀ segment ∈ segments,
      Paired (fun trail => one index trail segment) (fun trail => other index trail segment)) :
    Paired (InputDemand.runLoop outline loop segments one)
      (InputDemand.runLoop outline loop segments other) := by
  have some : ∀ index (parts : List Segment), parts ⊆ segments →
      Paired (fun trail => parts.foldl (one index) trail)
        (fun trail => parts.foldl (other index) trail) :=
    fun index parts within => pairing.foldl fun segment member => run index segment (within member)
  have rounds := pairing.passes fun index => some index segments (List.Subset.refl _)
  rw [runLoop_eq_loopWith, runLoop_eq_loopWith]
  split
  · exact pairing.rest
  · -- Paired trails find the same on entry, so both walks go on by the same of the two branches.
    refine pairing.late hasLoop segments fun name? => ?_
    cases name? with
    | none => exact pairing.counted hasLoop fun count => rounds (max count loop.fewest) 0
    | some name =>
        let front := segments.takeWhile fun segment => !segment.reads name
        have back : segments.drop front.length ⊆ segments := List.drop_subset _ _
        have entered := some 0 (front ++ (segments.drop front.length).take 1)
          (List.append_subset.mpr
            ⟨(List.takeWhile_prefix _).subset, List.Subset.trans (List.take_subset 1 _) back⟩)
        have rest := some 0 ((segments.drop front.length).drop 1)
          (List.Subset.trans (List.drop_subset 1 _) back)
        have counted := pairing.counted hasLoop fun count =>
          pairing.comp rest (rounds (count - 1) 1)
        have looped := pairing.comp entered counted
        exact looped

theorem runSegment (pairing : outline.Pairing answers others Paired) (outer : Nat)
    {segment : Segment}
    (hasNested : ∀ loop prompts, segment = .nested loop prompts → outline.HasLoop loop) :
    Paired (fun trail => InputDemand.runSegment outline answers outer trail segment)
      (fun trail => InputDemand.runSegment outline others outer trail segment) := by
  cases segment with
  | ask prompt => exact pairing.ask _ prompt
  | nested loop prompts =>
      unfold InputDemand.runSegment runNested
      dsimp only
      split
      · exact pairing.halt
      · refine pairing.runLoop (hasNested loop prompts rfl) fun inner segment _ => ?_
        cases segment with
        | ask prompt => exact pairing.ask _ prompt
        | nested loop prompts => exact pairing.rest

theorem straightTrail (pairing : outline.Pairing answers others Paired) (prompts : List Prompt) :
    Paired (Outline.straightTrail answers prompts) (Outline.straightTrail others prompts) :=
  pairing.foldl fun prompt _ => pairing.ask none prompt

theorem trail (pairing : outline.Pairing answers others Paired) (prompts : List Prompt) :
    ∃ one other, Paired one other ∧ outline.trail prompts answers = one Trail.empty ∧
      outline.trail prompts others = other Trail.empty := by
  unfold Outline.trail
  split
  · exact ⟨_, _, pairing.straightTrail prompts, rfl, rfl⟩
  · rename_i mainLoop found
    split
    · unfold cutTrail
      dsimp only
      split
      · exact ⟨_, _, pairing.comp (pairing.straightTrail _) pairing.halt, rfl, rfl⟩
      · exact ⟨_, _, pairing.straightTrail _, rfl, rfl⟩
    · unfold loopTrail
      refine ⟨_, _, pairing.comp (pairing.straightTrail _)
        (pairing.comp (pairing.runLoop (Or.inl found) ?_) (pairing.straightTrail _)), rfl, rfl⟩
      intro outer segment member
      refine pairing.runSegment outer fun loop prompts same => ?_
      exact Or.inr (nested_mem_segments (same ▸ member))

end Outline.Pairing

end InputDemand

import InputDemand.Proofs.Demand.OrderedPlan

/-!
# A walk with emergency exits

A wary walk takes nothing for granted.  The steps of the main loop's body do not hold the nested
loop: whoever comes to its place looks whether there is a layout of it.  A count that is read in the
body is looked for behind the first pass.  Either way leads to an exit where nothing is found.  No
walk ever takes one of them, and the wary walk is the one that plans are made of.
-/

namespace InputDemand

namespace Wary

/-- Where a walk would have to be given up. -/
inductive Exit where
  /-- The nested loop has to be run, but was never laid out. -/
  | noNestedLoop
  /-- The first pass is over, and its count is still unknown. -/
  | noCount
deriving DecidableEq, Repr

/-- A step of a loop body: a value to ask for, or the place of the nested loop. -/
inductive BodyStep where
  | ask (prompt : Prompt)
  | nested

def BodyStep.reads (name : Text) : BodyStep → Bool
  | ask prompt => prompt.site.target? = some name
  | nested => false

/-- A loop with the steps of its body. -/
structure Layout where
  loop : Loop
  steps : List BodyStep

/-- Deals prompts out to the steps of the main loop and to the nested loop.  The first nested one
leaves a step in its place. -/
def deal (inNested : Prompt → Bool) (entered : Bool) : List Prompt → List BodyStep × List Prompt
  | [] => ([], [])
  | prompt :: prompts =>
      if inNested prompt then
        let (steps, nested) := deal inNested true prompts
        (if entered then steps else .nested :: steps, prompt :: nested)
      else
        let (steps, nested) := deal inNested entered prompts
        (.ask prompt :: steps, nested)

/-- Whether a prompt's site belongs to the nested loop. -/
def belongs (body : Span) (nested? : Option Loop) (prompt : Prompt) : Bool :=
  nested?.any fun nested => (nestedRegion body nested).contains prompt.site.start

/-- The steps of the main loop, and the layout of the nested loop if that has sites. -/
def layouts (mainLoop : Loop) (body : Span) (nested? : Option Loop) (inside : List Prompt) :
    Layout × Option Layout :=
  let (steps, inner) := deal (belongs body nested?) false inside
  (⟨mainLoop, steps⟩,
    (nested?.filter fun _ => !inner.isEmpty).map fun nested => ⟨nested, inner.map .ask⟩)

/-- The bound of a loop, if nothing is known of it yet and a step asks for it. -/
def lateName? (layout : Layout) (trail : Trail) : Option Text :=
  match layout.loop.trip.bound with
  | .name name =>
      if (trail.names.lookup name).isNone && layout.steps.any (BodyStep.reads name) then some name
      else none
  | _ => none

variable (outline : Outline) (answers : List Text)

/-- One step of a pass, with the count of the loop as far as it is known.  The count is taken behind
the step that asks for the late name. -/
def step (loop : Loop) (late? : Option Text) (enter : Trail → Except Exit Trail)
    (iteration : Iteration) : Trail × Option Nat → BodyStep → Except Exit (Trail × Option Nat)
  | (trail, count?), .ask prompt =>
      let asked := trail.ask answers (some iteration) prompt
      if asked.halted || count?.isSome || prompt.site.target? ≠ late? then .ok (asked, count?)
      else
        match outline.count loop asked.names with
        | .error reason => .ok (asked.halt reason, none)
        | .ok count => .ok (asked, some (max count 1))
  | (trail, count?), .nested =>
      if trail.halted then .ok (trail, count?)
      else (enter trail).map fun left => (left, count?)

/-- One pass through the steps of a body. -/
def pass (layout : Layout) (late? : Option Text) (enter : Nat → Trail → Except Exit Trail)
    (iteration : Nat → Iteration) (index : Nat) (state : Trail × Option Nat) :
    Except Exit (Trail × Option Nat) :=
  layout.steps.foldlM (step outline answers layout.loop late? (enter index) (iteration index)) state

/-- Passes number `first`, `first + 1`, …, with a count that is known. -/
def passes (next : Nat → Trail → Except Exit Trail) : Nat → Nat → Trail → Except Exit Trail
  | 0, _, trail => .ok trail
  | count + 1, first, trail =>
      if trail.halted then .ok trail
      else (next first trail).bind (passes next count (first + 1))

/-- Runs a loop.  `enter` runs the nested loop within a pass. -/
def runLoop (layout : Layout) (enter : Nat → Trail → Except Exit Trail)
    (iteration : Nat → Iteration) (trail : Trail) : Except Exit Trail :=
  let late? := lateName? layout trail
  let counted := fun count index trail =>
    (pass outline answers layout late? enter iteration index (trail, some count)).map Prod.fst
  if layout.steps.isEmpty || trail.halted then .ok trail
  else
    match late? with
    | none =>
        match outline.count layout.loop trail.names with
        | .error reason => .ok (trail.halt reason)
        | .ok count => passes (counted count) (max count layout.loop.fewest) 0 trail
    | some _ => do
        let (left, count?) ← pass outline answers layout late? enter iteration 0 (trail, none)
        if left.halted then return left
        match count? with
        | none => throw .noCount
        | some count => passes (counted count) (count - 1) 1 left

/-- Runs the nested loop, if there is a layout of it.  Within it there is no further loop. -/
def enterNested (nested? : Option Layout) (outer : Nat) (trail : Trail) : Except Exit Trail :=
  match nested? with
  | none => .error .noNestedLoop
  | some nested =>
      if nested.loop.body?.isNone then .ok (trail.halt .openEnded)
      else
        runLoop outline answers nested (fun _ _ => .error .noNestedLoop)
          (fun inner => ⟨outer, some inner⟩) trail

end Wary

/-- The wary walk through a program, as far as the answers lead. -/
def Outline.waryTrail (outline : Outline) (prompts : List Prompt) (answers : List Text) :
    Except Wary.Exit Trail :=
  match outline.mainLoop? with
  | none => .ok (straightTrail answers prompts Trail.empty)
  | some mainLoop =>
      match mainLoop.body? with
      | none => .ok (cutTrail answers mainLoop.header prompts)
      | some body => do
          let inside := prompts.filter fun prompt => prompt.site.inLoop
          let outside := prompts.filter fun prompt => !prompt.site.inLoop
          let before := outside.filter fun prompt => prompt.site.start < body.start
          let behind := outside.filter fun prompt => body.start ≤ prompt.site.start
          let (main, nested?) := Wary.layouts mainLoop body outline.nestedLoop? inside
          let left ← Wary.runLoop outline answers main (Wary.enterNested outline answers nested?)
            (fun outer => ⟨outer, none⟩) (straightTrail answers before Trail.empty)
          return straightTrail answers behind left

namespace Wary

/-! ## Steps and segments -/

/-- The segment that a step stands for, if the nested loop asks for some prompts. -/
def BodyStep.segment (nested : Loop) (inner : List Prompt) : BodyStep → Segment
  | ask prompt => .ask prompt
  | BodyStep.nested => .nested nested inner

theorem BodyStep.reads_segment (nested : Loop) (inner : List Prompt) (name : Text)
    (step : BodyStep) : (step.segment nested inner).reads name = step.reads name := by
  cases step <;> rfl

theorem map_segment_ask (nested : Loop) (inner prompts : List Prompt) :
    (prompts.map BodyStep.ask).map (BodyStep.segment nested inner) = prompts.map Segment.ask := by
  rw [List.map_map]
  rfl

theorem deal_entered (inNested : Prompt → Bool) (prompts : List Prompt) :
    deal inNested true prompts =
      ((prompts.filter fun prompt => !inNested prompt).map .ask, prompts.filter inNested) := by
  induction prompts with
  | nil => rfl
  | cons prompt prompts inductionHypothesis =>
      cases here : inNested prompt <;> simp [deal, here, inductionHypothesis]

theorem deal_append {inNested : Prompt → Bool} {front : List Prompt}
    (own : ∀ prompt ∈ front, inNested prompt = false) (entered : Bool) (rest : List Prompt) :
    deal inNested entered (front ++ rest) =
      (front.map .ask ++ (deal inNested entered rest).1, (deal inNested entered rest).2) := by
  induction front with
  | nil => rfl
  | cons prompt front inductionHypothesis =>
      have others := inductionHypothesis fun later member => own later (List.mem_cons_of_mem _ member)
      simp [deal, own prompt List.mem_cons_self, others]

/-- What prompts are dealt out to: their own steps only, if none is nested; else with the step of
the nested loop in the place of the first that is. -/
theorem deal_cases (inNested : Prompt → Bool) (prompts : List Prompt) :
    ((prompts.dropWhile fun prompt => !inNested prompt) = [] ∧
      deal inNested false prompts = (prompts.map .ask, [])) ∨
    (∃ first rest, (prompts.dropWhile fun prompt => !inNested prompt) = first :: rest ∧
      inNested first = true ∧
      deal inNested false prompts =
        ((prompts.takeWhile fun prompt => !inNested prompt).map .ask ++
          .nested :: (rest.filter fun prompt => !inNested prompt).map .ask,
          first :: rest.filter inNested)) := by
  have split := List.takeWhile_append_dropWhile (l := prompts) (p := fun prompt => !inNested prompt)
  have own : ∀ prompt ∈ prompts.takeWhile fun prompt => !inNested prompt,
      inNested prompt = false := by
    intro prompt member
    simpa using List.all_eq_true.mp List.all_takeWhile prompt member
  have dealt := deal_append own false (prompts.dropWhile fun prompt => !inNested prompt)
  rw [split] at dealt
  cases back : prompts.dropWhile fun prompt => !inNested prompt with
  | nil =>
      rw [back, List.append_nil] at split
      rw [back] at dealt
      refine Or.inl ⟨rfl, ?_⟩
      rw [dealt, split]
      simp [deal]
  | cons first rest =>
      have stops := List.head_dropWhile_not (fun prompt => !inNested prompt) (l := prompts)
        (by rw [back]; exact List.cons_ne_nil _ _)
      simp only [back, List.head_cons, Bool.not_eq_false'] at stops
      refine Or.inr ⟨first, rest, rfl, stops, ?_⟩
      rw [dealt, back]
      simp [deal, stops, deal_entered]

theorem layouts_none (mainLoop : Loop) (body : Span) (inside : List Prompt) :
    layouts mainLoop body none inside = (⟨mainLoop, inside.map .ask⟩, none) := by
  have own : ∀ prompt ∈ inside, belongs body none prompt = false := fun _ _ => rfl
  have dealt := deal_append own false []
  rw [List.append_nil] at dealt
  simp [layouts, dealt, deal]

/-- The segments of a body with a nested loop, told by the test for its prompts. -/
theorem segments_some (body : Span) (nested : Loop) (inside : List Prompt) :
    segments body (some nested) inside =
      let inNested := belongs body (some nested)
      let front := inside.takeWhile fun prompt => !inNested prompt
      let back := inside.dropWhile fun prompt => !inNested prompt
      if back.isEmpty then front.map .ask
      else
        front.map .ask ++ [.nested nested (back.filter inNested)] ++
          (back.filter fun prompt => !inNested prompt).map .ask := by
  have belonging : (fun prompt : Prompt =>
      (nestedRegion body nested).contains prompt.site.start) = belongs body (some nested) := rfl
  simp only [segments, drop_length_takeWhile, belonging]
  rfl

/-- The steps stand for the segments of the body, and if one is the nested loop's its layout is
there. -/
theorem exists_layouts (mainLoop : Loop) (body : Span) (nested? : Option Loop)
    (inside : List Prompt) :
    ∃ steps nested inner laid?,
      layouts mainLoop body nested? inside = (⟨mainLoop, steps⟩, laid?) ∧
      steps.map (BodyStep.segment nested inner) = segments body nested? inside ∧
      (BodyStep.nested ∈ steps → laid? = some ⟨nested, inner.map .ask⟩) := by
  cases nested? with
  | none =>
      -- No step is the nested loop's, so any loop may stand for it.
      exact ⟨_, mainLoop, [], none, layouts_none mainLoop body inside,
        map_segment_ask mainLoop [] inside, by simp⟩
  | some nested =>
      rw [segments_some]
      rcases deal_cases (belongs body (some nested)) inside with
        ⟨back, dealt⟩ | ⟨first, rest, back, isNested, dealt⟩
      · refine ⟨inside.map .ask, nested, [], none, by simp [layouts, dealt], ?_, by simp⟩
        have front := List.takeWhile_append_dropWhile (l := inside)
          (p := fun prompt => !belongs body (some nested) prompt)
        rw [back, List.append_nil] at front
        simp only [back, front, List.isEmpty_nil, if_true, map_segment_ask]
      · refine ⟨_, nested, first :: rest.filter (belongs body (some nested)), _,
          by simp only [layouts, dealt]; rfl, ?_, fun _ => rfl⟩
        simp only [back, List.isEmpty_cons, Bool.false_eq_true, if_false, List.map_append,
          List.map_cons, map_segment_ask, List.filter_cons, isNested, if_true, Bool.not_true,
          List.append_assoc, List.singleton_append]
        rfl

/-! ## Loops -/

section Loops

variable {outline : Outline} {answers : List Text} {loop nested : Loop} {inner : List Prompt}
  {steps : List BodyStep} {enter : Nat → Trail → Except Exit Trail} {iteration : Nat → Iteration}
  {run : Nat → Trail → Segment → Trail} {late? : Option Text} {name : Text} {index : Nat}

/-- Steps that do what their segments do. -/
structure Runs (answers : List Text) (steps : List BodyStep)
    (enter : Nat → Trail → Except Exit Trail) (iteration : Nat → Iteration) (nested : Loop)
    (inner : List Prompt) (run : Nat → Trail → Segment → Trail) : Prop where
  reaches : ∀ index trail segment, Trail.Reaches answers trail (run index trail segment)
  ask : ∀ index trail prompt,
    run index trail (.ask prompt) = trail.ask answers (some (iteration index)) prompt
  enter : ∀ index trail, BodyStep.nested ∈ steps → trail.halted = false →
    enter index trail = .ok (run index trail (.nested nested inner))

/-- Steps that keep what is known of the count amount to the actions that they do. -/
theorem foldlM_eq {parts : List BodyStep} {count? : Option Nat}
    (single : ∀ part ∈ parts, ∀ trail,
      step outline answers loop late? (enter index) (iteration index) (trail, count?) part =
        .ok (run index trail (part.segment nested inner), count?)) (trail : Trail) :
    parts.foldlM (step outline answers loop late? (enter index) (iteration index))
        (trail, count?) =
      .ok ((parts.map (BodyStep.segment nested inner)).foldl (run index) trail, count?) := by
  induction parts generalizing trail with
  | nil => rfl
  | cons part parts inductionHypothesis =>
      rw [List.foldlM_cons, single part List.mem_cons_self]
      exact inductionHypothesis (fun later member => single later (List.mem_cons_of_mem _ member)) _

theorem Runs.step_eq (runs : Runs answers steps enter iteration nested inner run)
    {part : BodyStep} (member : part ∈ steps) (index : Nat) {count? : Option Nat}
    (keeps : count?.isSome = true ∨ ∃ name, late? = some name ∧ part.reads name = false)
    (trail : Trail) :
    step outline answers loop late? (enter index) (iteration index) (trail, count?) part =
      .ok (run index trail (part.segment nested inner), count?) := by
  cases part with
  | ask prompt =>
      have passed : (count?.isSome || decide (prompt.site.target? ≠ late?)) = true := by
        rcases keeps with known | ⟨name, rfl, silent⟩
        · simp [known]
        · simpa [BodyStep.reads] using Or.inr silent
      simp only [step, Bool.or_assoc, passed, Bool.or_true, if_true, BodyStep.segment, runs.ask]
  | nested =>
      cases halted : trail.halted with
      | true =>
          have rests := (runs.reaches index trail (.nested nested inner)).eq_of_halted halted
          simp only [step, halted, if_true, BodyStep.segment, rests]
      | false =>
          simp only [step, halted, Bool.false_eq_true, if_false, BodyStep.segment,
            runs.enter index trail member halted]
          rfl

theorem Runs.pass_known (runs : Runs answers steps enter iteration nested inner run)
    (late? : Option Text) (index count : Nat) (trail : Trail) :
    pass outline answers ⟨loop, steps⟩ late? enter iteration index (trail, some count) =
      .ok ((steps.map (BodyStep.segment nested inner)).foldl (run index) trail, some count) :=
  foldlM_eq (fun _ member => runs.step_eq member index (Or.inl rfl)) trail

theorem passes_eq {next : Nat → Trail → Except Exit Trail} {pass : Nat → Trail → Trail}
    (single : ∀ index trail, next index trail = .ok (pass index trail)) (count first : Nat)
    (trail : Trail) : passes next count first trail = .ok (InputDemand.passes pass count first trail) := by
  induction count generalizing first trail with
  | zero => rfl
  | succ count inductionHypothesis =>
      simp only [passes, InputDemand.passes, single]
      split
      · rfl
      · exact inductionHypothesis (first + 1) (pass first trail)

/-- A body that reads a name splits at the first step that does. -/
theorem exists_first_reading (reads : steps.any (BodyStep.reads name) = true) :
    ∃ front prompt back, steps = front ++ .ask prompt :: back ∧
      (∀ part ∈ front, part.reads name = false) ∧ prompt.site.target? = some name := by
  induction steps with
  | nil => cases reads
  | cons first steps inductionHypothesis =>
      cases here : first.reads name with
      | true =>
          cases first with
          | ask prompt =>
              exact ⟨[], prompt, steps, rfl, by simp, by simpa [BodyStep.reads] using here⟩
          | nested => cases here
      | false =>
          rw [List.any_cons, here, Bool.false_or] at reads
          obtain ⟨front, prompt, back, split, silent, target⟩ := inductionHypothesis reads
          refine ⟨first :: front, prompt, back, by rw [split]; rfl, ?_, target⟩
          intro part member
          rcases List.mem_cons.mp member with rfl | later
          · exact here
          · exact silent part later

theorem lateName?_eq (loop nested : Loop) (inner : List Prompt) (steps : List BodyStep)
    (trail : Trail) :
    lateName? ⟨loop, steps⟩ trail =
      InputDemand.lateName? loop (steps.map (BodyStep.segment nested inner)) trail := by
  have reads : ∀ name, (steps.map (BodyStep.segment nested inner)).any (Segment.reads name) =
      steps.any (BodyStep.reads name) := by
    intro name
    rw [List.any_map]
    exact congrArg (List.any steps) (funext (BodyStep.reads_segment nested inner name))
  unfold lateName? InputDemand.lateName?
  cases loop.trip.bound with
  | literal value => rfl
  | name name => simp only [reads]
  | unknown expression => rfl

theorem takeWhile_segment {front back : List BodyStep} {prompt : Prompt}
    (silent : ∀ part ∈ front, part.reads name = false)
    (target : prompt.site.target? = some name) :
    ((front ++ .ask prompt :: back).map (BodyStep.segment nested inner)).takeWhile
        (fun segment => !segment.reads name) = front.map (BodyStep.segment nested inner) := by
  have passed : ∀ segment ∈ front.map (BodyStep.segment nested inner),
      (!segment.reads name) = true := by
    intro segment member
    obtain ⟨part, inFront, rfl⟩ := List.mem_map.mp member
    rw [BodyStep.reads_segment, silent part inFront]
    rfl
  have stops : (Segment.ask prompt).reads name = true := by simp [Segment.reads, target]
  rw [List.map_append, List.takeWhile_append_of_pos passed, List.map_cons,
    List.takeWhile_cons_of_neg (by simp [BodyStep.segment, stops]), List.append_nil]

theorem reads_of_late {trail : Trail} (late : lateName? ⟨loop, steps⟩ trail = some name) :
    steps.any (BodyStep.reads name) = true := by
  unfold lateName? at late
  split at late
  · split at late
    · rename_i read
      cases late
      exact (Bool.and_eq_true_iff.mp read).2
    · cases late
  · cases late

theorem foldlM_of_halted {parts : List BodyStep} {enter : Trail → Except Exit Trail}
    {iteration : Iteration} {trail : Trail} (halted : trail.halted = true) (count? : Option Nat) :
    parts.foldlM (step outline answers loop late? enter iteration) (trail, count?) =
      .ok (trail, count?) := by
  induction parts with
  | nil => rfl
  | cons part parts inductionHypothesis =>
      have rests : step outline answers loop late? enter iteration (trail, count?) part =
          .ok (trail, count?) := by
        cases part with
        | ask prompt => simp [step, Trail.ask_of_halted halted, halted]
        | nested => simp [step, halted]
      rw [List.foldlM_cons, rests]
      exact inductionHypothesis

/-- Up to the step that reads the count, a first pass does what its segments do. -/
theorem Runs.pass_front (runs : Runs answers steps enter iteration nested inner run)
    {front back : List BodyStep} {prompt : Prompt} (split : steps = front ++ .ask prompt :: back)
    (silent : ∀ part ∈ front, part.reads name = false) (trail : Trail) :
    pass outline answers ⟨loop, steps⟩ (some name) enter iteration 0 (trail, none) =
      (step outline answers loop (some name) (enter 0) (iteration 0)
        ((front.map (BodyStep.segment nested inner)).foldl (run 0) trail, none)
        (.ask prompt)).bind
        (back.foldlM (step outline answers loop (some name) (enter 0) (iteration 0))) := by
  have arrives : front.foldlM
      (step outline answers loop (some name) (enter 0) (iteration 0)) (trail, none) =
      .ok ((front.map (BodyStep.segment nested inner)).foldl (run 0) trail, none) := by
    refine foldlM_eq (fun part member => ?_) trail
    exact runs.step_eq (by rw [split]; exact List.mem_append_left _ member) 0
      (Or.inr ⟨name, rfl, silent part member⟩)
  simp only [pass, split, List.foldlM_append, arrives, List.foldlM_cons]
  rfl

theorem Runs.reaches_pass (runs : Runs answers steps enter iteration nested inner run)
    (parts : List Segment) (index : Nat) (trail : Trail) :
    Trail.Reaches answers trail (parts.foldl (run index) trail) :=
  reaches_foldl (runs.reaches index) parts trail

theorem Runs.reaches_passes (runs : Runs answers steps enter iteration nested inner run)
    (parts : List Segment) (count first : Nat) (trail : Trail) :
    Trail.Reaches answers trail
      (InputDemand.passes (fun index trail => parts.foldl (run index) trail) count first trail) :=
  InputDemand.reaches_passes (runs.reaches_pass parts) count first trail

/-- A loop whose count is read in its body, from the trail behind the step that reads it. -/
theorem runLoop_of_first_reading {front back : List BodyStep} {prompt : Prompt} {trail : Trail}
    (split : steps = front ++ .ask prompt :: back)
    (silent : ∀ part ∈ front, part.reads name = false)
    (target : prompt.site.target? = some name)
    (late : lateName? ⟨loop, steps⟩ trail = some name) :
    InputDemand.runLoop outline loop (steps.map (BodyStep.segment nested inner)) run trail =
      outline.counted loop
        (fun count read => InputDemand.passes
          (fun index trail => (steps.map (BodyStep.segment nested inner)).foldl (run index) trail)
          (count - 1) 1 ((back.map (BodyStep.segment nested inner)).foldl (run 0) read))
        (run 0 ((front.map (BodyStep.segment nested inner)).foldl (run 0) trail) (.ask prompt)) := by
  have splitSegments : steps.map (BodyStep.segment nested inner) =
      front.map (BodyStep.segment nested inner) ++
        .ask prompt :: back.map (BodyStep.segment nested inner) := by
    rw [split, List.map_append]
    rfl
  rw [runLoop_of_lateName splitSegments (by rw [split]; exact takeWhile_segment silent target)
    (by rw [← lateName?_eq]; exact late), List.foldl_append]
  rfl

/-- The first pass of a loop whose count is read in its body ends halted, or with the count. -/
theorem Runs.pass_late (runs : Runs answers steps enter iteration nested inner run)
    {trail : Trail} (late : lateName? ⟨loop, steps⟩ trail = some name) :
    ∃ left count?,
      pass outline answers ⟨loop, steps⟩ (some name) enter iteration 0 (trail, none) =
        .ok (left, count?) ∧
      (left.halted = true ∧ InputDemand.runLoop outline loop
          (steps.map (BodyStep.segment nested inner)) run trail = left ∨
        ∃ count, count? = some (max count 1) ∧ InputDemand.runLoop outline loop
          (steps.map (BodyStep.segment nested inner)) run trail =
            InputDemand.passes
              (fun index trail => (steps.map (BodyStep.segment nested inner)).foldl (run index) trail)
              (count - 1) 1 left) := by
  obtain ⟨front, prompt, back, split, silent, target⟩ := exists_first_reading (reads_of_late late)
  have asks := runs.ask 0 ((front.map (BodyStep.segment nested inner)).foldl (run 0) trail) prompt
  rw [runs.pass_front split silent, runLoop_of_first_reading split silent target late]
  simp only [step, ← asks, target, Option.isSome_none, Bool.or_false, ne_eq, not_true_eq_false,
    decide_false]
  -- The trail behind the step that reads the count decides: it is halted, or the count is taken.
  generalize run 0 ((front.map (BodyStep.segment nested inner)).foldl (run 0) trail) (.ask prompt) =
    asked
  cases halted : asked.halted with
  | true =>
      have goesOn := fun count read =>
        (runs.reaches_pass (back.map (BodyStep.segment nested inner)) 0 read).trans
          (runs.reaches_passes (steps.map (BodyStep.segment nested inner)) (count - 1) 1 _)
      exact ⟨asked, none, foldlM_of_halted halted none,
        Or.inl ⟨halted, counted_of_halted goesOn halted⟩⟩
  | false =>
      cases counted : outline.count loop asked.names with
      | error reason =>
          have stopped : (asked.halt reason).halted = true := by
            simp [Trail.halt_of_running halted, Trail.halted]
          exact ⟨asked.halt reason, none, foldlM_of_halted stopped none,
            Or.inl ⟨stopped, by simp only [Outline.counted, counted]⟩⟩
      | ok count =>
          refine ⟨(back.map (BodyStep.segment nested inner)).foldl (run 0) asked,
            some (max count 1), foldlM_eq (fun part member => ?_) asked,
            Or.inr ⟨count, rfl, by simp only [Outline.counted, counted]⟩⟩
          exact runs.step_eq (by rw [split]; simp [member]) 0 (Or.inl rfl)

/-- A wary loop takes no exit and does what the loop does. -/
theorem Runs.runLoop_eq (runs : Runs answers steps enter iteration nested inner run)
    (trail : Trail) :
    runLoop outline answers ⟨loop, steps⟩ enter iteration trail =
      .ok (InputDemand.runLoop outline loop (steps.map (BodyStep.segment nested inner)) run
        trail) := by
  have rest := reaches_runLoop outline loop (steps.map (BodyStep.segment nested inner))
    runs.reaches trail
  have known : ∀ (late? : Option Text) count index trail,
      (pass outline answers ⟨loop, steps⟩ late? enter iteration index
        (trail, some count)).map Prod.fst =
        .ok ((steps.map (BodyStep.segment nested inner)).foldl (run index) trail) := by
    intro late? count index trail
    rw [runs.pass_known]
    rfl
  unfold runLoop
  dsimp only
  -- A loop without steps, or one that is entered halted, leaves the trail as it is.
  cases resting : steps.isEmpty || trail.halted with
  | true =>
      rcases Bool.or_eq_true_iff.mp resting with empty | halted
      · rw [List.isEmpty_iff.mp empty]
        rfl
      · rw [rest.eq_of_halted halted]
        rfl
  | false =>
      obtain ⟨nonempty, running⟩ := Bool.or_eq_false_iff.mp resting
      rw [if_neg Bool.false_ne_true]
      cases late : lateName? ⟨loop, steps⟩ trail with
      | none =>
          have noLate := late
          rw [lateName?_eq loop nested inner] at noLate
          simp only [InputDemand.runLoop, List.isEmpty_map, nonempty, noLate, Outline.counted]
          cases counted : outline.count loop trail.names with
          | error reason => rfl
          | ok count => exact passes_eq (known none count) (max count loop.fewest) 0 trail
      | some name =>
          obtain ⟨left, count?, passed, ends⟩ := runs.pass_late late
          rcases ends with ⟨halted, model⟩ | ⟨count, rfl, model⟩
          · rw [passed, model]
            simp only [bind, Except.bind, halted, if_true]
            rfl
          · have fewer : max count 1 - 1 = count - 1 := by omega
            rw [passed, model]
            simp only [bind, Except.bind]
            split
            · rename_i halted
              have rests := (runs.reaches_passes (steps.map (BodyStep.segment nested inner))
                (count - 1) 1 left).eq_of_halted halted
              rw [rests]
              rfl
            · rw [fewer]
              exact passes_eq (known (some name) (max count 1)) (count - 1) 1 left

/-- Where the nested loop is laid out, entering it runs it. -/
theorem enterNested_eq (outline : Outline) (answers : List Text) (nested : Loop)
    (inner : List Prompt) (outer : Nat) (trail : Trail) :
    enterNested outline answers (some ⟨nested, inner.map .ask⟩) outer trail =
      .ok (runNested outline answers outer nested inner trail) := by
  unfold enterNested runNested
  dsimp only
  split
  · rfl
  · rw [← map_segment_ask nested inner inner]
    refine Runs.runLoop_eq ⟨fun index trail segment => ?_, fun _ _ _ => rfl,
      fun _ _ member => by simp at member⟩ trail
    cases segment with
    | ask prompt => exact .ask _ prompt .refl
    | nested loop prompts => exact .refl

end Loops

theorem loopTrail_eq (outline : Outline) (answers : List Text) (mainLoop : Loop) (body : Span)
    (inside : List Prompt) (entered : Trail) :
    runLoop outline answers (layouts mainLoop body outline.nestedLoop? inside).1
        (enterNested outline answers (layouts mainLoop body outline.nestedLoop? inside).2)
        (fun outer => ⟨outer, none⟩) entered =
      .ok (InputDemand.runLoop outline mainLoop (segments body outline.nestedLoop? inside)
        (runSegment outline answers) entered) := by
  obtain ⟨steps, nested, inner, laid?, laid, parts, present⟩ :=
    exists_layouts mainLoop body outline.nestedLoop? inside
  have runs : Runs answers steps (enterNested outline answers laid?)
      (fun outer => ⟨outer, none⟩) nested inner (runSegment outline answers) := by
    refine ⟨reaches_runSegment outline, fun _ _ _ => rfl, fun outer trail member _ => ?_⟩
    rw [present member]
    exact enterNested_eq outline answers nested inner outer trail
  rw [laid, ← parts]
  exact runs.runLoop_eq entered

end Wary

/-- The wary walk takes no exit, and is the walk that plans are made of. -/
theorem Outline.waryTrail_eq (outline : Outline) (prompts : List Prompt) (answers : List Text) :
    outline.waryTrail prompts answers = .ok (outline.trail prompts answers) := by
  unfold waryTrail trail
  cases outline.mainLoop? with
  | none => rfl
  | some mainLoop =>
      cases found : mainLoop.body? with
      | none => simp only [found]
      | some body =>
          have looped := Wary.loopTrail_eq outline answers mainLoop body
            (prompts.filter fun prompt => prompt.site.inLoop)
          simp only [found, looped, loopTrail]
          rfl

end InputDemand

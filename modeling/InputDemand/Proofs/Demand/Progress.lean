import InputDemand.Proofs.Demand.OrderedPlan
import InputDemand.Proofs.Demand.Walks

/-!
# How many passes a walk makes

The number of values in a plan is bounded, but a loop whose count is large stops at that bound only
if its passes ask for values.  A journal is a walk that also notes every pass that it completes.  A
pass over the body of the nested loop always asks for a value.  A pass over the body of the main
loop asks for none just if this body consists of the nested loop alone and that makes no pass in it;
then the trail stays as it was, so all passes behind it are like it, as many as the main loop
counts.
-/

namespace InputDemand

/-! ## Journals -/

/-- A completed pass: its number, and the trail in front of it and behind it. -/
structure Pass where
  iteration : Iteration
  before : Trail
  after : Trail

namespace Pass

def isNested (pass : Pass) : Bool :=
  pass.iteration.inner?.isSome

def asks (pass : Pass) : Bool :=
  pass.before.slots.size < pass.after.slots.size

end Pass

/-- A walk with the passes that it has completed, the latest first. -/
structure Journal where
  trail : Trail
  passes : List Pass

namespace Journal

/-- Does what completes no pass. -/
def act (action : Trail → Trail) (journal : Journal) : Journal :=
  { journal with trail := action journal.trail }

/-- Notes the pass that has led on from a trail, unless the walk has halted in it. -/
def note (iteration : Iteration) (before : Trail) (left : Journal) : Journal :=
  if left.trail.halted then left
  else { left with passes := ⟨iteration, before, left.trail⟩ :: left.passes }

/-- Rounds number `first`, `first + 1`, …, as many as asked, until the trail halts. -/
def rounds (round : Nat → Journal → Journal) : Nat → Nat → Journal → Journal
  | 0, _, journal => journal
  | count + 1, first, journal =>
      if journal.trail.halted then journal
      else rounds round count (first + 1) (round first journal)

/-- Goes on by the count of a loop, or halts for the reason why there is none. -/
def counted (outline : Outline) (loop : Loop) (goOn : Nat → Journal → Journal)
    (journal : Journal) : Journal :=
  match outline.count loop journal.trail.names with
  | .error reason => journal.act fun trail => trail.halt reason
  | .ok count => goOn count journal

/-- Runs a loop as `InputDemand.runLoop` does, and notes each pass. -/
def runLoop (outline : Outline) (loop : Loop) (segments : List Segment)
    (iteration : Nat → Iteration) (run : Nat → Journal → Segment → Journal)
    (journal : Journal) : Journal :=
  let round := fun index journal =>
    note (iteration index) journal.trail (segments.foldl (run index) journal)
  if segments.isEmpty then journal
  else
    match lateName? loop segments journal.trail with
    | none => counted outline loop (fun count => rounds round (max count loop.fewest) 0) journal
    | some name =>
        let front := segments.takeWhile fun segment => !segment.reads name
        let back := segments.drop front.length
        counted outline loop
          (fun count read => rounds round (count - 1) 1
            (note (iteration 0) journal.trail ((back.drop 1).foldl (run 0) read)))
          ((front ++ back.take 1).foldl (run 0) journal)

def runInner (answers : List Text) (outer inner : Nat) (journal : Journal) : Segment → Journal
  | .ask prompt => journal.act fun trail => trail.ask answers (some ⟨outer, some inner⟩) prompt
  | .nested .. => journal

def runNested (outline : Outline) (answers : List Text) (outer : Nat) (loop : Loop)
    (prompts : List Prompt) (journal : Journal) : Journal :=
  if loop.body?.isNone then journal.act fun trail => trail.halt .openEnded
  else
    runLoop outline loop (prompts.map .ask) (fun inner => ⟨outer, some inner⟩)
      (runInner answers outer) journal

def runSegment (outline : Outline) (answers : List Text) (outer : Nat) (journal : Journal) :
    Segment → Journal
  | .ask prompt => journal.act fun trail => trail.ask answers (some ⟨outer, none⟩) prompt
  | .nested loop prompts => runNested outline answers outer loop prompts journal

end Journal

namespace Outline

def bodySegments (outline : Outline) (body : Span) (prompts : List Prompt) : List Segment :=
  segments body outline.nestedLoop? (prompts.filter fun prompt => prompt.site.inLoop)

/-- The walk through a program with the passes that it completes. -/
def journal (outline : Outline) (prompts : List Prompt) (answers : List Text) : Journal :=
  match outline.mainLoop? with
  | none => ⟨straightTrail answers prompts Trail.empty, []⟩
  | some mainLoop =>
      match mainLoop.body? with
      | none => ⟨cutTrail answers mainLoop.header prompts, []⟩
      | some body =>
          let outside := prompts.filter fun prompt => !prompt.site.inLoop
          let before := outside.filter fun prompt => prompt.site.start < body.start
          let behind := outside.filter fun prompt => body.start ≤ prompt.site.start
          let entered : Journal := ⟨straightTrail answers before Trail.empty, []⟩
          (Journal.runLoop outline mainLoop (outline.bodySegments body prompts)
            (fun outer => ⟨outer, none⟩) (Journal.runSegment outline answers) entered).act
            (straightTrail answers behind)

end Outline

/-! ## The walk of a journal -/

namespace Journal

theorem trail_note (iteration : Iteration) (before : Trail) (left : Journal) :
    (note iteration before left).trail = left.trail := by
  unfold note
  split <;> rfl

theorem trail_foldl {run : Journal → Segment → Journal} {step : Trail → Segment → Trail}
    (walks : ∀ journal segment, (run journal segment).trail = step journal.trail segment)
    (segments : List Segment) (journal : Journal) :
    (segments.foldl run journal).trail = segments.foldl step journal.trail := by
  induction segments generalizing journal with
  | nil => rfl
  | cons segment segments inductionHypothesis =>
      rw [List.foldl_cons, List.foldl_cons, inductionHypothesis, walks]

theorem trail_rounds {round : Nat → Journal → Journal} {pass : Nat → Trail → Trail}
    (walks : ∀ index journal, (round index journal).trail = pass index journal.trail)
    (count first : Nat) (journal : Journal) :
    (rounds round count first journal).trail =
      InputDemand.passes pass count first journal.trail := by
  induction count generalizing first journal with
  | zero => rfl
  | succ count inductionHypothesis =>
      unfold rounds InputDemand.passes
      split
      · rfl
      · rw [inductionHypothesis, walks]

theorem trail_counted {outline : Outline} {loop : Loop} {goOn : Nat → Journal → Journal}
    {step : Nat → Trail → Trail}
    (walks : ∀ count journal, (goOn count journal).trail = step count journal.trail)
    (journal : Journal) :
    (counted outline loop goOn journal).trail = outline.counted loop step journal.trail := by
  unfold counted Outline.counted
  cases outline.count loop journal.trail.names with
  | error reason => rfl
  | ok count => exact walks count journal

theorem trail_runLoop {outline : Outline} {loop : Loop} {segments : List Segment}
    {iteration : Nat → Iteration} {run : Nat → Journal → Segment → Journal}
    {step : Nat → Trail → Segment → Trail}
    (walks : ∀ index journal segment,
      (run index journal segment).trail = step index journal.trail segment) (journal : Journal) :
    (runLoop outline loop segments iteration run journal).trail =
      InputDemand.runLoop outline loop segments step journal.trail := by
  have rounds : ∀ count first journal,
      (rounds (fun index journal =>
        note (iteration index) journal.trail (segments.foldl (run index) journal))
        count first journal).trail =
      InputDemand.passes (fun index trail => segments.foldl (step index) trail)
        count first journal.trail := by
    refine trail_rounds fun index journal => ?_
    rw [trail_note, trail_foldl (walks index)]
  unfold runLoop InputDemand.runLoop
  split
  · rfl
  · cases lateName? loop segments journal.trail with
    | none => exact trail_counted (fun count => rounds (max count loop.fewest) 0) journal
    | some name =>
        dsimp only
        rw [← trail_foldl (walks 0)]
        refine trail_counted (fun count read => ?_) _
        rw [rounds, trail_note, trail_foldl (walks 0)]

theorem trail_runSegment (outline : Outline) (answers : List Text) (outer : Nat) (journal : Journal)
    (segment : Segment) :
    (runSegment outline answers outer journal segment).trail =
      InputDemand.runSegment outline answers outer journal.trail segment := by
  cases segment with
  | ask prompt => rfl
  | nested loop prompts =>
      unfold runSegment InputDemand.runSegment runNested InputDemand.runNested
      dsimp only
      split
      · rfl
      · refine trail_runLoop (fun inner journal segment => ?_) journal
        cases segment <;> rfl

end Journal

/-- The walk of a journal is the walk of the plan. -/
theorem Outline.trail_journal (outline : Outline) (prompts : List Prompt) (answers : List Text) :
    (outline.journal prompts answers).trail = outline.trail prompts answers := by
  unfold journal trail
  cases outline.mainLoop? with
  | none => rfl
  | some mainLoop =>
      dsimp only
      cases mainLoop.body? with
      | none => rfl
      | some body =>
          exact congrArg (straightTrail answers _)
            (Journal.trail_runLoop (Journal.trail_runSegment outline answers) _)

/-- A body is what stands in front of a segment, that segment, and what stands behind it. -/
theorem front_append_back (others : Segment → Bool) (segments : List Segment) :
    segments.takeWhile others ++
        (segments.drop (segments.takeWhile others).length).take 1 ++
      (segments.drop (segments.takeWhile others).length).drop 1 = segments := by
  rw [List.append_assoc, List.take_append_drop]
  exact List.prefix_iff_eq_append.mp (List.takeWhile_prefix _)

/-! ## What a journal notes -/

namespace Trail.Reaches

variable {answers : List Text} {start trail : Trail}

theorem size_le (reached : Reaches answers start trail) : start.slots.size ≤ trail.slots.size := by
  simpa using reached.slots_grow.length_le

theorem size_le_maxSlots (reached : Reaches answers start trail)
    (few : start.slots.size ≤ maxSlots) : trail.slots.size ≤ maxSlots := by
  induction reached with
  | refl => exact few
  | @ask iteration? prompt trail _ inductionHypothesis =>
      rcases ask_cases answers iteration? trail prompt with
        ⟨_, asked⟩ | ⟨_, room, asked⟩ | ⟨_, _, asked⟩
      · rw [asked]
        exact inductionHypothesis
      · rw [asked, Array.size_push]
        exact room
      · rw [asked]
        exact inductionHypothesis
  | halt reason _ _ inductionHypothesis =>
      rw [slots_halt]
      exact inductionHypothesis

theorem running (reached : Reaches answers start trail) (runs : trail.halted = false) :
    start.halted = false := by
  cases halted : start.halted with
  | false => rfl
  | true =>
      rw [reached.eq_of_halted halted, halted] at runs
      cases runs

end Trail.Reaches

/-- How many passes over the body of a loop ask for values, of the nested one or of the main one. -/
def asking (nested : Bool) (passes : List Pass) : Nat :=
  passes.countP fun pass => pass.isNested == nested && pass.asks

/-- What a part of a walk does to a journal: it adds passes of one kind, and of those over one body
no more that ask for values than there are new values. -/
structure Journal.Leads (answers : List Text) (Noted : Pass → Prop) (start left : Journal) :
    Prop where
  reaches : Trail.Reaches answers start.trail left.trail
  noted : ∃ passes, left.passes = passes ++ start.passes ∧ (∀ pass ∈ passes, Noted pass) ∧
    ∀ nested, start.trail.slots.size + asking nested passes ≤ left.trail.slots.size

namespace Journal.Leads

variable {answers : List Text} {Noted Inner Outer : Pass → Prop} {start middle left : Journal}

theorem act {action : Trail → Trail} (journal : Journal)
    (reaches : Trail.Reaches answers journal.trail (action journal.trail)) :
    Leads answers Noted journal (journal.act action) :=
  ⟨reaches, [], rfl, by simp, fun _ => reaches.size_le⟩

theorem refl (journal : Journal) : Leads answers Noted journal journal :=
  ⟨.refl, [], rfl, by simp, fun _ => Nat.le_refl _⟩

theorem trans (first : Leads answers Noted start middle)
    (second : Leads answers Noted middle left) :
    Leads answers Noted start left := by
  obtain ⟨reachesMiddle, early, splitEarly, notedEarly, fewEarly⟩ := first
  obtain ⟨reachesLeft, later, splitLater, notedLater, fewLater⟩ := second
  refine ⟨reachesMiddle.trans reachesLeft, later ++ early, ?_, ?_, fun nested => ?_⟩
  · rw [splitLater, splitEarly, List.append_assoc]
  · intro pass member
    exact (List.mem_append.mp member).elim (notedLater pass) (notedEarly pass)
  · have early := fewEarly nested
    have later := fewLater nested
    rw [asking, List.countP_append, ← asking, ← asking]
    omega

theorem weaken (leads : Leads answers Noted start left) {Kept : Pass → Prop}
    (keeps : ∀ pass, Noted pass → Kept pass) : Leads answers Kept start left := by
  obtain ⟨reaches, passes, split, noted, few⟩ := leads
  exact ⟨reaches, passes, split, fun pass member => keeps pass (noted pass member), few⟩

/-- A pass that is noted is one more of its own body, while in it only passes over the other body
were noted; so it may ask for a value if there is a new one. -/
theorem note {iteration : Iteration} (leads : Leads answers Inner start left)
    (apart : ∀ pass, Inner pass → pass.isNested ≠ iteration.inner?.isSome)
    (sound : left.trail.halted = false → Outer ⟨iteration, start.trail, left.trail⟩) :
    Leads answers (fun pass => Inner pass ∨ Outer pass) start
      (Journal.note iteration start.trail left) := by
  unfold Journal.note
  split
  · exact leads.weaken fun _ => Or.inl
  · rename_i running
    obtain ⟨reaches, passes, split, noted, few⟩ := leads
    have runs := sound (Bool.eq_false_iff.mpr running)
    refine ⟨reaches, ⟨iteration, start.trail, left.trail⟩ :: passes, ?_, ?_, fun nested => ?_⟩
    · rw [split, List.cons_append]
    · rw [List.forall_mem_cons]
      exact ⟨Or.inr runs, fun pass member => Or.inl (noted pass member)⟩
    · have before := few nested
      have grows := reaches.size_le
      simp only [asking, List.countP_cons]
      by_cases same : iteration.inner?.isSome = nested
      -- All passes that were noted on the way are over the other body.
      · have none : passes.countP (fun pass => pass.isNested == nested && pass.asks) = 0 := by
          refine List.countP_eq_zero.mpr fun pass member => ?_
          have other := apart pass (noted pass member)
          rw [same] at other
          simp [other]
        rw [none]
        simp only [Pass.isNested, Pass.asks, same]
        split
        · rename_i asks
          simp only [beq_self_eq_true, Bool.true_and, decide_eq_true_eq] at asks
          omega
        · omega
      · rw [if_neg (by simp [Pass.isNested, same])]
        exact before

theorem foldl {run : Journal → Segment → Journal} {segments : List Segment}
    (step : ∀ journal, ∀ segment ∈ segments, Leads answers Noted journal (run journal segment))
    (journal : Journal) : Leads answers Noted journal (segments.foldl run journal) := by
  induction segments generalizing journal with
  | nil => exact refl journal
  | cons segment segments inductionHypothesis =>
      refine (step journal segment List.mem_cons_self).trans (inductionHypothesis ?_ _)
      exact fun journal later member => step journal later (List.mem_cons_of_mem _ member)

theorem rounds {round : Nat → Journal → Journal}
    (step : ∀ index journal, Leads answers Noted journal (round index journal))
    (count first : Nat) (journal : Journal) :
    Leads answers Noted journal (Journal.rounds round count first journal) := by
  induction count generalizing first journal with
  | zero => exact refl journal
  | succ count inductionHypothesis =>
      unfold Journal.rounds
      split
      · exact refl journal
      · exact (step first journal).trans (inductionHypothesis (first + 1) _)

theorem counted {outline : Outline} {loop : Loop} {goOn : Nat → Journal → Journal}
    (start : Journal) (first : Leads answers Noted start middle)
    (step : ∀ count, Leads answers Noted start (goOn count middle)) :
    Leads answers Noted start (Journal.counted outline loop goOn middle) := by
  unfold Journal.counted
  split
  · rename_i reason missing
    refine first.trans (act middle (.halt reason (fun name waiting => ?_) .refl))
    exact Outline.count_eq_pending (waiting ▸ missing)
  · exact step _

/-- A loop notes passes over its own body besides those that its body notes. -/
theorem runLoop {outline : Outline} {loop : Loop} {segments : List Segment}
    {iteration : Nat → Iteration} {run : Nat → Journal → Segment → Journal}
    (step : ∀ index journal, ∀ segment ∈ segments,
      Leads answers Inner journal (run index journal segment))
    (apart : ∀ index pass, Inner pass → pass.isNested ≠ (iteration index).inner?.isSome)
    (sound : ∀ index journal, (segments.foldl (run index) journal).trail.halted = false →
      Outer ⟨iteration index, journal.trail, (segments.foldl (run index) journal).trail⟩)
    (journal : Journal) :
    Leads answers (fun pass => Inner pass ∨ Outer pass) journal
      (Journal.runLoop outline loop segments iteration run journal) := by
  have round : ∀ index journal, Leads answers (fun pass => Inner pass ∨ Outer pass) journal
      (Journal.note (iteration index) journal.trail (segments.foldl (run index) journal)) :=
    fun index journal =>
      (foldl (step index) journal).note (apart index) (sound index journal)
  unfold Journal.runLoop
  split
  · exact refl journal
  · cases lateName? loop segments journal.trail with
    | none =>
        exact counted journal (refl journal)
          fun count => rounds round (max count loop.fewest) 0 journal
    | some name =>
        let front := segments.takeWhile fun segment => !segment.reads name
        let back := segments.drop front.length
        have whole : front ++ back.take 1 ++ back.drop 1 = segments :=
          front_append_back _ segments
        have entered : Leads answers Inner journal ((front ++ back.take 1).foldl (run 0) journal) :=
          foldl (fun journal segment member =>
            step 0 journal segment (whole ▸ List.mem_append_left _ member)) journal
        refine counted journal (entered.weaken fun _ => Or.inl) fun count => ?_
        have first : (back.drop 1).foldl (run 0) ((front ++ back.take 1).foldl (run 0) journal) =
            segments.foldl (run 0) journal := by
          rw [← List.foldl_append, whole]
        rw [first]
        exact (round 0 journal).trans (rounds round (count - 1) 1 _)

end Journal.Leads

/-! ## Passes that ask for no value -/

section Progress

variable {answers : List Text}

theorem lt_of_ask {trail : Trail} {iteration? : Option Iteration} {prompt : Prompt}
    (runs : (trail.ask answers iteration? prompt).halted = false) :
    trail.slots.size < (trail.ask answers iteration? prompt).slots.size := by
  rcases Trail.ask_cases answers iteration? trail prompt with
    ⟨halted, asked⟩ | ⟨_, _, asked⟩ | ⟨_, _, asked⟩
  · rw [asked, halted] at runs
    cases runs
  · rw [asked, Array.size_push]
    exact Nat.lt_succ_self _
  · rw [asked] at runs
    cases runs

/-- A pass with a step that always asks for a value asks for one, unless the walk halts in it. -/
theorem lt_foldl {step : Trail → Segment → Trail} {segments : List Segment}
    (reaches : ∀ trail segment, Trail.Reaches answers trail (step trail segment))
    (asks : ∃ segment ∈ segments, ∀ trail, (step trail segment).halted = false →
      trail.slots.size < (step trail segment).slots.size)
    {trail : Trail} (runs : (segments.foldl step trail).halted = false) :
    trail.slots.size < (segments.foldl step trail).slots.size := by
  obtain ⟨segment, member, grows⟩ := asks
  obtain ⟨front, back, rfl⟩ := List.append_of_mem member
  rw [List.foldl_append, List.foldl_cons] at runs ⊢
  have behind := reaches_foldl reaches back (step (front.foldl step trail) segment)
  have before := (reaches_foldl reaches front trail).size_le
  have here := grows _ (behind.running runs)
  exact Nat.lt_of_le_of_lt before (Nat.lt_of_lt_of_le here behind.size_le)

theorem halted_halt (trail : Trail) (reason : Halt) : (trail.halt reason).halted = true := by
  cases halted : trail.halted with
  | true => rw [Trail.halt_of_halted halted, halted]
  | false =>
      rw [Trail.halt_of_running halted]
      rfl

/-- Behind a first pass that asks for a value no later pass takes the value away. -/
theorem lt_passes {segments : List Segment} {step : Nat → Trail → Segment → Trail}
    (reaches : ∀ index trail segment, Trail.Reaches answers trail (step index trail segment))
    (asks : ∃ segment ∈ segments, ∀ index trail, (step index trail segment).halted = false →
      trail.slots.size < (step index trail segment).slots.size)
    {count first : Nat} {trail : Trail}
    (runs : (passes (fun index trail => segments.foldl (step index) trail) count first
      (segments.foldl (step 0) trail)).halted = false) :
    trail.slots.size < (passes (fun index trail => segments.foldl (step index) trail) count first
      (segments.foldl (step 0) trail)).slots.size := by
  obtain ⟨segment, member, grows⟩ := asks
  have later := reaches_passes
    (fun index trail => reaches_foldl (reaches index) segments trail) count first
    (segments.foldl (step 0) trail)
  have entered := lt_foldl (reaches 0) ⟨segment, member, grows 0⟩ (later.running runs)
  exact Nat.lt_of_lt_of_le entered later.size_le

/-- A loop whose passes ask for values asks for one, unless it makes no pass or halts. -/
theorem runLoop_asks {outline : Outline} {loop : Loop} {segments : List Segment}
    {step : Nat → Trail → Segment → Trail}
    (reaches : ∀ index trail segment, Trail.Reaches answers trail (step index trail segment))
    (asks : ∃ segment ∈ segments, ∀ index trail, (step index trail segment).halted = false →
      trail.slots.size < (step index trail segment).slots.size)
    {trail : Trail} (runs : (runLoop outline loop segments step trail).halted = false) :
    trail.slots.size < (runLoop outline loop segments step trail).slots.size ∨
      runLoop outline loop segments step trail = trail ∧
        outline.count loop trail.names = .ok 0 ∧ loop.kind ≠ .bodyFirst := by
  have rounds : ∀ count first trail, Trail.Reaches answers trail
      (passes (fun index trail => segments.foldl (step index) trail) count first trail) :=
    reaches_passes fun index trail => reaches_foldl (reaches index) segments trail
  have nonempty : segments.isEmpty = false := by
    obtain ⟨segment, member, _⟩ := asks
    exact List.isEmpty_eq_false_iff.mpr (List.ne_nil_of_mem member)
  rw [runLoop_eq_loopWith] at runs ⊢
  simp only [nonempty, Bool.false_eq_true, if_false] at runs ⊢
  generalize lateName? loop segments trail = late? at runs ⊢
  -- A count that is known on entry may be zero; one that is read in the body comes with a pass.
  cases late? with
  | none =>
      simp only [loopWith, Outline.counted] at runs ⊢
      generalize counted : outline.count loop trail.names = count? at runs ⊢
      cases count? with
      | error reason => cases (halted_halt trail reason).symm.trans runs
      | ok count =>
          dsimp only at runs ⊢
          cases enough : max count loop.fewest with
          | zero =>
              obtain ⟨rfl, noPass⟩ := Nat.max_eq_zero_iff.mp enough
              refine Or.inr ⟨rfl, rfl, fun bodyFirst => ?_⟩
              rw [Loop.fewest, if_pos bodyFirst] at noPass
              cases noPass
          | succ more =>
              rw [enough] at runs
              have running : trail.halted = false := (rounds (more + 1) 0 trail).running runs
              simp only [passes, running, Bool.false_eq_true, if_false] at runs ⊢
              exact Or.inl (lt_passes reaches asks runs)
  | some name =>
      let front := segments.takeWhile fun segment => !segment.reads name
      let back := segments.drop front.length
      have first : (back.drop 1).foldl (step 0) ((front ++ back.take 1).foldl (step 0) trail) =
          segments.foldl (step 0) trail := by
        rw [← List.foldl_append]
        exact congrArg (List.foldl (step 0) trail) (front_append_back _ segments)
      simp only [loopWith, Outline.counted] at runs ⊢
      generalize outline.count loop _ = count? at runs ⊢
      cases count? with
      | error reason => cases (halted_halt _ reason).symm.trans runs
      | ok count =>
          dsimp only at runs ⊢
          rw [first] at runs ⊢
          exact Or.inl (lt_passes reaches asks runs)

/-- In the body of the main loop the nested loop stands only if it asks for something. -/
theorem inner_ne_nil {body : Span} {nested? : Option Loop} {inside inner : List Prompt}
    {loop : Loop} (member : Segment.nested loop inner ∈ segments body nested? inside) : inner ≠ [] := by
  unfold segments at member
  split at member
  · simp at member
  · rename_i nested
    simp only [drop_length_takeWhile] at member
    split at member
    · simp at member
    · rename_i entered
      -- The part behind the sites in front of the nested loop opens with one of its own.
      obtain ⟨first, rest, behind⟩ := List.exists_cons_of_ne_nil (mt List.isEmpty_iff.mpr entered)
      have stopped := List.head_dropWhile_not _ (mt List.isEmpty_iff.mpr entered)
      simp only [behind, List.head_cons, Bool.not_eq_false'] at stopped
      rw [behind] at member
      simp only [List.mem_append, List.mem_map, reduceCtorEq, and_false, exists_false, false_or,
        or_false, List.mem_singleton, Segment.nested.injEq] at member
      rw [member.2]
      exact List.ne_nil_of_mem (List.mem_filter.mpr ⟨List.mem_cons_self, stopped⟩)

/-- A body that asks for no value directly is empty or consists of the nested loop alone. -/
theorem segments_of_no_ask {body : Span} {nested? : Option Loop} {inside : List Prompt}
    (noAsk : ∀ prompt, Segment.ask prompt ∉ segments body nested? inside) :
    segments body nested? inside = [] ∨
      ∃ nested inner, nested? = some nested ∧
        segments body nested? inside = [.nested nested inner] := by
  have noPrompts : ∀ {prompts : List Prompt},
      (∀ prompt, Segment.ask prompt ∉ prompts.map Segment.ask) → prompts = [] := by
    intro prompts none
    exact List.eq_nil_iff_forall_not_mem.mpr fun prompt member =>
      none prompt (List.mem_map_of_mem member)
  unfold segments at noAsk ⊢
  cases nested? with
  | none =>
      rw [noPrompts noAsk]
      exact Or.inl rfl
  | some nested =>
      dsimp only at noAsk ⊢
      split at noAsk
      · rename_i empty
        rw [if_pos empty, noPrompts noAsk]
        exact Or.inl rfl
      · rename_i entered
        rw [if_neg entered]
        simp only [List.mem_append, not_or] at noAsk
        rw [noPrompts fun prompt => (noAsk prompt).2, noPrompts fun prompt => (noAsk prompt).1.1]
        exact Or.inr ⟨nested, _, rfl, rfl⟩

def innerStep (answers : List Text) (outer inner : Nat) (trail : Trail) : Segment → Trail
  | .ask prompt => trail.ask answers (some ⟨outer, some inner⟩) prompt
  | .nested .. => trail

theorem reaches_innerStep (outer inner : Nat) (trail : Trail) (segment : Segment) :
    Trail.Reaches answers trail (innerStep answers outer inner trail segment) := by
  cases segment with
  | ask prompt => exact .ask _ prompt .refl
  | nested loop prompts => exact .refl

theorem runNested_of_body {outline : Outline} {outer : Nat} {loop : Loop} {prompts : List Prompt}
    (delimited : ¬ loop.body?.isNone = true) (trail : Trail) :
    runNested outline answers outer loop prompts trail =
      runLoop outline loop (prompts.map .ask) (innerStep answers outer) trail := by
  rw [runNested, if_neg delimited]
  congr 1

theorem exists_innerStep {prompts : List Prompt} (nonempty : prompts ≠ []) (outer : Nat) :
    ∃ segment ∈ prompts.map Segment.ask, ∀ inner trail,
      (innerStep answers outer inner trail segment).halted = false →
      trail.slots.size < (innerStep answers outer inner trail segment).slots.size := by
  obtain ⟨prompt, more, rfl⟩ := List.exists_cons_of_ne_nil nonempty
  exact ⟨.ask prompt, List.mem_cons_self, fun inner trail => lt_of_ask⟩

/-- The nested loop asks for a value in a pass of the main loop, unless it makes no pass or
halts. -/
theorem runNested_asks {outline : Outline} {outer : Nat} {loop : Loop} {prompts : List Prompt}
    (nonempty : prompts ≠ []) {trail : Trail}
    (runs : (runNested outline answers outer loop prompts trail).halted = false) :
    trail.slots.size < (runNested outline answers outer loop prompts trail).slots.size ∨
      runNested outline answers outer loop prompts trail = trail ∧
        outline.count loop trail.names = .ok 0 ∧ loop.kind ≠ .bodyFirst := by
  by_cases delimited : loop.body?.isNone = true
  · rw [runNested, if_pos delimited, halted_halt] at runs
    cases runs
  · rw [runNested_of_body delimited] at runs ⊢
    exact runLoop_asks (reaches_innerStep outer) (exists_innerStep nonempty outer) runs

/-- What the nested loop notes are passes of its own, each of which asks for a value. -/
theorem leads_runNested (outline : Outline) (outer : Nat) (loop : Loop) {prompts : List Prompt}
    (nonempty : prompts ≠ []) (journal : Journal) :
    Journal.Leads answers (fun pass => pass.isNested = true ∧ pass.asks = true) journal
      (Journal.runNested outline answers outer loop prompts journal) := by
  unfold Journal.runNested
  split
  · exact .act journal (.halt .openEnded (by simp) .refl)
  · have quiet : ∀ inner (journal : Journal), ∀ segment ∈ prompts.map Segment.ask,
        Journal.Leads answers (fun _ => False) journal
          (Journal.runInner answers outer inner journal segment) := by
      intro inner journal segment _
      cases segment with
      | ask prompt =>
          change Journal.Leads answers _ journal
            (journal.act fun trail => trail.ask answers (some ⟨outer, some inner⟩) prompt)
          exact .act journal (.ask _ prompt .refl)
      | nested loop prompts => exact .refl journal
    have walks : ∀ inner (journal : Journal) segment,
        (Journal.runInner answers outer inner journal segment).trail =
          innerStep answers outer inner journal.trail segment := by
      intro inner journal segment
      cases segment <;> rfl
    refine (Journal.Leads.runLoop quiet (fun _ _ => False.elim) (fun inner journal runs => ?_)
      journal).weaken fun pass noted => noted.resolve_left id
    rw [Journal.trail_foldl (walks inner)] at runs ⊢
    obtain ⟨segment, member, grows⟩ := exists_innerStep nonempty outer
    exact ⟨rfl, decide_eq_true
      (lt_foldl (reaches_innerStep outer inner) ⟨segment, member, grows inner⟩ runs)⟩

end Progress

/-- A pass over the body of the main loop that leaves the trail as it was: the body consists of the
nested loop alone, and that makes no pass by what is known in front of it. -/
def Pass.IsIdle (outline : Outline) (body : Span) (prompts : List Prompt) (pass : Pass) : Prop :=
  pass.isNested = false ∧ pass.after = pass.before ∧
    ∃ nested inner, outline.nestedLoop? = some nested ∧
      outline.bodySegments body prompts = [.nested nested inner] ∧
      outline.count nested pass.before.names = .ok 0 ∧ nested.kind ≠ .bodyFirst

section Passes

variable {answers : List Text} (outline : Outline) (mainLoop : Loop) (body : Span)
  (prompts : List Prompt)

/-- A completed pass over the body of the main loop asks for a value or is idle. -/
theorem asks_or_isIdle {outer : Nat} {trail : Trail}
    (nonempty : outline.bodySegments body prompts ≠ [])
    (runs : ((outline.bodySegments body prompts).foldl (runSegment outline answers outer)
      trail).halted = false) :
    (Pass.mk ⟨outer, none⟩ trail ((outline.bodySegments body prompts).foldl
        (runSegment outline answers outer) trail)).asks = true ∨
      (Pass.mk ⟨outer, none⟩ trail ((outline.bodySegments body prompts).foldl
        (runSegment outline answers outer) trail)).IsIdle outline body prompts := by
  by_cases direct : ∃ prompt, Segment.ask prompt ∈ outline.bodySegments body prompts
  · obtain ⟨prompt, member⟩ := direct
    exact Or.inl (decide_eq_true (lt_foldl (reaches_runSegment outline outer)
      ⟨.ask prompt, member, fun trail => lt_of_ask⟩ runs))
  · rcases segments_of_no_ask (not_exists.mp direct) with empty | ⟨nested, inner, found, alone⟩
    · exact absurd empty nonempty
    · have noted : Segment.nested nested inner ∈ outline.bodySegments body prompts := by
        rw [Outline.bodySegments, alone]
        exact List.mem_singleton_self _
      have single : outline.bodySegments body prompts = [.nested nested inner] := alone
      rw [single] at runs ⊢
      rcases runNested_asks (inner_ne_nil noted) runs with grows | ⟨rests, noPass, notBodyFirst⟩
      · exact Or.inl (decide_eq_true grows)
      · exact Or.inr ⟨rfl, rests, nested, inner, found, single, noPass, notBodyFirst⟩

/-- What the main loop notes. -/
theorem leads_main (journal : Journal) :
    Journal.Leads answers (fun pass => pass.asks = true ∨ pass.IsIdle outline body prompts) journal
      (Journal.runLoop outline mainLoop (outline.bodySegments body prompts)
        (fun outer => ⟨outer, none⟩) (Journal.runSegment outline answers) journal) := by
  by_cases empty : outline.bodySegments body prompts = []
  · rw [empty]
    exact .refl journal
  · have inner : ∀ outer (journal : Journal), ∀ segment ∈ outline.bodySegments body prompts,
        Journal.Leads answers (fun pass => pass.isNested = true ∧ pass.asks = true) journal
          (Journal.runSegment outline answers outer journal segment) := by
      intro outer journal segment member
      cases segment with
      | ask prompt =>
          change Journal.Leads answers _ journal
            (journal.act fun trail => trail.ask answers (some ⟨outer, none⟩) prompt)
          exact .act journal (.ask _ prompt .refl)
      | nested loop prompts =>
          exact leads_runNested outline outer loop (inner_ne_nil member) journal
    have sound : ∀ outer (journal : Journal),
        ((outline.bodySegments body prompts).foldl
          (Journal.runSegment outline answers outer) journal).trail.halted = false →
        (fun pass : Pass => pass.asks = true ∨ pass.IsIdle outline body prompts)
          ⟨⟨outer, none⟩, journal.trail, ((outline.bodySegments body prompts).foldl
            (Journal.runSegment outline answers outer) journal).trail⟩ := by
      intro outer journal runs
      rw [Journal.trail_foldl (Journal.trail_runSegment outline answers outer)] at runs ⊢
      exact asks_or_isIdle outline body prompts empty runs
    have apart : ∀ (outer : Nat) (pass : Pass), pass.isNested = true ∧ pass.asks = true →
        pass.isNested ≠ (none : Option Nat).isSome := by
      rintro outer pass ⟨nested, _⟩
      rw [nested]
      exact Bool.noConfusion
    exact (Journal.Leads.runLoop inner apart sound journal).weaken fun pass noted =>
      noted.elim (fun nested => Or.inl nested.2) id

/-- An idle pass over the body of the outline's main loop. -/
def Outline.Idles (pass : Pass) : Prop :=
  ∃ mainLoop body, outline.mainLoop? = some mainLoop ∧ mainLoop.body? = some body ∧
    pass.IsIdle outline body prompts

/-- A journal starts without passes, in front of the main loop. -/
theorem leads_journal (answers : List Text) :
    ∃ start : Journal, start.passes = [] ∧
      Journal.Leads answers (fun pass => pass.asks = true ∨ outline.Idles prompts pass) start
        (outline.journal prompts answers) := by
  unfold Outline.journal
  cases found : outline.mainLoop? with
  | none => exact ⟨_, rfl, .refl _⟩
  | some mainLoop =>
      dsimp only
      cases delimited : mainLoop.body? with
      | none => exact ⟨_, rfl, .refl _⟩
      | some body =>
          dsimp only
          refine ⟨⟨_, []⟩, rfl, ((leads_main outline mainLoop body prompts _).weaken ?_).trans
            (.act _ (reaches_straightTrail _ _))⟩
          exact fun pass => Or.imp_right fun idle => ⟨mainLoop, body, found, delimited, idle⟩

end Passes

namespace Outline

/-- A journal walks as the plan does.  Each pass that it completes asks for a value, but those over
the body of the main loop that consists of the nested loop alone, while that makes no pass: they
leave the trail as it was.  So there are no more passes over the body of the nested loop than values are
planned, and no more of the others that ask for one. -/
theorem passes_ask (outline : Outline) (prompts : List Prompt) (answers : List Text) :
    (outline.journal prompts answers).trail = outline.trail prompts answers ∧
      (∀ pass ∈ (outline.journal prompts answers).passes,
        pass.before.slots.size < pass.after.slots.size ∨ outline.Idles prompts pass) ∧
      (outline.journal prompts answers).passes.countP Pass.isNested ≤ maxSlots ∧
      (outline.journal prompts answers).passes.countP
        (fun pass => !pass.isNested && pass.asks) ≤ maxSlots := by
  obtain ⟨start, fresh, leads⟩ := leads_journal outline prompts answers
  obtain ⟨reaches, passes, split, noted, few⟩ := leads
  rw [fresh, List.append_nil] at split
  have atMost : ∀ nested, asking nested (outline.journal prompts answers).passes ≤ maxSlots := by
    intro nested
    have asked := few nested
    have planned := (@reaches_trail answers outline prompts).size_le_maxSlots
      (Nat.zero_le _)
    rw [trail_journal] at asked
    rw [split]
    omega
  refine ⟨trail_journal outline prompts answers, ?_, ?_, ?_⟩
  · intro pass member
    rw [split] at member
    exact (noted pass member).imp_left of_decide_eq_true
  · refine (List.countP_mono_left fun pass member nested => ?_).trans (atMost true)
    rw [split] at member
    rcases noted pass member with asks | ⟨_, _, _, _, notNested, _⟩
    · rw [nested, asks]
      rfl
    · rw [notNested] at nested
      cases nested
  · refine (List.countP_mono_left fun pass _ asks => ?_).trans (atMost false)
    simpa using asks

end Outline

/-! ## Idle passes -/

namespace Journal

/-- Rounds that change nothing but to note themselves are all made. -/
theorem rounds_idle {round : Nat → Journal → Journal} {trail : Trail}
    (running : trail.halted = false)
    (idles : ∀ index passes,
      round index ⟨trail, passes⟩ = ⟨trail, ⟨⟨index, none⟩, trail, trail⟩ :: passes⟩)
    (count first : Nat) (passes : List Pass) :
    ∃ noted, rounds round count first ⟨trail, passes⟩ = ⟨trail, noted ++ passes⟩ ∧
      noted.length = count ∧ ∀ pass ∈ noted, pass.isNested = false ∧ pass.asks = false := by
  induction count generalizing first passes with
  | zero => exact ⟨[], rfl, rfl, by simp⟩
  | succ count inductionHypothesis =>
      obtain ⟨noted, left, length, idle⟩ := inductionHypothesis (first + 1)
        (⟨⟨first, none⟩, trail, trail⟩ :: passes)
      refine ⟨noted ++ [⟨⟨first, none⟩, trail, trail⟩], ?_, ?_, ?_⟩
      · rw [rounds]
        simp only [running, Bool.false_eq_true, if_false]
        rw [idles, left, List.append_assoc]
        rfl
      · rw [List.length_append, length]
        rfl
      · intro pass member
        rcases List.mem_append.mp member with later | here
        · exact idle pass later
        · rw [List.mem_singleton.mp here]
          exact ⟨rfl, decide_eq_false (Nat.lt_irrefl _)⟩

/-- A main loop whose body is a nested loop that makes no pass makes all its passes, however many
these are, and asks for nothing. -/
theorem runLoop_idle {outline : Outline} {answers : List Text} {mainLoop nested : Loop}
    {inner : List Prompt} {trail : Trail} {count : Nat} (running : trail.halted = false)
    (counted : outline.count mainLoop trail.names = .ok count)
    (entered : mainLoop.kind ≠ .bodyFirst)
    (delimited : nested.body?.isNone = false) (noPass : outline.count nested trail.names = .ok 0)
    (notBodyFirst : nested.kind ≠ .bodyFirst)
    (known : lateName? nested (inner.map .ask) trail = none) (passes : List Pass) :
    ∃ noted, runLoop outline mainLoop [.nested nested inner] (fun outer => ⟨outer, none⟩)
        (runSegment outline answers) ⟨trail, passes⟩ = ⟨trail, noted ++ passes⟩ ∧
      noted.length = count ∧ ∀ pass ∈ noted, pass.isNested = false ∧ pass.asks = false := by
  have noFewest : ∀ {loop : Loop}, loop.kind ≠ .bodyFirst → loop.fewest = 0 :=
    fun notBodyFirst => by rw [Loop.fewest, if_neg notBodyFirst]
  have rests : ∀ outer passes, runNested outline answers outer nested inner ⟨trail, passes⟩ =
      ⟨trail, passes⟩ := by
    intro outer passes
    simp only [runNested, delimited, Bool.false_eq_true, if_false, runLoop, known, Journal.counted,
      noPass, noFewest notBodyFirst, Nat.max_self, rounds, ite_self]
  have round : ∀ index passes, note ⟨index, none⟩ trail
      ([Segment.nested nested inner].foldl (runSegment outline answers index) ⟨trail, passes⟩) =
        ⟨trail, ⟨⟨index, none⟩, trail, trail⟩ :: passes⟩ := by
    intro index passes
    rw [List.foldl_cons, List.foldl_nil, runSegment, rests, note]
    simp only [running, Bool.false_eq_true, if_false]
  have noLate : lateName? mainLoop [.nested nested inner] trail = none := by
    unfold lateName?
    split <;> simp [Segment.reads]
  simp only [runLoop, List.isEmpty_cons, Bool.false_eq_true, if_false, noLate, Journal.counted,
    counted, noFewest entered, Nat.max_zero]
  exact rounds_idle running round count 0 passes

end Journal

namespace Outline

/-- Reads `n` and `m`, then `x` in `n` passes of the main loop with `m` of the nested one in
each. -/
def emptyGrid : Outline :=
  ⟨some (loopCountedBy 'n' ⟨10, 15⟩ ⟨15, 60⟩), some (loopCountedBy 'm' ⟨20, 25⟩ ⟨25, 50⟩), [], []⟩

def emptyGridPrompts : List Prompt :=
  [promptAt 0 'n' false, promptAt 2 'm' false, promptAt 30 'x' true]

/-- With nought for `m` all passes over the body of the main loop are idle, and twice as many of
them are completed as values are planned. -/
theorem emptyGrid_passes :
    (emptyGrid.journal emptyGridPrompts ["2000".toList, ['0']]).passes.countP
        (fun pass => !pass.isNested && !pass.asks) = 2 * maxSlots ∧
      (emptyGrid.plan emptyGridPrompts ["2000".toList, ['0']]).size = 2 ∧
      (emptyGrid.plan emptyGridPrompts ["2000".toList, ['0']]).isComplete = true := by
  let answers := ["2000".toList, ['0']]
  let entered := straightTrail answers [promptAt 0 'n' false, promptAt 2 'm' false] Trail.empty
  have idle := @Journal.runLoop_idle emptyGrid answers (loopCountedBy 'n' ⟨10, 15⟩ ⟨15, 60⟩)
    (loopCountedBy 'm' ⟨20, 25⟩ ⟨25, 50⟩) [promptAt 30 'x' true] entered 2000 (by decide)
    (by decide +kernel) (by decide) rfl (by decide +kernel) (by decide) (by decide) []
  obtain ⟨noted, left, length, idles⟩ := idle
  have journal : emptyGrid.journal emptyGridPrompts answers = ⟨entered, noted⟩ := by
    rw [List.append_nil] at left
    exact congrArg (Journal.act (straightTrail answers [])) left
  have trail : emptyGrid.trail emptyGridPrompts answers = entered := by
    rw [← trail_journal, journal]
  refine ⟨?_, ?_, ?_⟩
  · rw [journal, List.countP_eq_length.mpr, length]
    · rfl
    · intro pass member
      rw [(idles pass member).1, (idles pass member).2]
      rfl
  · rw [plan, trail]
    rfl
  · rw [plan, trail]
    rfl

end Outline

end InputDemand

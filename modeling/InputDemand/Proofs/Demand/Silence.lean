import InputDemand.Demand.Analysis
import InputDemand.Proofs.Source.Calls

/-!
# Plans do not look at prompts

A walk through a program asks for values in the places where they are read; what the questions say
makes no difference to it.  Leaving out all texts, before the walk or behind it, comes to the same.
-/

namespace InputDemand

/-- A site without the prompt that its call carries. -/
def PlacedSite.bare (site : PlacedSite) : PlacedSite :=
  { site with inline? := none }

def Outline.bare (outline : Outline) : Outline :=
  { outline with sites := outline.sites.map PlacedSite.bare }

/-- A prompt of which only its site is left. -/
def Prompt.silent (prompt : Prompt) : Prompt :=
  ⟨[], prompt.site.bare, false⟩

def Slot.silent (slot : Slot) : Slot :=
  { slot with prompt := slot.prompt.silent }

def Plan.silent (plan : Plan) : Plan :=
  { plan with slots := plan.slots.map Slot.silent }

def Trail.silent (trail : Trail) : Trail :=
  { trail with slots := trail.slots.map Slot.silent }

def Segment.silent : Segment → Segment
  | ask prompt => ask prompt.silent
  | nested loop prompts => nested loop (prompts.map Prompt.silent)

variable {outline : Outline} {answers : List Text} {loop : Loop} {trail : Trail}

/-! ## Single steps -/

@[simp]
theorem Trail.halted_silent (trail : Trail) : trail.silent.halted = trail.halted := rfl

@[simp]
theorem Trail.size_slots_silent (trail : Trail) : trail.silent.slots.size = trail.slots.size :=
  Array.size_map

@[simp]
theorem Trail.silent_empty : Trail.empty.silent = Trail.empty := by
  simp [silent, empty]

theorem Trail.silent_halt (trail : Trail) (reason : Halt) :
    (trail.halt reason).silent = trail.silent.halt reason := by
  by_cases halted : trail.halted = true
  · rw [halt, halt, halted_silent, if_pos halted, if_pos halted]
  · rw [halt, halt, halted_silent, if_neg halted, if_neg halted]
    rfl

theorem Trail.silent_ask (answers : List Text) (iteration? : Option Iteration) (trail : Trail)
    (prompt : Prompt) :
    (trail.ask answers iteration? prompt).silent =
      trail.silent.ask answers iteration? prompt.silent := by
  have names : trail.silent.namesAfter answers prompt.silent = trail.namesAfter answers prompt := by
    simp only [namesAfter, size_slots_silent]
    rfl
  simp only [ask, halted_silent, size_slots_silent, names]
  split
  · rfl
  · split
    · exact trail.silent_halt .openEnded
    · simp [silent, Slot.silent]

@[simp]
theorem Segment.reads_silent (name : Text) (segment : Segment) :
    segment.silent.reads name = segment.reads name := by
  cases segment <;> rfl

theorem silent_foldl {Item Item' : Type} {quiet : Item → Item'} {step : Trail → Item → Trail}
    {step' : Trail → Item' → Trail}
    (silent : ∀ trail item, (step trail item).silent = step' trail.silent (quiet item))
    (items : List Item) (trail : Trail) :
    (items.foldl step trail).silent = (items.map quiet).foldl step' trail.silent := by
  rw [List.foldl_map]
  exact (List.foldl_hom Trail.silent fun trail item => (silent trail item).symm).symm

/-! ## Loops -/

theorem silent_passes {pass pass' : Nat → Trail → Trail}
    (silent : ∀ index trail, (pass index trail).silent = pass' index trail.silent)
    (count first : Nat) (trail : Trail) :
    (passes pass count first trail).silent = passes pass' count first trail.silent := by
  induction count generalizing first trail with
  | zero => rfl
  | succ count inductionHypothesis =>
      by_cases halted : trail.halted = true
      · simp [passes, halted]
      · simp [passes, halted, inductionHypothesis, silent]

theorem silent_counted {goOn goOn' : Nat → Trail → Trail}
    (silent : ∀ count trail, (goOn count trail).silent = goOn' count trail.silent)
    (outline : Outline) (loop : Loop) (trail : Trail) :
    (outline.counted loop goOn trail).silent = outline.bare.counted loop goOn' trail.silent := by
  have counts : outline.bare.count loop trail.silent.names = outline.count loop trail.names := rfl
  simp only [Outline.counted, counts]
  split
  · exact trail.silent_halt _
  · exact silent _ trail

theorem lateName?_silent (loop : Loop) (segments : List Segment) (trail : Trail) :
    lateName? loop (segments.map Segment.silent) trail.silent = lateName? loop segments trail := by
  have reads : ∀ name, ((segments.map Segment.silent).any fun segment => segment.reads name) =
      segments.any fun segment => segment.reads name := by
    intro name
    rw [List.any_map]
    exact congrArg segments.any (funext fun segment => segment.reads_silent name)
  unfold lateName?
  split
  · rw [reads]
    rfl
  · rfl

theorem silent_runLoop {run run' : Nat → Trail → Segment → Trail}
    (silent : ∀ index trail segment,
      (run index trail segment).silent = run' index trail.silent segment.silent)
    (outline : Outline) (loop : Loop) (segments : List Segment) (trail : Trail) :
    (runLoop outline loop segments run trail).silent =
      runLoop outline.bare loop (segments.map Segment.silent) run' trail.silent := by
  have pass : ∀ (parts : List Segment) (index : Nat) (trail : Trail),
      (parts.foldl (run index) trail).silent =
        (parts.map Segment.silent).foldl (run' index) trail.silent :=
    fun parts index trail => silent_foldl (silent index) parts trail
  have rounds : ∀ (count first : Nat) (trail : Trail),
      (passes (fun index trail => segments.foldl (run index) trail) count first trail).silent =
        passes (fun index trail => (segments.map Segment.silent).foldl (run' index) trail) count
          first trail.silent :=
    silent_passes (pass segments)
  simp only [runLoop, lateName?_silent, List.isEmpty_map]
  split
  · rfl
  · split
    · exact silent_counted (fun count trail => rounds (max count loop.fewest) 0 trail) outline
        loop trail
    · rename_i name _
      have front : ((segments.map Segment.silent).takeWhile fun segment => !segment.reads name) =
          (segments.takeWhile fun segment => !segment.reads name).map Segment.silent := by
        rw [List.takeWhile_map]
        congr 2
        funext segment
        exact congrArg Bool.not (segment.reads_silent name)
      simp only [front, List.length_map, ← List.map_drop, ← List.map_take, ← List.map_append,
        ← pass]
      refine silent_counted (fun count read => ?_) _ _ _
      rw [rounds, pass]

theorem map_ask_silent (prompts : List Prompt) :
    (prompts.map Segment.ask).map Segment.silent = (prompts.map Prompt.silent).map Segment.ask := by
  rw [List.map_map, List.map_map]
  rfl

theorem silent_runSegment (outline : Outline) (answers : List Text) (outer : Nat) (trail : Trail)
    (segment : Segment) :
    (runSegment outline answers outer trail segment).silent =
      runSegment outline.bare answers outer trail.silent segment.silent := by
  cases segment with
  | ask prompt => exact trail.silent_ask answers _ prompt
  | nested loop prompts =>
      simp only [runSegment, Segment.silent, runNested]
      split
      · exact trail.silent_halt .openEnded
      · rw [← map_ask_silent]
        refine silent_runLoop ?_ outline loop _ trail
        intro inner trail segment
        cases segment with
        | ask prompt => exact trail.silent_ask answers _ prompt
        | nested loop prompts => rfl

/-- What the questions say makes no difference to how a body is taken apart. -/
theorem map_silent_segments (body : Span) (nested? : Option Loop) (inside : List Prompt) :
    (segments body nested? inside).map Segment.silent =
      segments body nested? (inside.map Prompt.silent) := by
  unfold segments
  split
  · exact map_ask_silent inside
  · rename_i nested
    have front : ∀ test : Nat → Bool,
        ((inside.map Prompt.silent).takeWhile fun prompt => test prompt.site.start) =
          (inside.takeWhile fun prompt => test prompt.site.start).map Prompt.silent :=
      fun test => List.takeWhile_map ..
    have kept : ∀ (test : Nat → Bool) (prompts : List Prompt),
        ((prompts.map Prompt.silent).filter fun prompt => test prompt.site.start) =
          (prompts.filter fun prompt => test prompt.site.start).map Prompt.silent :=
      fun test prompts => List.filter_map ..
    have ahead := front fun offset => !(nestedRegion body nested).contains offset
    have within := kept fun offset => (nestedRegion body nested).contains offset
    have behind := kept fun offset => !(nestedRegion body nested).contains offset
    simp only [ahead, List.length_map, ← List.map_drop, List.isEmpty_map, within, behind]
    split
    · exact map_ask_silent _
    · rw [List.map_append, List.map_append, map_ask_silent, map_ask_silent]
      rfl

/-! ## The whole way -/

theorem silent_straightTrail (answers : List Text) (prompts : List Prompt) (trail : Trail) :
    (Outline.straightTrail answers prompts trail).silent =
      Outline.straightTrail answers (prompts.map Prompt.silent) trail.silent :=
  silent_foldl (Trail.silent_ask answers none) prompts trail

namespace Outline

theorem silent_cutTrail (answers : List Text) (header : Span) (prompts : List Prompt) :
    (cutTrail answers header prompts).silent =
      cutTrail answers header (prompts.map Prompt.silent) := by
  have certain : ((prompts.map Prompt.silent).takeWhile fun prompt =>
        prompt.site.start < header.start) =
      (prompts.takeWhile fun prompt => prompt.site.start < header.start).map Prompt.silent :=
    List.takeWhile_map ..
  have straight : ∀ prompts, (straightTrail answers prompts Trail.empty).silent =
      straightTrail answers (prompts.map Prompt.silent) Trail.empty := by
    intro prompts
    rw [silent_straightTrail, Trail.silent_empty]
  simp only [cutTrail, certain, List.length_map]
  split
  · rw [Trail.silent_halt, straight]
  · exact straight _

theorem silent_loopTrail (outline : Outline) (answers : List Text) (mainLoop : Loop) (body : Span)
    (prompts : List Prompt) :
    (outline.loopTrail answers mainLoop body prompts).silent =
      outline.bare.loopTrail answers mainLoop body (prompts.map Prompt.silent) := by
  have kept : ∀ (test : PlacedSite → Bool) (prompts : List Prompt),
      (∀ site, test site.bare = test site) →
        (prompts.map Prompt.silent).filter (fun prompt => test prompt.site) =
          (prompts.filter fun prompt => test prompt.site).map Prompt.silent := by
    intro test prompts blind
    rw [List.filter_map]
    congr 2
    funext prompt
    exact blind prompt.site
  have inside := kept (fun site => site.inLoop) prompts fun _ => rfl
  have outside := kept (fun site => !site.inLoop) prompts fun _ => rfl
  have before := fun prompts => kept (fun site => site.start < body.start) prompts fun _ => rfl
  have behind := fun prompts => kept (fun site => body.start ≤ site.start) prompts fun _ => rfl
  simp only [loopTrail, inside, outside, before, behind]
  rw [silent_straightTrail, silent_runLoop (silent_runSegment outline answers),
    silent_straightTrail, Trail.silent_empty, map_silent_segments]
  rfl

theorem silent_trail (outline : Outline) (prompts : List Prompt) (answers : List Text) :
    (outline.trail prompts answers).silent =
      outline.bare.trail (prompts.map Prompt.silent) answers := by
  have sameLoop : outline.bare.mainLoop? = outline.mainLoop? := rfl
  simp only [trail, sameLoop]
  split
  · rw [silent_straightTrail, Trail.silent_empty]
  · split
    · exact silent_cutTrail answers _ prompts
    · exact silent_loopTrail outline answers _ _ prompts

/-- Leaving out all texts before the walk or behind it comes to the same plan. -/
theorem silent_plan (outline : Outline) (prompts : List Prompt) (answers : List Text) :
    (outline.plan prompts answers).silent =
      outline.bare.plan (prompts.map Prompt.silent) answers := by
  simp only [plan, ← silent_trail]
  rfl

end Outline

/-! ## Prompts of sites -/

theorem map_silent_prompts (sites : List PlacedSite) (prints : List Print) :
    (prompts sites prints).map Prompt.silent =
      (sites.map PlacedSite.bare).map fun site => ⟨[], site, false⟩ := by
  unfold prompts
  generalize 1 = number
  induction sites generalizing number with
  | nil => rfl
  | cons site sites inductionHypothesis =>
      have here : (promptFor prints number site).silent = ⟨[], site.bare, false⟩ := by
        simp only [promptFor]
        split <;> rfl
      rw [promptsFrom, List.map_cons, inductionHypothesis, here]
      rfl

end InputDemand

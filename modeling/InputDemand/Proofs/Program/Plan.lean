import InputDemand.Proofs.Demand.Masking
import InputDemand.Proofs.Demand.OrderedPlan
import InputDemand.Proofs.Program.Outline
import InputDemand.Proofs.Text.Numerals

/-!
# What a counted program asks for

Before the bound is answered only the bound is asked for.  Then the program asks for the bound, for
the names inside in every pass, and for the names behind the loop.
-/

namespace InputDemand

/-! ## Numbers in decimal -/

theorem Text.signed?_trim_ofNat {number : Nat} (fits : (number : Int) ≤ maxSigned) :
    signed? (trim (ofNat number)) = some (number : Int) := by
  have visible : (ofNat number).all (fun letter => !isBlank letter) = true := by
    refine List.all_eq_true.mpr fun letter listed => ?_
    have passed : passedByNames (fun letter => !isBlank letter) = true := by decide +kernel
    exact test_of_isNameLetter passed (isNameLetter_of_isDigit (isDigit_of_mem_ofNat listed))
  have inside : fitsSigned number = true := by
    rw [fitsSigned, decide_eq_true fits, Bool.and_true, decide_eq_true_eq, minSigned]
    omega
  rw [trim_eq_self visible]
  exact signed?_ofInt inside

/-! ## Prompts around a body -/

/-- Some prompts in front of the body of the main loop, in it and behind it. -/
structure PromptsAround (body : Span) (first inside behind : List Prompt) : Prop where
  first : ∀ prompt ∈ first, prompt.site.inLoop = false ∧ prompt.site.start < body.start
  inside : ∀ prompt ∈ inside, prompt.site.inLoop = true
  behind : ∀ prompt ∈ behind, prompt.site.inLoop = false ∧ body.start ≤ prompt.site.start

section Around

variable {body : Span} {first inside behind : List Prompt} {outline : Outline}

theorem filter_middle {Item : Type} {test : Item → Bool} {front middle back : List Item}
    (before : ∀ item ∈ front, test item = false) (within : ∀ item ∈ middle, test item = true)
    (after : ∀ item ∈ back, test item = false) :
    (front ++ (middle ++ back)).filter test = middle := by
  have nothing : ∀ {items : List Item}, (∀ item ∈ items, test item = false) →
      items.filter test = [] := fun fails =>
    List.filter_eq_nil_iff.mpr fun item listed => by rw [fails item listed]; decide
  rw [List.filter_append, List.filter_append, nothing before, nothing after,
    List.filter_eq_self.mpr within, List.nil_append, List.append_nil]

namespace PromptsAround

theorem filter_before (around : PromptsAround body first inside behind) :
    (first ++ (inside ++ behind)).filter (fun prompt =>
      !prompt.site.inLoop && decide (prompt.site.start < body.start)) = first := by
  have front := @filter_middle Prompt (fun prompt =>
    !prompt.site.inLoop && decide (prompt.site.start < body.start)) [] first (inside ++ behind)
  refine front (fun _ member => nomatch member) ?_ ?_
  · intro prompt listed
    obtain ⟨outside, start⟩ := around.first prompt listed
    rw [outside, decide_eq_true start]
    rfl
  · intro prompt listed
    rcases List.mem_append.mp listed with listed | listed
    · rw [around.inside prompt listed]
      rfl
    · rw [decide_eq_false (Nat.not_lt.mpr (around.behind prompt listed).2), Bool.and_false]

theorem filter_inLoop (around : PromptsAround body first inside behind) :
    (first ++ (inside ++ behind)).filter (fun prompt => prompt.site.inLoop) = inside :=
  filter_middle (fun prompt listed => (around.first prompt listed).1) around.inside
    (fun prompt listed => (around.behind prompt listed).1)

theorem filter_behind (around : PromptsAround body first inside behind) :
    (first ++ (inside ++ behind)).filter (fun prompt =>
      !prompt.site.inLoop && decide (body.start ≤ prompt.site.start)) = behind := by
  have back := @filter_middle Prompt (fun prompt =>
    !prompt.site.inLoop && decide (body.start ≤ prompt.site.start)) (first ++ inside) behind []
  rw [List.append_nil, List.append_assoc] at back
  refine back ?_ ?_ (fun _ member => nomatch member)
  · intro prompt listed
    rcases List.mem_append.mp listed with listed | listed
    · rw [decide_eq_false (Nat.not_le.mpr (around.first prompt listed).2), Bool.and_false]
    · rw [around.inside prompt listed]
      rfl
  · intro prompt listed
    obtain ⟨outside, start⟩ := around.behind prompt listed
    rw [outside, decide_eq_true start]
    rfl

end PromptsAround

theorem mainPass_eq {isNested : Prompt → Bool} (silent : ∀ prompt, isNested prompt = false)
    (prompts : List Prompt) (repeats outer : Nat) :
    mainPass isNested prompts repeats outer = prompts.map (Prompt.slot (some ⟨outer, none⟩)) := by
  have nothing : prompts.filter isNested = [] :=
    List.filter_eq_nil_iff.mpr fun prompt _ => by rw [silent prompt]; decide
  have front : (prompts.takeWhile fun prompt => !isNested prompt) = prompts :=
    List.takeWhile_eq_self_iff.mpr fun prompt _ => by rw [silent prompt]; rfl
  have back : (prompts.dropWhile fun prompt => !isNested prompt) = [] :=
    List.dropWhile_eq_nil_iff.mpr fun prompt _ => by rw [silent prompt]; rfl
  have repeated : (List.range repeats).flatMap (nestedPass [] outer) = [] :=
    List.flatMap_eq_nil_iff.mpr fun _ _ => rfl
  rw [mainPass, nothing, front, back, repeated, List.filter_nil, List.map_nil, List.append_nil,
    List.append_nil]

/-- With no nested loop, the slots of all passes are those of the prompts inside. -/
theorem PromptsAround.slotsInOrder_eq (around : PromptsAround body first inside behind)
    (single : outline.nestedLoop? = none) (passes : Nat) (repeats : Nat → Nat) :
    outline.slotsInOrder body (first ++ (inside ++ behind)) passes repeats =
      first.map (Prompt.slot none) ++
        (List.range passes).flatMap (fun pass => inside.map (Prompt.slot (some ⟨pass, none⟩))) ++
          behind.map (Prompt.slot none) := by
  have silent : ∀ prompt, outline.isNested prompt = false := by
    intro prompt
    rw [Outline.isNested, inBody, single]
    rfl
  have pass : outline.slotsOfPass (first ++ (inside ++ behind)) repeats =
      fun pass => inside.map (Prompt.slot (some ⟨pass, none⟩)) := by
    funext outer
    rw [Outline.slotsOfPass, around.filter_inLoop, mainPass_eq silent]
  rw [Outline.slotsInOrder, Outline.slotsUpTo, Outline.slotsBefore, Outline.slotsBehind,
    around.filter_before, around.filter_behind, pass]

/-! ## The plan -/

section Plan

variable {loop : Loop} {asked : Prompt} {name : Text}

/-- An outline with a loop that counts by the value of a name, and with no nested loop. -/
structure CountsBy (outline : Outline) (loop : Loop) (body : Span) (name : Text) : Prop where
  main : outline.mainLoop? = some loop
  kind : loop.kind = .counter
  trip : loop.trip = ⟨.name name, 0, 1⟩
  body : loop.body? = some body
  nested : outline.nestedLoop? = none

theorem CountsBy.trail_eq (counts : CountsBy outline loop body name) (prompts : List Prompt)
    (answers : List Text) :
    outline.trail prompts answers = outline.loopTrail answers loop body prompts := by
  rw [Outline.trail, counts.main]
  simp only [counts.body]

theorem CountsBy.iterations (counts : CountsBy outline loop body name) {value : Nat}
    (fits : (value : Int) ≤ maxSigned) : loop.trip.iterations value = value := by
  have low : minSigned ≤ (value : Int) := by
    rw [minSigned]
    omega
  have clamped : min (max (value : Int) minSigned) maxSigned = value := by omega
  simp only [counts.trip, Trip.iterations, Int.add_zero, clamped, Int.toNat_natCast, max_self,
    Nat.add_sub_cancel, Nat.div_one]

theorem CountsBy.countsKnown (counts : CountsBy outline loop body name)
    (around : PromptsAround body [asked] inside behind) (target : asked.site.target? = some name)
    {value : Nat} (fits : (value : Int) ≤ maxSigned) (repeats : Nat → Nat) :
    outline.CountsKnown [Text.ofNat value] loop body ([asked] ++ (inside ++ behind)) value
      repeats := by
  constructor
  case main =>
    intro _
    have first : lastAsking? name ([asked].map (Prompt.slot none)) = some 0 := by
      rw [List.map_singleton, lastAsking?, lastAsking?, Slot.asks, Prompt.slot, target]
      simp
    have answered : integerAt? [Text.ofNat value] 0 = some (value : Int) :=
      Text.signed?_trim_ofNat fits
    have known := counts.iterations fits
    have fewest : loop.fewest = 0 := by
      rw [Loop.fewest, counts.kind]
      rfl
    rw [Outline.passCount?, counts.trip, Outline.slotsBefore, around.filter_before]
    simp only [first, answered, Option.map_some, fewest, Nat.max_zero]
    rw [← counts.trip, known]
  case nested =>
    intro nested isNested
    rw [counts.nested] at isNested
    cases isNested

theorem CountsBy.plan_answered (counts : CountsBy outline loop body name)
    (around : PromptsAround body [asked] inside behind) (target : asked.site.target? = some name)
    {value : Nat} (room : 1 + value * inside.length + behind.length ≤ maxSlots)
    (filled : inside ≠ []) :
    (outline.plan ([asked] ++ (inside ++ behind)) [Text.ofNat value]).slots.toList =
      asked.slot none :: (List.range value).flatMap (fun pass =>
        inside.map (Prompt.slot (some ⟨pass, none⟩))) ++ behind.map (Prompt.slot none) ∧
      (outline.plan ([asked] ++ (inside ++ behind)) [Text.ofNat value]).halt? = none := by
  -- Every pass asks for something, so a plan with room for all passes has a count that fits.
  have one : value ≤ value * inside.length :=
    Nat.le_mul_of_pos_right value (List.length_pos_iff.mpr filled)
  have fits : (value : Int) ≤ maxSigned := by
    rw [maxSlots] at room
    rw [maxSigned]
    omega
  have known := counts.countsKnown around target fits fun _ => 0
  have delimited : ∀ nested, outline.nestedLoop? = some nested → nested.body?.isSome = true := by
    intro nested isNested
    rw [counts.nested] at isNested
    cases isNested
  have followed := loopTrail_follow delimited known
  rw [around.slotsInOrder_eq counts.nested] at followed
  obtain ⟨slots, halt⟩ := Outline.lists_of_follow ((counts.trail_eq _ _).trans followed)
  have passed : ((List.range value).flatMap fun pass =>
      inside.map (Prompt.slot (some ⟨pass, none⟩))).length = value * inside.length := by
    simp [List.length_flatMap, List.map_const']
  have short : ([asked].map (Prompt.slot none) ++ (List.range value).flatMap (fun pass =>
      inside.map (Prompt.slot (some ⟨pass, none⟩))) ++ behind.map (Prompt.slot none)).length ≤
        maxSlots := by
    rw [List.length_append, List.length_append, passed, List.length_map, List.length_map]
    exact room
  rw [if_pos short] at halt
  rw [List.take_of_length_le short] at slots
  exact ⟨slots, halt⟩

theorem CountsBy.plan_unanswered (counts : CountsBy outline loop body name)
    (around : PromptsAround body [asked] inside behind) (target : asked.site.target? = some name)
    (filled : inside ≠ []) :
    outline.plan ([asked] ++ (inside ++ behind)) [] =
      ⟨#[asked.slot none], some (.pending name)⟩ := by
  -- Behind the first question the name waits for its answer, and the loop waits for the name.
  let entered : Trail := ⟨#[asked.slot none], [(name, .unanswered)], none⟩
  have enters : Outline.straightTrail [] [asked] Trail.empty = entered := by
    simp [Outline.straightTrail, Trail.ask, Trail.empty, Trail.halted, maxSlots, Trail.namesAfter,
      target, Reading.ofAnswer, Prompt.slot, entered]
  have asks : segments body none inside = inside.map Segment.ask := rfl
  have nonempty : (inside.map Segment.ask).isEmpty = false :=
    List.isEmpty_eq_false_iff.mpr fun empty => filled (List.map_eq_nil_iff.mp empty)
  have early : lateName? loop (inside.map Segment.ask) entered = none := by
    simp [lateName?, counts.trip, entered]
  have waits : outline.count loop entered.names = .error (.pending name) := by
    simp [Outline.count, counts.trip, entered]
  have stays : Outline.straightTrail [] behind (entered.halt (.pending name)) =
      entered.halt (.pending name) :=
    (reaches_straightTrail behind _).eq_of_halted rfl
  have before := around.filter_before
  have inLoop := around.filter_inLoop
  have after := around.filter_behind
  rw [Outline.plan, counts.trail_eq, Outline.loopTrail]
  simp only [List.filter_filter, Bool.and_comm, before, inLoop, after, enters, counts.nested, asks,
    runLoop, nonempty, early, Outline.counted, waits, Bool.false_eq_true, if_false, stays]
  rfl

end Plan

end Around

/-! ## Counted programs -/

/-- What a slot asks for, and in which iteration. -/
def Slot.asked (slot : Slot) : Option Text × Option Iteration :=
  (slot.prompt.site.target?, slot.iteration?)

theorem map_asked {prompts : List Prompt} {names : List Text}
    (targets : prompts.map (fun prompt => prompt.site.target?) = names.map some)
    (iteration? : Option Iteration) :
    (prompts.map (Prompt.slot iteration?)).map Slot.asked =
      names.map fun name => (some name, iteration?) := by
  have paired := congrArg (List.map fun target? => (target?, iteration?)) targets
  rw [List.map_map, List.map_map] at paired
  rw [List.map_map]
  exact paired

namespace CountedNames

def read (names : CountedNames) : List Text :=
  names.bound :: (names.inside ++ names.behind)

/-- What is asked for if the loop makes so many passes. -/
def asked (names : CountedNames) (passes : Nat) : List (Option Text × Option Iteration) :=
  (some names.bound, none) ::
    ((List.range passes).flatMap fun pass =>
      names.inside.map fun name => (some name, some ⟨pass, none⟩)) ++
    names.behind.map fun name => (some name, none)

end CountedNames

/-- An analysis of a program finds the lines that read, in order.  Its plan asks for the bound alone
before that is answered, and then for all values, if there is room for them. -/
structure Analysis.Counts (analysis : Analysis) (names : CountedNames) : Prop where
  targets : analysis.outline.sites.map (fun site => site.target?) = names.read.map some
  inOrder : analysis.outline.sites.Pairwise fun one other => one.start < other.start
  unanswered : (analysis.plan []).slots.toList.map Slot.asked = [(some names.bound, none)] ∧
    (analysis.plan []).halt? = some (.pending names.bound)
  answered : ∀ passes, 1 + passes * names.inside.length + names.behind.length ≤ maxSlots →
    (analysis.plan [Text.ofNat passes]).slots.toList.map Slot.asked = names.asked passes ∧
      (analysis.plan [Text.ofNat passes]).isComplete = true

namespace Language

variable {language : Language} {names : CountedNames}

theorem map_site_promptsFrom (prints : List Print) (number : Nat) (sites : List PlacedSite) :
    (promptsFrom prints number sites).map Prompt.site = sites := by
  induction sites generalizing number with
  | nil => rfl
  | cons site sites inductionHypothesis =>
      rw [promptsFrom, List.map_cons, inductionHypothesis]
      refine congrArg (· :: sites) ?_
      unfold promptFor
      simp only
      split <;> rfl

/-- The prompts of placed sites lie around the body as the sites do. -/
theorem exists_promptsAround {loop : Loop} {first inside behind : List Site}
    {prompts : List Prompt} (counted : language.IsCounted names loop)
    (parts : language.ReadInParts names first inside behind)
    (sites : prompts.map (fun prompt => prompt.site) =
      placeSites (some loop) none 0 (first ++ (inside ++ behind))) :
    ∃ asked inside behind, prompts = [asked] ++ (inside ++ behind) ∧
      PromptsAround (language.bodySpan names) [asked] inside behind ∧
      asked.site.target? = some names.bound ∧
      inside.map (fun prompt => prompt.site.target?) = names.inside.map some ∧
      behind.map (fun prompt => prompt.site.target?) = names.behind.map some := by
  have whole : prompts.map (fun prompt => prompt.site.toSite) = first ++ (inside ++ behind) := by
    have bare := congrArg (List.map PlacedSite.toSite) sites
    rwa [map_toSite_placeSites, List.map_map] at bare
  have inLoop : ∀ prompt ∈ prompts,
      prompt.site.inLoop = (language.bodySpan names).contains prompt.site.start := by
    intro prompt listed
    have placed : prompt.site ∈ placeSites (some loop) none 0 (first ++ (inside ++ behind)) :=
      sites ▸ List.mem_map_of_mem listed
    rw [(place_of_mem_placeSites placed).1, inBody_counted counted]
  obtain ⟨front, others, rfl, isFirst, rest⟩ := List.map_eq_append_iff.mp whole
  obtain ⟨middle, back, rfl, isInside, isBehind⟩ := List.map_eq_append_iff.mp rest
  subst isFirst isInside isBehind
  have around := parts.aroundBody
  have targets := parts.first.targets
  have targetsInside := parts.inside.targets
  have targetsBehind := parts.behind.targets
  rw [List.map_map] at targets targetsInside targetsBehind
  obtain ⟨asked, rfl, target⟩ := List.map_eq_singleton_iff.mp targets
  -- Whether a site is in the loop is told by where it starts.
  refine ⟨asked, middle, back, rfl, ⟨?_, ?_, ?_⟩, target, targetsInside, targetsBehind⟩
  · intro prompt listed
    have start : prompt.site.start < (language.bodySpan names).start :=
      around.first prompt.site.toSite (List.mem_map_of_mem listed)
    refine ⟨?_, start⟩
    rw [inLoop prompt (List.mem_append_left _ listed), Span.contains,
      decide_eq_false (Nat.not_le.mpr start)]
    rfl
  · intro prompt listed
    have within : (language.bodySpan names).start ≤ prompt.site.start ∧
        prompt.site.start < (language.bodySpan names).stop :=
      around.inside prompt.site.toSite (List.mem_map_of_mem listed)
    rw [inLoop prompt (List.mem_append_right _ (List.mem_append_left _ listed)), Span.contains,
      decide_eq_true within.1, decide_eq_true within.2]
    rfl
  · intro prompt listed
    have beyond : (language.bodySpan names).stop ≤ prompt.site.start :=
      around.behind prompt.site.toSite (List.mem_map_of_mem listed)
    have order : (language.bodySpan names).start ≤ (language.bodySpan names).stop :=
      Nat.le_add_right _ _
    refine ⟨?_, Nat.le_trans order beyond⟩
    rw [inLoop prompt (List.mem_append_right _ (List.mem_append_right _ listed)), Span.contains,
      decide_eq_false (Nat.not_lt.mpr beyond), Bool.and_false]

/-- Counted programs ask for what they read, as often as they read it. -/
theorem asks_countedProgram (language : Language) (names : CountedNames) (reads : language ≠ sql)
    (areNames : names.AreNames) (free : names.bound ∉ Linear.reserved)
    (filled : names.inside ≠ []) :
    ∃ analysis, analyze language (language.countedProgram names) = .ok analysis ∧
      analysis.Counts names := by
  obtain ⟨result, loop, first, inside, behind, outlined, main, counted, nested, sites, parts⟩ :=
    exists_outline reads areNames free filled
  -- Printing calls are searched for as well; whatever is found changes only the texts of prompts.
  have self : language.mask (language.countedProgram names) = _ := rfl
  obtain ⟨prints, _, printed, _⟩ := language.agree_prints self self
  refine ⟨_, analyze_eq outlined printed, ?_⟩
  have prompted : (prompts result.sites prints).map Prompt.site = result.sites :=
    map_site_promptsFrom prints 1 result.sites
  obtain ⟨asked, inner, outer, split, around, target, targetsInside, targetsBehind⟩ :=
    exists_promptsAround counted parts (prompted.trans sites)
  have counts : CountsBy result loop (language.bodySpan names) names.bound :=
    ⟨main, counted.kind, counted.trip, counted.body, nested⟩
  have asks : inner ≠ [] := by
    rintro rfl
    exact filled (List.map_eq_nil_iff.mp targetsInside.symm)
  have lengths : inner.length = names.inside.length ∧ outer.length = names.behind.length := by
    have inside' := congrArg List.length targetsInside
    have behind' := congrArg List.length targetsBehind
    rw [List.length_map, List.length_map] at inside' behind'
    exact ⟨inside', behind'⟩
  have bare : result.sites.map PlacedSite.toSite = first ++ (inside ++ behind) := by
    rw [sites, map_toSite_placeSites]
  have receive := parts.receive
  rw [← bare] at receive
  constructor
  case targets =>
    have targets := receive.targets
    rw [List.map_map] at targets
    exact targets
  case inOrder =>
    have ordered := receive.ordered
    rw [List.pairwise_map] at ordered
    exact ordered
  case unanswered =>
    have plan := counts.plan_unanswered around target asks
    rw [Analysis.plan, split, plan]
    exact ⟨congrArg (fun target? => [(target?, none)]) target, rfl⟩
  case answered =>
    intro passes room
    rw [← lengths.1, ← lengths.2] at room
    obtain ⟨slots, halt⟩ := counts.plan_answered around target room asks
    rw [Analysis.plan, split, slots, Plan.isComplete, halt]
    refine ⟨?_, rfl⟩
    rw [List.map_append, List.map_cons, List.map_flatMap, map_asked targetsBehind]
    simp only [map_asked targetsInside]
    exact congrArg (fun target? => (target?, none) :: _) target

/-- The names of a program that reads two values in every pass and one behind the loop. -/
def pairNames : CountedNames :=
  ⟨"n".toList, "i".toList, ["x".toList, "y".toList], ["last_one".toList]⟩

theorem asks_pairProgram : c ≠ sql ∧ pairNames.AreNames ∧ pairNames.bound ∉ Linear.reserved ∧
    pairNames.inside ≠ [] ∧
    ∃ analysis, analyze c (c.countedProgram pairNames) = .ok analysis ∧
      analysis.Counts pairNames := by
  have areNames : pairNames.AreNames := ⟨by decide, by decide, by decide, by decide⟩
  have free : pairNames.bound ∉ Linear.reserved := by decide
  have filled : pairNames.inside ≠ [] := by decide
  exact ⟨by decide, areNames, free, filled,
    asks_countedProgram c pairNames (by decide) areNames free filled⟩

end Language

end InputDemand

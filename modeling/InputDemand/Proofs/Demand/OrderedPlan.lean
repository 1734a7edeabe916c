import InputDemand.Proofs.Demand.Order
import Mathlib.Data.List.TakeWhile

/-!
# Plans list values in reading order

A loop whose count is known follows the slots of its passes, one list after the other.  This is
shown of any loop, given the slots of its segments; the nested loop is one case and the main loop,
whose segments hold the nested one, is the other.
-/

namespace InputDemand

open Trail

theorem drop_length_takeWhile {Item : Type} (keep : Item → Bool) (items : List Item) :
    items.drop (items.takeWhile keep).length = items.dropWhile keep := by
  induction items with
  | nil => rfl
  | cons item items inductionHypothesis =>
      by_cases kept : keep item = true
      · simp [kept, inductionHypothesis]
      · simp [kept]

theorem filter_dropWhile_not {Item : Type} (keep : Item → Bool) (items : List Item) :
    (items.dropWhile fun item => !keep item).filter keep = items.filter keep := by
  induction items with
  | nil => rfl
  | cons item items inductionHypothesis =>
      by_cases kept : keep item = true
      · simp [kept]
      · simp [kept, inductionHypothesis]

theorem ofAnswer_of_integerAt? {answers : List Text} {position : Nat} {value : Int}
    (integer : integerAt? answers position = some value) :
    Reading.ofAnswer answers[position]? = .value value := by
  unfold integerAt? at integer
  obtain ⟨answer, answered, number⟩ := Option.bind_eq_some_iff.mp integer
  simp [answered, Reading.ofAnswer, number]

/-! ## Loops in general -/

section Loops

variable {answers : List Text} {outline : Outline} {loop : Loop} {own : Iteration}
  {segments : List Segment} {run : Nat → Trail → Segment → Trail}
  {slotsOf : Nat → Segment → List Slot} {earlier : List Slot} {count : Nat}

/-- The slots in front of a pass of a loop that is entered behind `earlier`. -/
def slotsUpToPass (slotsOf : Nat → Segment → List Slot) (segments : List Segment)
    (earlier : List Slot) (index : Nat) : List Slot :=
  earlier ++ (List.range index).flatMap fun index => segments.flatMap (slotsOf index)

theorem slotsUpToPass_zero : slotsUpToPass slotsOf segments earlier 0 = earlier := by
  simp [slotsUpToPass]

theorem slotsUpToPass_succ (index : Nat) :
    slotsUpToPass slotsOf segments earlier (index + 1) =
      slotsUpToPass slotsOf segments earlier index ++ segments.flatMap (slotsOf index) := by
  simp [slotsUpToPass, List.range_succ]

theorem slotsUpToPass_add (slotsOf : Nat → Segment → List Slot) (segments : List Segment)
    (earlier : List Slot) (index more : Nat) :
    ∃ rest, slotsUpToPass slotsOf segments earlier (index + more) =
      slotsUpToPass slotsOf segments earlier index ++ rest := by
  unfold slotsUpToPass
  rw [List.range_add, List.flatMap_append, ← List.append_assoc]
  exact ⟨_, rfl⟩

/-- In the passes of a loop every segment follows its slots. -/
def Follows (answers : List Text) (segments : List Segment)
    (run : Nat → Trail → Segment → Trail) (slotsOf : Nat → Segment → List Slot)
    (earlier : List Slot) (count : Nat) : Prop :=
  ∀ index, index < count → ∀ done segment rest, segments = done ++ segment :: rest →
    run index
        (follow answers
          (slotsUpToPass slotsOf segments earlier index ++ done.flatMap (slotsOf index)))
        segment =
      follow answers
        (slotsUpToPass slotsOf segments earlier index ++ done.flatMap (slotsOf index) ++
          slotsOf index segment)

theorem Follows.foldl (follows : Follows answers segments run slotsOf earlier count)
    {index : Nat} (within : index < count) (done parts rest : List Segment)
    (split : segments = done ++ parts ++ rest) :
    parts.foldl (run index)
        (follow answers
          (slotsUpToPass slotsOf segments earlier index ++ done.flatMap (slotsOf index))) =
      follow answers
        (slotsUpToPass slotsOf segments earlier index ++
          (done ++ parts).flatMap (slotsOf index)) := by
  induction parts generalizing done with
  | nil => simp
  | cons segment parts inductionHypothesis =>
      have next := inductionHypothesis (done ++ [segment]) (by simp [split])
      simp only [List.flatMap_append, List.flatMap_singleton, List.append_assoc,
        List.singleton_append] at next ⊢
      rw [List.foldl_cons, follows index within done segment (parts ++ rest) (by simp [split])]
      simpa [List.append_assoc] using next

theorem Follows.passes (follows : Follows answers segments run slotsOf earlier count)
    (rounds first : Nat) (within : first + rounds ≤ count) :
    InputDemand.passes (fun index trail => segments.foldl (run index) trail) rounds first
        (follow answers (slotsUpToPass slotsOf segments earlier first)) =
      follow answers (slotsUpToPass slotsOf segments earlier (first + rounds)) := by
  induction rounds generalizing first with
  | zero => rfl
  | succ rounds inductionHypothesis =>
      unfold InputDemand.passes
      split
      · rename_i halted
        obtain ⟨rest, longer⟩ :=
          slotsUpToPass_add slotsOf segments earlier first (rounds + 1)
        rw [longer, follow_append_of_halted answers halted]
      · have pass := follows.foldl (by omega : first < count) [] segments [] (by simp)
        simp only [List.flatMap_nil, List.append_nil, List.nil_append] at pass
        rw [pass, ← slotsUpToPass_succ, inductionHypothesis (first + 1) (by omega)]
        congr 2
        omega

/-- In the first pass the slots directly in the body are those of the segments that ask. -/
structure OwnSlots (own : Iteration) (slotsOf : Nat → Segment → List Slot) : Prop where
  ask : ∀ prompt, slotsOf 0 (.ask prompt) = [prompt.slot (some own)]
  nested : ∀ loop prompts, ∀ slot ∈ slotsOf 0 (.nested loop prompts),
    slot.iteration? ≠ some own

theorem OwnSlots.asksIn_eq_false (ownSlots : OwnSlots own slotsOf) {segment : Segment}
    {name : Text} (silent : segment.reads name = false) :
    ∀ slot ∈ slotsOf 0 segment, slot.asksIn own name = false := by
  intro slot member
  cases segment with
  | ask prompt =>
      rw [ownSlots.ask] at member
      have absent : prompt.site.target? ≠ some name := by
        simpa [Segment.reads] using silent
      rw [List.mem_singleton.mp member]
      simp [Slot.asksIn, Slot.asks, Prompt.slot, absent]
  | nested loop prompts =>
      simp [Slot.asksIn, ownSlots.nested loop prompts slot member]

theorem OwnSlots.findIdx?_eq_none (ownSlots : OwnSlots own slotsOf)
    {parts : List Segment} {name : Text}
    (silent : ∀ segment ∈ parts, segment.reads name = false) :
    (parts.flatMap (slotsOf 0)).findIdx? (Slot.asksIn own name) = none := by
  rw [List.findIdx?_eq_none_iff]
  intro slot member
  obtain ⟨segment, inParts, inSlots⟩ := List.mem_flatMap.mp member
  exact ownSlots.asksIn_eq_false (silent segment inParts) slot inSlots

theorem OwnSlots.findIdx?_eq_some (ownSlots : OwnSlots own slotsOf)
    {front back : List Segment} {prompt : Prompt} {name : Text}
    (silent : ∀ segment ∈ front, segment.reads name = false)
    (target : prompt.site.target? = some name) :
    ((front ++ .ask prompt :: back).flatMap (slotsOf 0)).findIdx? (Slot.asksIn own name) =
      some (front.flatMap (slotsOf 0)).length := by
  have first : (Slot.asksIn own name) (prompt.slot (some own)) = true := by
    simp [Slot.asksIn, Slot.asks, Prompt.slot, target]
  rw [List.flatMap_append, List.findIdx?_append, ownSlots.findIdx?_eq_none silent,
    List.flatMap_cons, ownSlots.ask, List.singleton_append, List.findIdx?_cons, if_pos first]
  simp

/-- A body that reads a name splits at the first segment that does. -/
theorem exists_first_read {name : Text}
    (reads : segments.any (Segment.reads name) = true) :
    ∃ front prompt back,
      segments = front ++ .ask prompt :: back ∧
        segments.takeWhile (fun segment => !segment.reads name) = front ∧
        (∀ segment ∈ front, segment.reads name = false) ∧
        prompt.site.target? = some name := by
  induction segments with
  | nil => simp at reads
  | cons segment segments inductionHypothesis =>
      cases here : segment.reads name with
      | true =>
          cases segment with
          | ask prompt =>
              exact ⟨[], prompt, segments, rfl, by simp [here], by simp,
                by simpa [Segment.reads] using here⟩
          | nested loop prompts => simp [Segment.reads] at here
      | false =>
          rw [List.any_cons, here, Bool.false_or] at reads
          obtain ⟨front, prompt, back, split, taken, silent, target⟩ :=
            inductionHypothesis reads
          refine ⟨segment :: front, prompt, back, by simp [split], by simp [here, taken],
            ?_, target⟩
          intro part member
          rcases List.mem_cons.mp member with rfl | later
          · exact here
          · exact silent part later

theorem runLoop_of_count {trail : Trail} {known : Nat} (nonempty : segments ≠ [])
    (noLate : lateName? loop segments trail = none)
    (counted : outline.count loop trail.names = .ok known) :
    runLoop outline loop segments run trail =
      InputDemand.passes (fun index trail => segments.foldl (run index) trail)
        (max known loop.fewest) 0 trail := by
  simp [runLoop, nonempty, noLate, Outline.counted, counted]

theorem runLoop_of_lateName {trail : Trail} {name : Text} {front back : List Segment}
    {prompt : Prompt} (split : segments = front ++ Segment.ask prompt :: back)
    (taken : segments.takeWhile (fun segment => !segment.reads name) = front)
    (late : lateName? loop segments trail = some name) :
    runLoop outline loop segments run trail =
      outline.counted loop
        (fun count read => InputDemand.passes
          (fun index trail => segments.foldl (run index) trail) (count - 1) 1
          (back.foldl (run 0) read)) ((front ++ [Segment.ask prompt]).foldl (run 0) trail) := by
  have nonempty : segments.isEmpty = false := by simp [split]
  have behind : segments.drop front.length = Segment.ask prompt :: back := by simp [split]
  simp only [runLoop, nonempty, late, taken, behind, List.take_succ_cons, List.take_zero,
    List.drop_succ_cons, List.drop_zero]
  rfl

theorem counted_of_halted {trail : Trail} {goOn : Nat → Trail → Trail}
    (reaches : ∀ count trail, Reaches answers trail (goOn count trail))
    (halted : trail.halted = true) :
    outline.counted loop goOn trail = trail :=
  (reaches_counted outline loop reaches trail).eq_of_halted halted

/-- Right behind the slot that its bound is read into the count of a loop is known. -/
theorem count_of_read {name : Text} {value : Int} {done : List Slot} {prompt : Prompt}
    (bound : loop.trip.bound = .name name) (target : prompt.site.target? = some name)
    (integer : integerAt? answers done.length = some value)
    (running : (follow answers (done ++ [prompt.slot (some own)])).halted = false) :
    outline.count loop (follow answers (done ++ [prompt.slot (some own)])).names =
      .ok (loop.trip.iterations value) := by
  have asks : (prompt.slot (some own)).asks name = true := by
    simp [Slot.asks, Prompt.slot, target]
  have latest : lastAsking? name (done ++ [prompt.slot (some own)]) = some done.length := by
    rw [lastAsking?_concat, if_pos asks]
  simp only [Outline.count, bound, lookup_follow answers running, latest, Option.map_some,
    ofAnswer_of_integerAt? integer]

/-- A loop that reads its bound first in its own body makes the first pass whole, with the count
taken behind the read, and then the others. -/
theorem runLoop_of_late {name : Text} {value : Int}
    {front back : List Segment} {prompt : Prompt}
    (ownSlots : OwnSlots own slotsOf)
    (reaches : ∀ index trail segment, Reaches answers trail (run index trail segment))
    (follows : Follows answers segments run slotsOf earlier (max (loop.trip.iterations value) 1))
    (bound : loop.trip.bound = .name name)
    (late : lateName? loop segments (follow answers earlier) = some name)
    (split : segments = front ++ Segment.ask prompt :: back)
    (taken : segments.takeWhile (fun segment => !segment.reads name) = front)
    (target : prompt.site.target? = some name)
    (integer : integerAt? answers (earlier.length + (front.flatMap (slotsOf 0)).length) =
      some value) :
    runLoop outline loop segments run (follow answers earlier) =
      follow answers
        (slotsUpToPass slotsOf segments earlier (max (loop.trip.iterations value) 1)) := by
  have within : 0 < max (loop.trip.iterations value) 1 := by omega
  have whole : front ++ [Segment.ask prompt] ++ back = segments := by simp [split]
  -- `readSlots` are the slots up to the read behind which the count is taken.
  obtain ⟨readSlots, readSlotsEq⟩ : ∃ slots, slots =
      earlier ++ (front ++ [Segment.ask prompt]).flatMap (slotsOf 0) := ⟨_, rfl⟩
  have read := follows.foldl within [] (front ++ [Segment.ask prompt]) back (by simp [split])
  rw [slotsUpToPass_zero, List.flatMap_nil, List.append_nil, List.nil_append,
    ← readSlotsEq] at read
  have passed := follows.foldl within (front ++ [Segment.ask prompt]) back [] (by simp [split])
  rw [whole, ← slotsUpToPass_succ, slotsUpToPass_zero, ← readSlotsEq] at passed
  rw [runLoop_of_lateName split taken late, read]
  cases halted : (follow answers readSlots).halted with
  | true =>
      have pass : ∀ (parts : List Segment) (index : Nat) (trail : Trail),
          Reaches answers trail (parts.foldl (run index) trail) :=
        fun parts index trail => reaches_foldl (reaches index) parts trail
      obtain ⟨rest, longer⟩ := slotsUpToPass_add slotsOf segments earlier 1
        (max (loop.trip.iterations value) 1 - 1)
      have more : slotsUpToPass slotsOf segments earlier 1 =
          readSlots ++ back.flatMap (slotsOf 0) := by
        rw [slotsUpToPass_succ, slotsUpToPass_zero, readSlotsEq, List.append_assoc,
          ← List.flatMap_append, whole]
      rw [Nat.add_sub_of_le within, more, List.append_assoc] at longer
      rw [counted_of_halted (fun count trail => (pass back 0 trail).trans
        (reaches_passes (pass segments) (count - 1) 1 _)) halted, longer,
        follow_append_of_halted answers halted]
  | false =>
      have readLast : readSlots =
          (earlier ++ front.flatMap (slotsOf 0)) ++ [prompt.slot (some own)] := by
        rw [readSlotsEq, List.flatMap_append, List.flatMap_singleton, ownSlots.ask,
          List.append_assoc]
      have known : outline.count loop (follow answers readSlots).names =
          .ok (loop.trip.iterations value) := by
        rw [readLast] at halted ⊢
        exact count_of_read bound target (by rwa [List.length_append]) halted
      have passes := follows.passes (loop.trip.iterations value - 1) 1 (by omega)
      simp only [Outline.counted, known, passed, passes]
      congr 2
      omega

/-- A loop whose count is known on entry makes its passes. -/
theorem runLoop_of_early {known : Nat}
    (follows : Follows answers segments run slotsOf earlier (max known loop.fewest))
    (nonempty : segments ≠ []) (noLate : lateName? loop segments (follow answers earlier) = none)
    (counted : outline.count loop (follow answers earlier).names = .ok known) :
    runLoop outline loop segments run (follow answers earlier) =
      follow answers (slotsUpToPass slotsOf segments earlier (max known loop.fewest)) := by
  have passes := follows.passes (max known loop.fewest) 0 (by omega)
  rw [slotsUpToPass_zero, Nat.zero_add] at passes
  rw [runLoop_of_count nonempty noLate counted, passes]

theorem runLoop_of_halted
    (reaches : ∀ index trail segment, Reaches answers trail (run index trail segment))
    (halted : (follow answers earlier).halted = true) :
    runLoop outline loop segments run (follow answers earlier) =
      follow answers (slotsUpToPass slotsOf segments earlier count) := by
  obtain ⟨rest, longer⟩ := slotsUpToPass_add slotsOf segments earlier 0 count
  rw [Nat.zero_add, slotsUpToPass_zero] at longer
  rw [(reaches_runLoop outline loop segments reaches _).eq_of_halted halted, longer,
    follow_append_of_halted answers halted]

/-- A loop whose count is known follows the slots of its passes. -/
theorem runLoop_follow
    (ownSlots : OwnSlots own slotsOf)
    (reaches : ∀ index trail segment, Reaches answers trail (run index trail segment))
    (follows : Follows answers segments run slotsOf earlier count)
    (known : segments ≠ [] → outline.passCount? answers loop own earlier
      (segments.flatMap (slotsOf 0)) = some count) :
    runLoop outline loop segments run (follow answers earlier) =
      follow answers (slotsUpToPass slotsOf segments earlier count) := by
  by_cases nonempty : segments = []
  · subst nonempty
    have nothing : (List.range count).flatMap (fun _ => ([] : List Slot)) = [] :=
      List.flatMap_eq_nil_iff.mpr fun _ _ => rfl
    simp [runLoop, slotsUpToPass, nothing]
  cases halted : (follow answers earlier).halted with
  | true => exact runLoop_of_halted reaches halted
  | false =>
      have known := known nonempty
      -- `passCount?` looks for the bound where the walk does: among the earlier answers, then in
      -- the first pass, then among the assignments.
      unfold Outline.passCount? at known
      cases bound : loop.trip.bound with
      | literal value =>
          simp only [bound] at known
          obtain rfl := Option.some.inj known
          exact runLoop_of_early follows nonempty (by simp [lateName?, bound])
            (by simp [Outline.count, bound])
      | unknown expression => simp [bound] at known
      | name name =>
          have lookup := lookup_follow answers halted name
          simp only [bound] at known
          cases asked : lastAsking? name earlier with
          | some position =>
              simp only [asked, Option.map_eq_some_iff] at known
              obtain ⟨value, integer, rfl⟩ := known
              rw [asked, Option.map_some, ofAnswer_of_integerAt? integer] at lookup
              exact runLoop_of_early follows nonempty (by simp [lateName?, bound, lookup])
                (by simp only [Outline.count, bound, lookup])
          | none =>
              rw [asked, Option.map_none] at lookup
              cases reads : segments.any (Segment.reads name) with
              | true =>
                  obtain ⟨front, prompt, back, split, taken, silent, target⟩ :=
                    exists_first_read reads
                  have found : (segments.flatMap (slotsOf 0)).findIdx? (Slot.asksIn own name) =
                      some (front.flatMap (slotsOf 0)).length := by
                    rw [split]
                    exact ownSlots.findIdx?_eq_some silent target
                  simp only [asked, found, Option.map_eq_some_iff] at known
                  obtain ⟨value, integer, rfl⟩ := known
                  exact runLoop_of_late ownSlots reaches follows bound
                    (by simp [lateName?, bound, lookup, reads]) split taken target integer
              | false =>
                  have silent : ∀ segment ∈ segments, segment.reads name = false := by
                    simpa using reads
                  simp only [asked, ownSlots.findIdx?_eq_none silent,
                    Option.map_eq_some_iff] at known
                  obtain ⟨value, assigned, rfl⟩ := known
                  exact runLoop_of_early follows nonempty (by simp [lateName?, bound, reads])
                    (by simp only [Outline.count, bound, lookup, assigned])

end Loops

/-! ## The nested loop -/

def Segment.nestedSlots (outer inner : Nat) : Segment → List Slot
  | ask prompt => [prompt.slot (some ⟨outer, some inner⟩)]
  | nested .. => []

theorem flatMap_nestedSlots (prompts : List Prompt) (outer inner : Nat) :
    (prompts.map Segment.ask).flatMap (Segment.nestedSlots outer inner) =
      nestedPass prompts outer inner := by
  induction prompts with
  | nil => rfl
  | cons prompt prompts inductionHypothesis =>
      simp only [List.map_cons, List.flatMap_cons, inductionHypothesis]
      rfl

theorem runNested_follow {outline : Outline} {answers : List Text} {loop : Loop}
    {prompts : List Prompt} {earlier : List Slot} {outer count : Nat}
    (delimited : loop.body?.isSome = true)
    (known : prompts ≠ [] → outline.passCount? answers loop ⟨outer, some 0⟩ earlier
      (nestedPass prompts outer 0) = some count) :
    runNested outline answers outer loop prompts (follow answers earlier) =
      follow answers (earlier ++ (List.range count).flatMap (nestedPass prompts outer)) := by
  have body : loop.body?.isNone = false := by
    rw [← Option.not_isSome, delimited]
    rfl
  have slots : slotsUpToPass (Segment.nestedSlots outer) (prompts.map Segment.ask)
      earlier count = earlier ++ (List.range count).flatMap (nestedPass prompts outer) := by
    simp only [slotsUpToPass, flatMap_nestedSlots]
  have ownSlots : OwnSlots ⟨outer, some 0⟩ (Segment.nestedSlots outer) :=
    ⟨fun _ => rfl, fun _ _ _ member => by simp [Segment.nestedSlots] at member⟩
  simp only [runNested, body]
  rw [← slots]
  refine runLoop_follow ownSlots ?_ ?_ ?_
  · intro inner trail segment
    cases segment with
    | ask prompt => exact .ask _ prompt .refl
    | nested loop prompts => exact .refl
  · intro inner _ done segment rest _
    cases segment with
    | ask prompt =>
        exact (follow_concat answers _ (prompt.slot (some ⟨outer, some inner⟩))).symm
    | nested loop prompts => simp [Segment.nestedSlots]
  · intro nonempty
    rw [flatMap_nestedSlots]
    exact known (by simpa using nonempty)

/-! ## The main loop -/

def Segment.mainSlots (repeats : Nat → Nat) (outer : Nat) : Segment → List Slot
  | ask prompt => [prompt.slot (some ⟨outer, none⟩)]
  | nested _ prompts => (List.range (repeats outer)).flatMap (nestedPass prompts outer)

theorem flatMap_mainSlots_ask (repeats : Nat → Nat) (outer : Nat) (prompts : List Prompt) :
    (prompts.map Segment.ask).flatMap (Segment.mainSlots repeats outer) =
      prompts.map (Prompt.slot (some ⟨outer, none⟩)) := by
  induction prompts with
  | nil => rfl
  | cons prompt prompts inductionHypothesis =>
      simp only [List.map_cons, List.flatMap_cons, inductionHypothesis]
      rfl

theorem ownSlots_mainSlots (repeats : Nat → Nat) :
    OwnSlots ⟨0, none⟩ (Segment.mainSlots repeats) where
  ask _ := rfl
  nested loop prompts slot member := by
    obtain ⟨inner, _, inPass⟩ := List.mem_flatMap.mp member
    obtain ⟨prompt, _, rfl⟩ := List.mem_map.mp inPass
    simp [Prompt.slot]

section MainLoop

variable {outline : Outline}

/-- The body of the main loop asks for all its sites directly, or it has the nested loop in place
of the first nested site. -/
theorem segments_cases
    (delimited : ∀ nested, outline.nestedLoop? = some nested → nested.body?.isSome = true)
    (body : Span) (inside : List Prompt) :
    ((∀ prompt ∈ inside, outline.isNested prompt = false) ∧
      segments body outline.nestedLoop? inside = inside.map Segment.ask) ∨
    ∃ nested, outline.nestedLoop? = some nested ∧ inside.filter outline.isNested ≠ [] ∧
      segments body outline.nestedLoop? inside =
        (inside.takeWhile fun prompt => !outline.isNested prompt).map Segment.ask ++
          Segment.nested nested (inside.filter outline.isNested) ::
            ((inside.dropWhile fun prompt => !outline.isNested prompt).filter
              fun prompt => !outline.isNested prompt).map Segment.ask := by
  cases found : outline.nestedLoop? with
  | none =>
      left
      exact ⟨fun prompt _ => by simp [Outline.isNested, inBody, found], rfl⟩
  | some nested =>
      obtain ⟨region, regionEq⟩ := Option.isSome_iff_exists.mp (delimited nested found)
      have sameRegion : ∀ prompt : Prompt,
          (nestedRegion body nested).contains prompt.site.start = outline.isNested prompt := by
        intro prompt
        simp [nestedRegion, regionEq, Outline.isNested, inBody, found]
      simp only [segments, sameRegion, drop_length_takeWhile]
      have nestedPart := filter_dropWhile_not outline.isNested inside
      -- Either no site is nested, or the first nested one stands in front of what is left.
      cases behind : inside.dropWhile fun prompt => !outline.isNested prompt with
      | nil =>
          have whole := List.takeWhile_append_dropWhile (l := inside)
            (p := fun prompt => !outline.isNested prompt)
          rw [behind, List.append_nil] at whole
          refine Or.inl ⟨fun prompt member => ?_, by rw [whole]; rfl⟩
          rw [← whole] at member
          simpa using List.all_eq_true.mp List.all_takeWhile prompt member
      | cons first rest =>
          refine Or.inr ⟨nested, rfl, ?_, ?_⟩
          · have nonempty : inside.dropWhile (fun prompt => !outline.isNested prompt) ≠ [] := by
              simp [behind]
            have stopped := List.head_dropWhile_not _ nonempty
            simp only [behind, List.head_cons] at stopped
            have firstNested : outline.isNested first = true := by simpa using stopped
            rw [← nestedPart, behind, List.filter_cons_of_pos firstNested]
            exact List.cons_ne_nil _ _
          · rw [← nestedPart, behind]
            simp

theorem flatMap_mainSlots
    (delimited : ∀ nested, outline.nestedLoop? = some nested → nested.body?.isSome = true)
    (body : Span) (inside : List Prompt) (repeats : Nat → Nat) (outer : Nat) :
    (segments body outline.nestedLoop? inside).flatMap (Segment.mainSlots repeats outer) =
      mainPass outline.isNested inside (repeats outer) outer := by
  have block : ∀ nested : List Prompt, nested = [] →
      (List.range (repeats outer)).flatMap (nestedPass nested outer) = [] := by
    intro nested empty
    subst empty
    exact List.flatMap_eq_nil_iff.mpr fun _ _ => rfl
  rcases segments_cases delimited body inside with
    ⟨silent, shape⟩ | ⟨nested, _, _, shape⟩
  · have front : (inside.takeWhile fun prompt => !outline.isNested prompt) = inside :=
      List.takeWhile_eq_self_iff.mpr (by simpa using silent)
    have back : (inside.dropWhile fun prompt => !outline.isNested prompt) = [] :=
      List.dropWhile_eq_nil_iff.mpr (by simpa using silent)
    have nothing : inside.filter outline.isNested = [] :=
      List.filter_eq_nil_iff.mpr (by simpa using silent)
    rw [shape, flatMap_mainSlots_ask, mainPass, front, back, block _ nothing]
    simp
  · rw [shape, List.flatMap_append, List.flatMap_cons, flatMap_mainSlots_ask,
      flatMap_mainSlots_ask, mainPass, List.append_assoc]
    rfl

/-- In a body the nested loop stands once. -/
theorem eq_of_nested_mem {front back : List Prompt} {nested loop : Loop}
    {nestedPrompts prompts : List Prompt} {done rest : List Segment}
    (split : front.map Segment.ask ++ Segment.nested nested nestedPrompts ::
      back.map Segment.ask = done ++ Segment.nested loop prompts :: rest) :
    done = front.map Segment.ask ∧ loop = nested ∧ prompts = nestedPrompts := by
  induction front generalizing done with
  | nil =>
      cases done with
      | nil =>
          simp only [List.map_nil, List.nil_append, List.cons.injEq, Segment.nested.injEq] at split
          exact ⟨rfl, split.1.1.symm, split.1.2.symm⟩
      | cons segment done =>
          simp only [List.map_nil, List.nil_append, List.cons_append, List.cons.injEq] at split
          have member : Segment.nested loop prompts ∈ back.map Segment.ask := by
            rw [split.2]
            simp
          simp at member
  | cons prompt front inductionHypothesis =>
      cases done with
      | nil => simp at split
      | cons segment done =>
          simp only [List.map_cons, List.cons_append, List.cons.injEq] at split
          obtain ⟨same, sameLoop, samePrompts⟩ := inductionHypothesis split.2
          exact ⟨by rw [List.map_cons, split.1, same], sameLoop, samePrompts⟩

theorem slotsUpToPass_mainSlots
    (delimited : ∀ nested, outline.nestedLoop? = some nested → nested.body?.isSome = true)
    (body : Span) (prompts : List Prompt) (repeats : Nat → Nat) (outer : Nat) :
    slotsUpToPass (Segment.mainSlots repeats)
        (segments body outline.nestedLoop? (prompts.filter fun prompt => prompt.site.inLoop))
        (Outline.slotsBefore body prompts) outer =
      outline.slotsUpTo body prompts repeats outer := by
  simp only [slotsUpToPass, flatMap_mainSlots delimited]
  rfl

/-- In a pass of the main loop every segment follows its slots: a question directly, and the nested
loop because its count is known where it is entered. -/
theorem follows_mainSlots {answers : List Text} {mainLoop : Loop} {body : Span}
    {prompts : List Prompt} {passes : Nat} {repeats : Nat → Nat}
    (delimited : ∀ nested, outline.nestedLoop? = some nested → nested.body?.isSome = true)
    (known : outline.CountsKnown answers mainLoop body prompts passes repeats) :
    Follows answers
      (segments body outline.nestedLoop? (prompts.filter fun prompt => prompt.site.inLoop))
      (runSegment outline answers) (Segment.mainSlots repeats)
      (Outline.slotsBefore body prompts) passes := by
  intro outer within done segment rest split
  cases segment with
  | ask prompt =>
      exact (follow_concat answers _ (prompt.slot (some ⟨outer, none⟩))).symm
  | nested loop nestedPrompts =>
      rcases segments_cases delimited body (prompts.filter fun prompt => prompt.site.inLoop) with
        ⟨_, shape⟩ | ⟨nested, found, nonempty, shape⟩
      · have member : Segment.nested loop nestedPrompts ∈
            (prompts.filter fun prompt => prompt.site.inLoop).map Segment.ask := by
          rw [← shape, split]
          simp
        simp at member
      · rw [split] at shape
        obtain ⟨rfl, rfl, rfl⟩ := eq_of_nested_mem shape.symm
        rw [slotsUpToPass_mainSlots delimited, flatMap_mainSlots_ask]
        refine runNested_follow (delimited loop found) fun _ => ?_
        refine known.nested loop found ?_ outer within
        obtain ⟨prompt, member⟩ := List.exists_mem_of_ne_nil _ nonempty
        obtain ⟨inLoop, isNested⟩ := List.mem_filter.mp member
        obtain ⟨inPrompts, inside⟩ := List.mem_filter.mp inLoop
        exact ⟨prompt, inPrompts, inside, isNested⟩

theorem loopTrail_follow {answers : List Text} {mainLoop : Loop} {body : Span}
    {prompts : List Prompt} {passes : Nat} {repeats : Nat → Nat}
    (delimited : ∀ nested, outline.nestedLoop? = some nested → nested.body?.isSome = true)
    (known : outline.CountsKnown answers mainLoop body prompts passes repeats) :
    outline.loopTrail answers mainLoop body prompts =
      follow answers (outline.slotsInOrder body prompts passes repeats) := by
  have before : Outline.straightTrail answers
      ((prompts.filter fun prompt => !prompt.site.inLoop).filter
        fun prompt => prompt.site.start < body.start) empty =
      follow answers (Outline.slotsBefore body prompts) := by
    have followed := follow_append_map answers [] none (prompts.filter fun prompt =>
      !prompt.site.inLoop && decide (prompt.site.start < body.start))
    rw [List.nil_append] at followed
    simp only [List.filter_filter, Bool.and_comm]
    exact followed.symm
  have looped : runLoop outline mainLoop
      (segments body outline.nestedLoop? (prompts.filter fun prompt => prompt.site.inLoop))
      (runSegment outline answers) (follow answers (Outline.slotsBefore body prompts)) =
      follow answers (outline.slotsUpTo body prompts repeats passes) := by
    rw [← slotsUpToPass_mainSlots delimited]
    refine runLoop_follow (ownSlots_mainSlots repeats) (reaches_runSegment outline)
      (follows_mainSlots delimited known) fun nonempty => ?_
    rw [flatMap_mainSlots delimited]
    apply known.main
    -- Without a site in the body there is no step, and the count is not looked at.
    by_contra silent
    have nothing : (prompts.filter fun prompt => prompt.site.inLoop) = [] :=
      List.filter_eq_nil_iff.mpr fun prompt member inLoop => silent ⟨prompt, member, inLoop⟩
    rw [nothing] at nonempty
    rcases segments_cases delimited body [] with ⟨_, shape⟩ | ⟨_, _, absent, _⟩
    · exact nonempty shape
    · exact absent rfl
  unfold Outline.loopTrail
  simp only [before, looped]
  have behind := follow_append_map answers (outline.slotsUpTo body prompts repeats passes) none
    (prompts.filter fun prompt => !prompt.site.inLoop && decide (body.start ≤ prompt.site.start))
  simp only [List.filter_filter, Bool.and_comm]
  exact behind.symm

end MainLoop

namespace Outline

theorem lists_of_follow {outline : Outline} {prompts : List Prompt} {answers : List Text}
    {slots : List Slot} (followed : outline.trail prompts answers = follow answers slots) :
    (outline.plan prompts answers).Lists slots := by
  simp only [Plan.Lists, plan, followed]
  exact follow_slots answers slots

/-- A plan lists the values of a program in reading order: every site once if there is no loop; else
the sites in front of the main loop, pass by pass those of the loops, and the others, if every loop
with sites knows its count when it is entered. -/
theorem plan_in_reading_order (outline : Outline) (prompts : List Prompt)
    (answers : List Text) :
    (outline.mainLoop? = none →
      (outline.plan prompts answers).Lists (prompts.map (Prompt.slot none))) ∧
    ∀ (mainLoop : Loop) (body : Span) (passes : Nat) (repeats : Nat → Nat),
      outline.mainLoop? = some mainLoop → mainLoop.body? = some body →
      (∀ nested, outline.nestedLoop? = some nested → nested.body?.isSome = true) →
      outline.CountsKnown answers mainLoop body prompts passes repeats →
      (outline.plan prompts answers).Lists
        (outline.slotsInOrder body prompts passes repeats) := by
  constructor
  · intro noLoop
    apply lists_of_follow
    simp only [trail, noLoop]
    exact (follow_append_map answers [] none prompts).symm
  · intro mainLoop body passes repeats found bodyFound delimited known
    apply lists_of_follow
    simp only [trail, found, bodyFound]
    exact loopTrail_follow delimited known

/-! A main loop whose count is read in its own body, behind the nested loop, whose count in turn is
read anew in every pass. -/

def promptAt (start : Nat) (target : Char) (inLoop : Bool) : Prompt :=
  ⟨[target], ⟨⟨⟨start, start + 1⟩, some [target], none⟩, inLoop, false, none⟩, true⟩

def loopCountedBy (name : Char) (header body : Span) : Loop :=
  ⟨.counter, ⟨.name [name], 0, 1⟩, .ascending, none, none, header, some body⟩

def lateGridLoop : Loop :=
  loopCountedBy 'n' ⟨10, 20⟩ ⟨20, 60⟩

/-- Reads `k`, then `x` in the nested loop up to `k`, then `n` in the main loop up to `n`. -/
def lateGrid : Outline :=
  ⟨some lateGridLoop, some (loopCountedBy 'k' ⟨25, 30⟩ ⟨30, 40⟩), [], []⟩

def lateGridPrompts : List Prompt :=
  [promptAt 0 'a' false, promptAt 22 'k' true, promptAt 32 'x' true, promptAt 50 'n' true,
    promptAt 70 'z' false]

def lateGridAnswers : List Text :=
  [['-'], ['1'], ['-'], [' ', '2'], ['+', '2']]

theorem lateGrid_in_reading_order :
    lateGrid.CountsKnown lateGridAnswers lateGridLoop ⟨20, 60⟩ lateGridPrompts 2
        (fun outer => outer + 1) ∧
      (lateGrid.plan lateGridPrompts lateGridAnswers).Lists
        (lateGrid.slotsInOrder ⟨20, 60⟩ lateGridPrompts 2 fun outer => outer + 1) := by
  have known : lateGrid.CountsKnown lateGridAnswers lateGridLoop ⟨20, 60⟩ lateGridPrompts 2
      (fun outer => outer + 1) := by
    constructor
    · intro _
      decide
    · intro nested found _ outer within
      cases found
      match outer, within with
      | 0, _ => decide
      | 1, _ => decide
  refine ⟨known, (plan_in_reading_order lateGrid lateGridPrompts lateGridAnswers).2
    lateGridLoop ⟨20, 60⟩ 2 (fun outer => outer + 1) rfl rfl ?_ known⟩
  intro nested found
  cases found
  rfl

end Outline

end InputDemand
